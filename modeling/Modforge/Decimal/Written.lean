import Modforge.Decimal.Shortest

/-! # Doubles as text, in full or with an exponent -/

namespace Modforge.Decimal

def digitChar (d : Nat) : Char := Char.ofNat (48 + d)

def zeros (n : Nat) : List Char := List.replicate n '0'

def Digits.inFull (d : Digits) : List Char :=
  let digits := d.digits.map digitChar
  if d.point ≤ 0 then '0' :: '.' :: zeros (-d.point).toNat ++ digits
  else
    let whole := d.point.toNat
    if digits.length ≤ whole then digits ++ zeros (whole - digits.length)
    else digits.take whole ++ '.' :: digits.drop whole

def Digits.withExponent (d : Digits) : List Char :=
  let digits := (toString (d.point - 1)).toList
  let exponent := if 0 ≤ d.point - 1 then '+' :: digits else digits
  match d.digits.map digitChar with
  | [] => []
  | [digit] => digit :: 'e' :: exponent
  | first :: rest => first :: '.' :: rest ++ 'e' :: exponent

/-- In full from `10 ^ -5` up to `10 ^ 16`, with an exponent elsewhere. A whole number keeps
`.0`. -/
def Digits.short (d : Digits) : List Char :=
  if -5 < d.point ∧ d.point ≤ 16 then
    d.inFull ++ (if (d.digits.length : Int) ≤ d.point then ['.', '0'] else [])
  else d.withExponent

def signed (negative : Bool) (text : List Char) : String :=
  String.ofList (if negative then '-' :: text else text)

def Double.shortText : Double → String
  | .finite negative mantissa exponent =>
    signed negative (if mantissa = 0 then ['0', '.', '0'] else (shortest mantissa exponent).short)
  | .infinite negative => signed negative ['i', 'n', 'f']
  | .undefined => "NaN"

def Double.plainText : Double → String
  | .finite negative mantissa exponent =>
    signed negative (if mantissa = 0 then ['0'] else (shortest mantissa exponent).inFull)
  | .infinite negative => signed negative ['i', 'n', 'f']
  | .undefined => "NaN"

def Double.pointText : Double → String
  | x@(.finite _ _ _) =>
    if x.plainText.toList.contains '.' then x.plainText else x.plainText ++ ".0"
  | x => x.plainText

end Modforge.Decimal
