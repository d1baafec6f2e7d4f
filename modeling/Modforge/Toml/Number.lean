import Modforge.Decimal.Reading
import Modforge.Decimal.Word
import Modforge.Toml.Value

/-! # Numbers, dates and times -/

namespace Modforge.Toml

open Text (Parse valueOfDigits)
open Text.Parse

/-- Digits of a class, single underscores between them left out. -/
def digitsOf (inClass : Char → Bool) : Parse (List Char) := do
  let first ← charWhere inClass
  let rest ← many do
    let _ ← accepts (char '_')
    charWhere inClass
  pure (first :: rest)

def asInt (n : Int) : Parse Value := if Decimal.fitsSigned 64 n then pure (.int n) else failure

/-! ## Numbers -/

def radixInt (mark : Char) (radix : Nat) (inClass : Char → Bool) : Parse Value := do
  exactly ['0', mark]
  asInt (Text.valueIn radix (← digitsOf inClass))

def signedDigits : Parse (List Char) := do
  let sign ← maybe (charWhere fun c => c == '+' || c == '-')
  let digits ←
    (do
      let first ← charWhere fun c => Text.isDigit c && c != '0'
      let rest ← many do
        let _ ← accepts (char '_')
        charWhere Text.isDigit
      pure (first :: rest)) <|>
    (do
      char '0'
      pure ['0'])
  pure (sign.toList ++ digits)

def decimalInt : Parse Value := do
  match ← signedDigits with
  | '-' :: digits => asInt (-(valueOfDigits digits : Int))
  | '+' :: digits => asInt (valueOfDigits digits)
  | digits => asInt (valueOfDigits digits)

def exponentText : Parse (List Char) := do
  let _ ← charWhere fun c => c == 'e' || c == 'E'
  let sign ← maybe (charWhere fun c => c == '+' || c == '-')
  let digits ← digitsOf Text.isDigit
  pure ('e' :: sign.toList ++ digits)

/-- Places or an exponent follow the whole part, or both. No number is larger than all. -/
def decimalFloat : Parse Value := do
  let whole ← signedDigits
  let places ← maybe do
    char '.'
    digitsOf Text.isDigit
  let exponent ← maybe exponentText
  if places.isNone && exponent.isNone then failure
  else
    let fraction := places.elim [] fun digits => '.' :: digits
    match Decimal.Double.ofText? (whole ++ fraction ++ exponent.getD []) with
    | some (.infinite false) => failure
    | some x => pure (.float x)
    | none => failure

def namedFloat : Parse Value := do
  let negative ← Decimal.readSign
  (do
    word "inf"
    pure (.float (.infinite negative))) <|>
  (do
    word "nan"
    pure (.float .undefined))

/-! ## Dates and times -/

def numberOf (width low high : Nat) : Parse Nat := fun text =>
  match Text.wholeIn? 10 Text.isDigit (text.take width) with
  | some n =>
    if (text.take width).length = width ∧ low ≤ n ∧ n ≤ high then some (n, text.drop width)
    else none
  | none => none

def isLeapYear (year : Nat) : Bool := year % 4 == 0 && (year % 100 != 0 || year % 400 == 0)

def daysOf (year month : Nat) : Nat :=
  if month = 2 then (if isLeapYear year then 29 else 28)
  else if [4, 6, 9, 11].contains month then 30
  else 31

def date : Parse Unit := do
  let year ← numberOf 4 0 9999
  char '-'
  let month ← numberOf 2 1 12
  char '-'
  let _ ← numberOf 2 1 (daysOf year month)

def time : Parse Unit := do
  let _ ← numberOf 2 0 23
  char ':'
  let _ ← numberOf 2 0 59
  char ':'
  let _ ← numberOf 2 0 60
  let _ ← maybe do
    char '.'
    takeWhile1 Text.isDigit

def offset : Parse Unit :=
  (do let _ ← charWhere fun c => c == 'Z' || c == 'z') <|>
  (do
    let _ ← charWhere fun c => c == '+' || c == '-'
    let _ ← numberOf 2 0 23
    char ':'
    let _ ← numberOf 2 0 59)

def moment : Parse Value :=
  (do
    date
    let _ ← maybe do
      let _ ← charWhere fun c => c == 'T' || c == 't' || c == ' '
      time
      maybe offset
    pure .moment) <|>
  (do
    time
    pure .moment)

def readNumber : Parse Value :=
  moment <|> decimalFloat <|> namedFloat <|> radixInt 'x' 16 Text.isHexDigit <|>
    radixInt 'o' 8 Text.isOctalDigit <|> radixInt 'b' 2 Text.isBinaryDigit <|> decimalInt

end Modforge.Toml
