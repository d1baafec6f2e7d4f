import Modforge.Text.Letter

/-! # Digits -/

namespace Modforge.Text

def hexValue? (c : Char) : Option Nat :=
  if isDigit c then some (c.toNat - 48)
  else if 'a' ≤ c ∧ c ≤ 'f' then some (c.toNat - 87)
  else if 'A' ≤ c ∧ c ≤ 'F' then some (c.toNat - 55)
  else none

def isHexDigit (c : Char) : Bool := (hexValue? c).isSome

def isOctalDigit (c : Char) : Bool := '0' ≤ c && c ≤ '7'

def isBinaryDigit (c : Char) : Bool := c == '0' || c == '1'

/-- The number that some digits form, digits past the radix counting as they stand. -/
def valueIn (radix : Nat) (digits : List Char) : Nat :=
  digits.foldl (fun n c => n * radix + (hexValue? c).getD 0) 0

def valueOfDigits (digits : List Char) : Nat := valueIn 10 digits

def wholeIn? (radix : Nat) (inClass : Char → Bool) (digits : List Char) : Option Nat :=
  if !digits.isEmpty && digits.all inClass then some (valueIn radix digits) else none

def charOf? (code : Nat) : Option Char :=
  if code.isValidChar then some (Char.ofNat code) else none

@[simp] theorem valueIn_nil (radix : Nat) : valueIn radix [] = 0 := rfl

theorem valueIn_concat (radix : Nat) (digits : List Char) (c : Char) :
    valueIn radix (digits ++ [c]) = valueIn radix digits * radix + (hexValue? c).getD 0 := by
  simp [valueIn]

end Modforge.Text
