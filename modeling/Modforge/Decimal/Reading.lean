import Modforge.Decimal.Double
import Modforge.Text.Digits
import Modforge.Text.Parse

/-! # Decimals as doubles -/

namespace Modforge.Decimal

open Text (Parse valueOfDigits)
open Text.Parse

/-- A sign, if there is one. Tells whether it is a minus. -/
def readSign : Parse Bool := do
  if ← accepts (char '-') then pure true
  else do
    let _ ← accepts (char '+')
    pure false

def readExponent : Parse Int := do
  let _ ← charWhere fun c => c == 'e' || c == 'E'
  let negative ← readSign
  let digits ← takeWhile1 Text.isDigit
  let n : Int := valueOfDigits digits
  pure (if negative then -n else n)

def readDouble : Parse Double := do
  let negative ← readSign
  let whole ← takeWhile Text.isDigit
  let places ← if ← accepts (char '.') then takeWhile Text.isDigit else pure []
  let digits := whole ++ places
  if digits.isEmpty then failure
  else do
    let exponent ← maybe readExponent
    pure (.ofDecimal negative (valueOfDigits digits) (exponent.getD 0 - places.length))

def Double.ofText? (text : List Char) : Option Double := readDouble.run text

end Modforge.Decimal
