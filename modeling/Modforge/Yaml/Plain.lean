import Modforge.Decimal.Reading
import Modforge.Decimal.Word
import Modforge.Form.Loose

/-! # What plain scalars stand for -/

namespace Modforge.Yaml

def isNull (text : String) : Bool := ["null", "Null", "NULL", "~"].contains text

def asFlag? (text : String) : Option Bool :=
  if ["true", "True", "TRUE"].contains text then some true
  else if ["false", "False", "FALSE"].contains text then some false
  else none

/-- Digits, after a mark that tells their radix if it is not ten. -/
def natOf? : List Char → Option Nat
  | '0' :: 'x' :: digits => Text.wholeIn? 16 Text.isHexDigit digits
  | '0' :: 'o' :: digits => Text.wholeIn? 8 Text.isOctalDigit digits
  | '0' :: 'b' :: digits => Text.wholeIn? 2 Text.isBinaryDigit digits
  | digits => Text.wholeIn? 10 Text.isDigit digits

def dropSign : List Char → List Char
  | c :: rest => if c = '-' ∨ c = '+' then rest else c :: rest
  | [] => []

def hasLeadingZero (text : List Char) : Bool :=
  match dropSign text with
  | '0' :: rest => !rest.isEmpty && rest.all Text.isDigit
  | _ => false

def wholeOf? (text : List Char) : Option (Bool × Nat) :=
  if hasLeadingZero text then none
  else match text with
    | '-' :: digits => (natOf? digits).map (true, ·)
    | '+' :: digits => (natOf? digits).map (false, ·)
    | digits => (natOf? digits).map (false, ·)

/-- What becomes of a whole number: those of up to 64 bits are kept, somewhat larger ones are
refused, and still larger ones are no whole numbers. -/
inductive Whole where
  | kept (value : Loose)
  | refused
  | none

def wholeOf (text : List Char) : Whole :=
  match wholeOf? text with
  | .none => .none
  | some (true, n) =>
    if Decimal.fitsSigned 64 (-n) then .kept (.minus n)
    else if Decimal.fitsSigned 128 (-n) then .refused
    else .none
  | some (false, n) =>
    if Decimal.fitsUnsigned 64 n then .kept (.nat n)
    else if Decimal.fitsUnsigned 128 n then .refused
    else .none

def floatOf? (text : List Char) : Option Decimal.Double :=
  if [".inf", ".Inf", ".INF", "+.inf", "+.Inf", "+.INF"].contains (String.ofList text) then
    some (.infinite false)
  else if ["-.inf", "-.Inf", "-.INF"].contains (String.ofList text) then some (.infinite true)
  else if [".nan", ".NaN", ".NAN"].contains (String.ofList text) then some .undefined
  else match Decimal.Double.ofText? text with
    | some (.finite negative mantissa exponent) => some (.finite negative mantissa exponent)
    | _ => none

def looseOfPlain? (text : String) : Option Loose :=
  let chars := text.toList
  if text = "" ∨ isNull text then some .unit
  else match asFlag? text with
    | some flag => some (.flag flag)
    | none =>
      match wholeOf chars with
      | .kept value => some value
      | .refused => none
      | .none =>
        if hasLeadingZero chars then some (.text text)
        else match floatOf? chars with
          | some x => some (.float x)
          | none => some (.text text)

def tagOf (kind : String) : String := "tag:yaml.org,2002:" ++ kind

/-- The value of a scalar with a tag. A tag that starts with an exclamation mark fits no value. -/
def looseOfTagged? (tag text : String) : Option Loose :=
  if tag.startsWith "!" then none
  else if tag = tagOf "bool" then (asFlag? text).map .flag
  else if tag = tagOf "int" then
    match wholeOf text.toList with
    | .kept value => some value
    | _ => none
  else if tag = tagOf "float" then (floatOf? text.toList).map .float
  else if tag = tagOf "null" then if isNull text then some .unit else none
  else some (.text text)

end Modforge.Yaml
