import Modforge.Json.Value

/-! # What is wrong with a JSON text or value -/

namespace Modforge.Json

open Decimal (Double)

/-- How a text breaks the grammar. -/
inductive Malformed where
  | endInValue
  | endInList
  | endInObject
  | endInText
  | noValue
  | noWord
  | noColon
  | noListComma
  | noObjectComma
  | trailingComma
  | trailingCharacters
  | keyNotText
  | badNumber
  | numberTooLarge
  | badEscape
  | hexEscapeEnds
  | loneSurrogate
  | controlCharacter
  | tooDeep
  deriving DecidableEq, Repr

def Malformed.message : Malformed → String
  | .endInValue => "EOF while parsing a value"
  | .endInList => "EOF while parsing a list"
  | .endInObject => "EOF while parsing an object"
  | .endInText => "EOF while parsing a string"
  | .noValue => "expected value"
  | .noWord => "expected ident"
  | .noColon => "expected `:`"
  | .noListComma => "expected `,` or `]`"
  | .noObjectComma => "expected `,` or `\x7d`"
  | .trailingComma => "trailing comma"
  | .trailingCharacters => "trailing characters"
  | .keyNotText => "key must be a string"
  | .badNumber => "invalid number"
  | .numberTooLarge => "number out of range"
  | .badEscape => "invalid escape"
  | .hexEscapeEnds => "unexpected end of hex escape"
  | .loneSurrogate => "lone leading surrogate in hex escape"
  | .controlCharacter => "control character (\\u0000-\\u001F) found while parsing a string"
  | .tooDeep => "recursion limit exceeded"

/-- What stands where something else is asked for. -/
inductive Found where
  | null
  | flag (value : Bool)
  | int (value : Int)
  | float (value : Double)
  | text (value : String)
  | list
  | map
  deriving DecidableEq, Repr

def Found.describe : Found → String
  | .null => "null"
  | .flag value => "boolean `" ++ (if value then "true" else "false") ++ "`"
  | .int value => "integer `" ++ toString value ++ "`"
  | .float value => "floating point `" ++ value.shortText ++ "`"
  | .text value => "string " ++ Text.quoted value
  | .list => "sequence"
  | .map => "map"

def found : Json → Found
  | .null => .null
  | .flag value => .flag value
  | .int value => .int value
  | .float value => .float value
  | .text value => .text value
  | .list _ => .list
  | .object _ => .map

/-- How a value differs from what is asked for. -/
inductive Misfit where
  | kind (found : Found) (expected : String)
  | notSingleKey
  | length (count : Nat) (expected : String)
  | missing (key : String)
  | duplicate (key : String)
  | choice (name : String) (choices : List String)
  | refused (reason : String)
  deriving DecidableEq, Repr

def inTicks (name : String) : String := "`" ++ name ++ "`"

def oneOf : List String → String
  | [] => "there are no variants"
  | [a] => "expected " ++ inTicks a
  | [a, b] => "expected " ++ inTicks a ++ " or " ++ inTicks b
  | names => "expected one of " ++ Text.join ", " (names.map inTicks)

def Misfit.message : Misfit → String
  | .kind found expected => "invalid type: " ++ found.describe ++ ", expected " ++ expected
  | .notSingleKey => "invalid value: map, expected map with a single key"
  | .length count expected => "invalid length " ++ toString count ++ ", expected " ++ expected
  | .missing key => "missing field " ++ inTicks key
  | .duplicate key => "duplicate field " ++ inTicks key
  | .choice name choices => "unknown variant " ++ inTicks name ++ ", " ++ oneOf choices
  | .refused reason => reason

inductive Cause where
  | malformed (fault : Malformed)
  | misfit (fault : Misfit)
  deriving DecidableEq, Repr

def Cause.message : Cause → String
  | .malformed fault => fault.message
  | .misfit fault => fault.message

/-- A line, from one, and the bytes before in it. -/
structure Place where
  line : Nat
  column : Nat
  deriving DecidableEq, Repr

/-- A cause, with its place once that is known. -/
structure Fault where
  cause : Cause
  place : Option Place
  deriving DecidableEq, Repr

def Fault.message (fault : Fault) : String :=
  match fault.place with
  | none => fault.cause.message
  | some place =>
    fault.cause.message ++ " at line " ++ toString place.line ++ " column " ++
      toString place.column

end Modforge.Json
