import Modforge.Json.Value

/-! # Loose values, held before it is known what they stand for -/

namespace Modforge

inductive Loose where
  | unit
  | flag (value : Bool)
  | nat (value : Nat)
  /-- A whole number that was written with a minus sign. -/
  | minus (value : Nat)
  | float (value : Decimal.Double)
  | text (value : String)
  | list (items : List Loose)
  | map (entries : List (Loose × Loose))
  deriving Inhabited, Repr

namespace Loose

def ofInt (n : Int) : Loose := if 0 ≤ n then .nat n.toNat else .minus (-n).toNat

mutual

def ofJson : Json → Loose
  | .null => .unit
  | .flag value => .flag value
  | .int value => ofInt value
  | .float value => .float value
  | .text value => .text value
  | .list items => .list (ofJsonItems items)
  | .object entries => .map (ofJsonEntries entries)

def ofJsonItems : List Json → List Loose
  | [] => []
  | item :: rest => ofJson item :: ofJsonItems rest

def ofJsonEntries : List (String × Json) → List (Loose × Loose)
  | [] => []
  | (key, value) :: rest => (.text key, ofJson value) :: ofJsonEntries rest

end

def describe : Loose → String
  | .unit => "unit value"
  | .flag value => "boolean `" ++ (if value then "true" else "false") ++ "`"
  | .nat value => "integer `" ++ toString value ++ "`"
  | .minus value => "integer `" ++ toString (-(value : Int)) ++ "`"
  | .float value => "floating point `" ++ value.pointText ++ "`"
  | .text value => "string " ++ Text.quoted value
  | .list _ => "sequence"
  | .map _ => "map"

def asText? : Loose → Option String
  | .text value => some value
  | _ => none

end Loose

end Modforge
