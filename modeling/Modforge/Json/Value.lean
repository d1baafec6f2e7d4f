import Modforge.Decimal.Written
import Modforge.Text.Quoted
import Modforge.Text.Split

/-!
# JSON values

Whole numbers are kept apart from the others. The entries of an object stand in the order of
their keys, and a key occurs once.
-/

namespace Modforge

inductive Json where
  | null
  | flag (value : Bool)
  | int (value : Int)
  | float (value : Decimal.Double)
  | text (value : String)
  | list (items : List Json)
  | object (entries : List (String × Json))
  deriving Inhabited, Repr

namespace Json

/-- Puts an entry in its place. A key that is there already gets the new value. -/
def insertEntry {α : Type} (key : String) (value : α) : List (String × α) → List (String × α)
  | [] => [(key, value)]
  | (k, v) :: rest =>
    if key = k then (key, value) :: rest
    else if key < k then (key, value) :: (k, v) :: rest
    else (k, v) :: insertEntry key value rest

/-- The object with the given entries. Of two with the same key the later one counts. -/
def ofEntries (entries : List (String × Json)) : Json :=
  .object (entries.foldl (fun done (key, value) => insertEntry key value done) [])

def ofOption {α : Type} (write : α → Json) : Option α → Json
  | none => .null
  | some value => write value

def escapeChar (c : Char) : List Char :=
  if c = '"' then ['\\', '"']
  else if c = '\\' then ['\\', '\\']
  else if c = '\n' then ['\\', 'n']
  else if c = '\r' then ['\\', 'r']
  else if c = '\t' then ['\\', 't']
  else if c.toNat < 16 then ['\\', 'u', '0', '0', '0'] ++ Text.hexChars c.toNat
  else if c.toNat < 32 then ['\\', 'u', '0', '0'] ++ Text.hexChars c.toNat
  else [c]

def quote (text : String) : String :=
  String.ofList ('"' :: text.toList.flatMap escapeChar ++ ['"'])

mutual

def print : Json → String
  | .null => "null"
  | .flag value => if value then "true" else "false"
  | .int value => toString value
  | .float value => value.shortText
  | .text value => quote value
  | .list items => "[" ++ Text.join "," (printItems items) ++ "]"
  | .object entries => "\x7b" ++ Text.join "," (printEntries entries) ++ "\x7d"

def printItems : List Json → List String
  | [] => []
  | item :: rest => item.print :: printItems rest

def printEntries : List (String × Json) → List String
  | [] => []
  | (key, value) :: rest => (quote key ++ ":" ++ value.print) :: printEntries rest

end

end Json

end Modforge
