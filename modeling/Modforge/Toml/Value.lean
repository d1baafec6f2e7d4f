import Modforge.Decimal.Double

/-! # Tables -/

namespace Modforge.Toml

inductive Origin where
  | braces
  | header
  /-- The header of a table inside it. -/
  | longerHeader
  | dots
  deriving DecidableEq, Repr

inductive Value where
  | text (value : String)
  | flag (value : Bool)
  | int (value : Int)
  | float (value : Decimal.Double)
  | moment
  | list (items : List Value)
  | table (origin : Origin) (entries : List (String × Value))
  /-- The tables that headers with double brackets made. -/
  | rows (tables : List (List (String × Value)))
  deriving Inhabited, Repr

abbrev Entries := List (String × Value)

namespace Entries

def replace (key : String) (value : Value) (entries : Entries) : Entries :=
  entries.map fun entry => if entry.1 = key then (key, value) else entry

def add? (key : String) (value : Value) (entries : Entries) : Option Entries :=
  if (entries.lookup key).isSome then none else some (entries ++ [(key, value)])

/-- Changes the table at the end of a path. Tables that are missing are made, and of several rows
the last one is meant. -/
def alter? (byDots : Bool) (change : Origin → Entries → Option Entries) :
    List String → Origin → Entries → Option Entries
  | [], origin, entries => change origin entries
  | key :: path, _, entries =>
    match entries.lookup key with
    | none => do
      let origin := if byDots then .dots else .longerHeader
      let inner ← alter? byDots change path origin []
      pure (entries ++ [(key, .table origin inner)])
    | some (.table origin inner) =>
      if origin = .braces ∨ (byDots ∧ origin = .header) then none
      else do
        let inner ← alter? byDots change path origin inner
        pure (entries.replace key (.table origin inner))
    | some (.rows tables) => do
      let last ← tables.getLast?
      let inner ← alter? byDots change path .header last
      pure (entries.replace key (.rows (tables.dropLast ++ [inner])))
    | some _ => none

/-- Adds a value under a key with dots. The table it goes to is the own one, or one that keys
with dots made. -/
def put? (origin : Origin) (path : List String) (key : String) (value : Value)
    (entries : Entries) : Option Entries :=
  entries.alter? true (fun origin entries =>
    if (origin = .dots) = (path = []) then none else entries.add? key value) path origin

def at? : List String → Entries → Option Entries
  | [], entries => some entries
  | key :: path, entries =>
    match entries.lookup key with
    | some (.table _ inner) => at? path inner
    | some (.rows tables) => tables.getLast?.bind (at? path)
    | _ => none

end Entries

mutual

/-- A table between braces is closed, and so are those that its keys made. -/
def Value.closed : Value → Value
  | .table .dots entries => .table .braces (closedEntries entries)
  | value => value

def closedEntries : Entries → Entries
  | [] => []
  | (key, value) :: rest => (key, value.closed) :: closedEntries rest

end

def Value.ofBraces? (entries : List (List String × String × Value)) : Option Value := do
  let entries ← entries.foldlM (fun table (path, key, value) =>
    Entries.put? .braces path key value table) []
  pure (.table .braces (closedEntries entries))

inductive Header where
  /-- The table of the whole document, which needs no header. -/
  | document
  | table (path : List String) (key : String)
  | row (path : List String) (key : String)
  deriving Repr

/-- A document whose last section is still open. -/
structure Section where
  above : Entries
  header : Header
  entries : Entries

namespace Section

def close? (part : Section) : Option Entries :=
  match part.header with
  | .document => some part.entries
  | .table path key =>
    part.above.alter? false (fun _ entries => entries.add? key (.table .header part.entries))
      path .header
  | .row path key =>
    part.above.alter? false (fun _ entries =>
      match entries.lookup key with
      | none => entries.add? key (.rows [part.entries])
      | some (.rows tables) => some (entries.replace key (.rows (tables ++ [part.entries])))
      | some _ => none)
      path .header

/-- Closes the section and opens the next one. A table that only headers of tables inside it made
is taken over. -/
def next? (part : Section) (header : Header) : Option Section := do
  let above ← part.close?
  match header with
  | .table path key =>
    match (above.at? path).bind (·.lookup key) with
    | none => pure ⟨above, header, []⟩
    | some (.table .longerHeader entries) =>
      let above ← above.alter? false (fun _ entries => some (entries.filter (·.1 != key))) path
        .header
      pure ⟨above, header, entries⟩
    | some _ => none
  | header => pure ⟨above, header, []⟩

def put? (part : Section) (path : List String) (key : String) (value : Value) : Option Section := do
  let entries ← part.entries.put? .header path key value
  pure { part with entries }

end Section

end Modforge.Toml
