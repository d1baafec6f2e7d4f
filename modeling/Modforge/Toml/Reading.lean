import Modforge.Form.Basic
import Modforge.Toml.Document

/-! # Forms read from TOML -/

namespace Modforge.Toml

mutual

/-- A date or a time has none of the entries that are looked for. -/
def looseOf : Value → Loose
  | .text value => .text value
  | .flag value => .flag value
  | .int value => .ofInt value
  | .float value => .float value
  | .moment => .map []
  | .list items => .list (looseItems items)
  | .table _ entries => .map (looseEntries entries)
  | .rows tables => .list (looseRows tables)

def looseItems : List Value → List Loose
  | [] => []
  | item :: rest => looseOf item :: looseItems rest

def looseEntries : List (String × Value) → List (Loose × Loose)
  | [] => []
  | (key, value) :: rest => (.text key, looseOf value) :: looseEntries rest

def looseRows : List (List (String × Value)) → List Loose
  | [] => []
  | entries :: rest => .map (looseEntries entries) :: looseRows rest

end

def isHollow : Value → Bool
  | .list items => items.isEmpty
  | .table _ entries => entries.isEmpty
  | .rows tables => tables.isEmpty
  | _ => false

/-- A word is a text, or the key of a hollow value. Braces hold no other key. -/
def wordOf? {α : Type} (choices : List (String × α)) : Value → Option α
  | .text name => choices.lookup name
  | .table origin ((name, content) :: rest) =>
    if (origin = .braces ∧ !rest.isEmpty) ∨ !isHollow content then none
    else choices.lookup name
  | _ => none

mutual

def readForm {α : Type} : Form α → Value → Option α
  | .text, value => match value with
    | .text content => some content
    | _ => none
  | .path, value => match value with
    | .text content => some content
    | _ => none
  | .flag, value => match value with
    | .flag content => some content
    | _ => none
  | .word choices _, value => wordOf? choices value
  | .optional inner, value => (readForm inner value).map some
  | .many item, value => match value with
    | .list items => items.mapM fun content => readForm item content
    | .rows tables => tables.mapM fun entries => readForm item (.table .header entries)
    | _ => none
  | .loose judge _, value => (judge (looseOf value)).toOption
  | .mapped inner decode _, value => (readForm inner value).map decode
  | .record _ fields build, value => match value with
    | .table _ entries => do
      let slots ← entries.foldlM (fun slots (key, content) => putField fields key content slots)
        fields.blank
      (fields.finish slots).toOption.map build
    | .moment => (fields.finish fields.blank).toOption.map build
    | .list items => (readItems fields items).map build
    | .rows tables => (readItems fields (tables.map (.table .header))).map build
    | _ => none

def putField {ρ β γ : Type} : Fields ρ β γ → String → Value → γ → Option γ
  | .nil, _, _, slots => some slots
  | .cons own _ form _ rest, key, content, (slot, slots) =>
    if key = own then (readForm form content).map fun value => (some value, slots)
    else (putField rest key content slots).map fun slots => (slot, slots)

/-- Fields in order. Items past the last one are passed over. -/
def readItems {ρ β γ : Type} : Fields ρ β γ → List Value → Option β
  | .nil, _ => some ()
  | .cons _ fallback form _ rest, items => do
    match items with
    | [] => pure (← fallback, ← readItems rest [])
    | item :: items => pure (← readForm form item, ← readItems rest items)

end

end Modforge.Toml

namespace Modforge

def Form.ofToml? {α : Type} (form : Form α) (text : String) : Option α := do
  Toml.readForm form (.table .header (← Toml.tableOf? text))

end Modforge
