import Modforge.Form.Loose

/-!
# Forms

A form says what values of a type look like in a document. It is read from several kinds of
document, and written as JSON.
-/

namespace Modforge

mutual

inductive Form : Type → Type 1 where
  | text : Form String
  | path : Form String
  | flag : Form Bool
  | word {α : Type} (choices : List (String × α)) (name : α → String) : Form α
  | optional {α : Type} (inner : Form α) : Form (Option α)
  | many {α : Type} (item : Form α) : Form (List α)
  /-- A value of any kind, which a rule of its own judges. -/
  | loose {α : Type} (judge : Loose → Except String α) (written : α → Json) : Form α
  | mapped {α β : Type} (inner : Form α) (decode : α → β) (encode : β → α) : Form β
  | record {ρ β γ : Type} (name : String) (fields : Fields ρ β γ) (build : β → ρ) : Form ρ

/-- The fields of a record `ρ`: their values are a `β`, and a `γ` while some are still missing. -/
inductive Fields : Type → Type → Type → Type 1 where
  | nil {ρ : Type} : Fields ρ Unit Unit
  /-- A field that may be left out has a fallback. -/
  | cons {ρ α β γ : Type} (key : String) (fallback : Option α) (form : Form α) (get : ρ → α)
    (rest : Fields ρ β γ) : Fields ρ (α × β) (Option α × γ)

end

namespace Fields

def size {ρ β γ : Type} : Fields ρ β γ → Nat
  | .nil => 0
  | .cons _ _ _ _ rest => rest.size + 1

def blank {ρ β γ : Type} : Fields ρ β γ → γ
  | .nil => ()
  | .cons _ _ _ _ rest => (none, rest.blank)

/-- The values of all fields, or the key of the first one that is missing. -/
def finish {ρ β γ : Type} : Fields ρ β γ → γ → Except String β
  | .nil, _ => .ok ()
  | .cons key fallback _ _ rest, (slot, slots) =>
    match slot.or fallback with
    | none => .error key
    | some value =>
      match rest.finish slots with
      | .ok values => .ok (value, values)
      | .error missing => .error missing

/-- Whether the field of this key has a value, or `none` for an unknown key. -/
def filled? {ρ β γ : Type} : Fields ρ β γ → String → γ → Option Bool
  | .nil, _, _ => none
  | .cons own _ _ _ rest, key, (slot, slots) =>
    if key = own then some slot.isSome else rest.filled? key slots

end Fields

def recordWith (name : String) (size : Nat) : String :=
  "struct " ++ name ++ " with " ++ toString size ++ (if size = 1 then " element" else " elements")

mutual

def Form.write {α : Type} : Form α → α → Json
  | .text, value => .text value
  | .path, value => .text value
  | .flag, value => .flag value
  | .word _ name, value => .text (name value)
  | .optional inner, value =>
    match value with
    | none => .null
    | some value => inner.write value
  | .many item, values => .list (values.map fun value => item.write value)
  | .loose _ written, value => written value
  | .mapped inner _ encode, value => inner.write (encode value)
  | .record _ fields _, value => .ofEntries (fields.write value)

def Fields.write {ρ β γ : Type} : Fields ρ β γ → ρ → List (String × Json)
  | .nil, _ => []
  | .cons key _ form get rest, value => (key, form.write (get value)) :: rest.write value

end

end Modforge
