import Modforge.Form.Basic
import Modforge.Json.Fault

/-!
# Forms read from JSON values

The entries of an object are read in the order of their keys and the first fault ends the
reading. Unknown keys are passed over. A record may also be a list of its fields in order.
-/

namespace Modforge

open Json (Misfit found)

/-- The name of a word: a text, or an object of one key that holds null. -/
def wordOfJson {α : Type} (choices : List (String × α)) (value : Json) : Except Misfit α := do
  match value with
  | .text name => choose name
  | .object [(name, content)] =>
    let chosen ← choose name
    match content with
    | .null => pure chosen
    | _ => throw (.kind (found content) "unit")
  | .object _ => throw .notSingleKey
  | _ => throw (.kind (found value) "string or map")
where
  choose (name : String) : Except Misfit α :=
    match choices.lookup name with
    | some chosen => .ok chosen
    | none => .error (.choice name (choices.map Prod.fst))

mutual

def Form.ofJson {α : Type} : Form α → Json → Except Misfit α
  | .text, value => match value with
    | .text content => .ok content
    | _ => .error (.kind (found value) "a string")
  | .path, value => match value with
    | .text content => .ok content
    | _ => .error (.kind (found value) "path string")
  | .flag, value => match value with
    | .flag content => .ok content
    | _ => .error (.kind (found value) "a boolean")
  | .word choices _, value => wordOfJson choices value
  | .optional inner, value => match value with
    | .null => .ok none
    | _ => (inner.ofJson value).map some
  | .many item, value => match value with
    | .list items => items.mapM fun content => item.ofJson content
    | _ => .error (.kind (found value) "a sequence")
  | .loose judge _, value => (judge (.ofJson value)).mapError .refused
  | .mapped inner decode _, value => (inner.ofJson value).map decode
  | .record name fields build, value => match value with
    | .object entries => do
      let slots ← entries.foldlM (fun slots (key, content) => fields.putJson key content slots)
        fields.blank
      match fields.finish slots with
      | .ok values => pure (build values)
      | .error key => throw (.missing key)
    | .list items => do
      let values ← fields.ofJsonItems (recordWith name fields.size) 0 items
      if fields.size < items.length then
        throw (.length items.length "fewer elements in array")
      pure (build values)
    | _ => .error (.kind (found value) ("struct " ++ name))

def Fields.putJson {ρ β γ : Type} : Fields ρ β γ → String → Json → γ → Except Misfit γ
  | .nil, _, _, slots => .ok slots
  | .cons own _ form _ rest, key, content, (slot, slots) =>
    if key = own then (form.ofJson content).map fun value => (some value, slots)
    else (rest.putJson key content slots).map fun slots => (slot, slots)

def Fields.ofJsonItems {ρ β γ : Type} :
    Fields ρ β γ → String → Nat → List Json → Except Misfit β
  | .nil, _, _, _ => .ok ()
  | .cons _ fallback form _ rest, expected, count, items => do
    match items with
    | [] =>
      match fallback with
      | none => throw (.length count expected)
      | some value => pure (value, ← rest.ofJsonItems expected (count + 1) [])
    | item :: items =>
      let value ← form.ofJson item
      pure (value, ← rest.ofJsonItems expected (count + 1) items)

end

end Modforge
