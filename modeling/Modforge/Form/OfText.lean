import Modforge.Form.OfJson
import Modforge.Json.Parse

/-!
# Forms read from JSON texts

The text is read once, from left to right, and the first fault ends the reading. A fault that is
no fault of grammar gets its place from the innermost value that is read when it is found.
-/

namespace Modforge

open Json (Misfit Reading Malformed)
open Json.Reading

/-- Refuses the value that follows. A plain one is read so that it can be named. -/
def refuseValue {α : Type} (expected : String) : Reading α := do
  match ← peek with
  | none => stopAhead .endInValue
  | some c =>
    if c = '[' then refuse (.kind .list expected)
    else if c = '\x7b' then refuse (.kind .map expected)
    else do
      let value ← Json.readValue 1 0
      refuse (.kind (Json.found value) expected)

def readName (expected : String) : Reading String := do
  match ← peekToken with
  | none => stopAhead .endInValue
  | some c =>
    if c = '"' then
      skip
      Json.readText
    else refuseValue expected

def readChoice {α : Type} (choices : List (String × α)) : Reading α := located do
  let name ← readName "variant identifier"
  match choices.lookup name with
  | some value => pure value
  | none => refuse (.choice name (choices.map Prod.fst))

def readUnit : Reading Unit := located do
  match ← peekToken with
  | none => stopAhead .endInValue
  | some c =>
    if c = 'n' then
      skip
      Json.readWord ['u', 'l', 'l']
    else refuseValue "unit"

def readWordForm {α : Type} (choices : List (String × α)) (depth : Nat) : Reading α := do
  match ← peekToken with
  | none => stopAhead .endInValue
  | some c =>
    if c = '\x7b' then
      if depth ≤ 1 then stopAhead .tooDeep
      else do
        skip
        let value ← readChoice choices
        Json.takeColon
        readUnit
        match ← peekToken with
        | none => stop .endInObject
        | some d =>
          if d = '\x7d' then
            skip
            pure value
          else stop .noValue
    else if c = '"' then readChoice choices
    else stopAhead .noValue

def readFlag : Reading Bool := do
  match ← peekToken with
  | none => stopAhead .endInValue
  | some c =>
    if c = 't' then
      skip
      Json.readWord ['r', 'u', 'e']
      pure true
    else if c = 'f' then
      skip
      Json.readWord ['a', 'l', 's', 'e']
      pure false
    else refuseValue "a boolean"

def readMany {α : Type} (item : Reading α) : Nat → Bool → Reading (List α)
  | 0, _ => stop .endInList
  | fuel + 1, first => do
    if ← Json.nextItem first then
      let value ← item
      let rest ← readMany item fuel false
      pure (value :: rest)
    else pure []

/-- The entries of an object, up to its bracket. A field is read once; what is unknown is
skipped. -/
def readSlots {γ : Type} (filled? : String → γ → Option Bool)
    (put : String → γ → Reading γ) : Nat → Bool → γ → Reading γ
  | 0, _, _ => stop .endInObject
  | fuel + 1, first, slots => do
    match ← Json.nextKey first with
    | none => pure slots
    | some key =>
      match filled? key slots with
      | some true => refuse (.duplicate key)
      | some false =>
        Json.takeColon
        let slots ← put key slots
        readSlots filled? put fuel false slots
      | none =>
        Json.takeColon
        Json.skipValue (← Reading.fuel)
        readSlots filled? put fuel false slots

mutual

def Form.reading {α : Type} : Form α → Nat → Reading α
  | .text, _ => located (readName "a string")
  | .path, _ => located (readName "path string")
  | .flag, _ => located readFlag
  | .word choices _, depth => readWordForm choices depth
  | .optional inner, depth => do
    match ← peekToken with
    | some 'n' =>
      skip
      Json.readWord ['u', 'l', 'l']
      pure none
    | _ => some <$> inner.reading depth
  | .many item, depth => located do
    match ← peekToken with
    | none => stopAhead .endInValue
    | some c =>
      if c = '[' then
        let n ← fuel
        Json.within depth (readMany (item.reading (depth - 1)) n true) Json.endList
      else refuseValue "a sequence"
  | .loose judge _, depth => do
    let value ← Json.readValue (← fuel) depth
    match judge (.ofJson value) with
    | .ok result => pure result
    | .error reason => refuse (.refused reason)
  | .mapped inner decode _, depth => decode <$> inner.reading depth
  | .record name fields build, depth => located do
    match ← peekToken with
    | none => stopAhead .endInValue
    | some c =>
      if c = '[' then
        let values ← Json.within depth
          (fields.readingItems (recordWith name fields.size) 0 (depth - 1)) Json.endList
        pure (build values)
      else if c = '\x7b' then
        let n ← fuel
        let inside : Reading _ := do
          let slots ← readSlots fields.filled?
            (fun key slots => fields.readingAt key slots (depth - 1)) n true fields.blank
          match fields.finish slots with
          | .ok values => pure values
          | .error key => refuse (.missing key)
        let values ← Json.within depth inside Json.endObject
        pure (build values)
      else refuseValue ("struct " ++ name)

def Fields.readingAt {ρ β γ : Type} : Fields ρ β γ → String → γ → Nat → Reading γ
  | .nil, _, slots, _ => pure slots
  | .cons own _ form _ rest, key, (slot, slots), depth =>
    if key = own then do
      let value ← form.reading depth
      pure (some value, slots)
    else do
      let slots ← rest.readingAt key slots depth
      pure (slot, slots)

def Fields.readingItems {ρ β γ : Type} : Fields ρ β γ → String → Nat → Nat → Reading β
  | .nil, _, _, _ => pure ()
  | .cons _ fallback form _ rest, expected, count, depth => do
    if ← Json.nextItem (count == 0) then
      let value ← form.reading depth
      let values ← rest.readingItems expected (count + 1) depth
      pure (value, values)
    else
      match fallback with
      | none => refuse (.length count expected)
      | some value =>
        let values ← rest.readingItems expected (count + 1) depth
        pure (value, values)

end

def Form.parse {α : Type} (form : Form α) (text : String) : Except Json.Fault α :=
  Json.readAll (form.reading Json.depthLimit) text

end Modforge
