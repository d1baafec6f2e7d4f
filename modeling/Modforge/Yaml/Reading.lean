import Modforge.Form.Basic
import Modforge.Yaml.Node
import Modforge.Yaml.Plain

/-! # Forms read from YAML -/

namespace Modforge.Yaml

/-! ## Following aliases -/

/-- A reading knows the nodes with anchors, and counts the aliases that may still be followed. -/
abbrev Reading := ReaderT (List (Nat × Node)) (StateT Nat Option)

def jump : Reading Unit := fun _ jumps =>
  match jumps with
  | 0 => none
  | jumps + 1 => some ((), jumps)

def resolve (node : Node) : Reading Node := do
  match node with
  | .alias anchor =>
    jump
    match (← read).lookup anchor with
    | some target => pure target
    | none => failure
  | node => pure node

/-! ## Scalars -/

def isBlankNode : Node → Bool
  | .scalar _ .plain "" => true
  | _ => false

def textOf (node : Node) : Reading String := do
  match ← resolve node with
  | .scalar _ _ text => pure text
  | _ => failure

/-- A flag is plain, or a literal block with the tag for it. -/
def flagOf (node : Node) : Reading Bool := do
  match ← resolve node with
  | .scalar marks style text =>
    if style = .plain ∨ (style = .literal ∧ marks.tag = some (tagOf "bool")) then
      match asFlag? text with
      | some flag => pure flag
      | none => failure
    else failure
  | _ => failure

def choiceOf {α : Type} (choices : List (String × α)) (name : String) : Reading α :=
  match choices.lookup name with
  | some value => pure value
  | none => failure

/-- The tag that names a choice: what follows its exclamation mark, which may also stand
alone. -/
def choiceTag? (marks : Marks) : Option String :=
  marks.tag.bind fun tag =>
    match tag.toList with
    | ['!'] => some "!"
    | '!' :: rest => some (String.ofList rest)
    | _ => none

/-- A word is a scalar, or the tag of a scalar that holds nothing. -/
def wordOf {α : Type} (choices : List (String × α)) (node : Node) : Reading α := do
  match ← resolve node with
  | .scalar marks style text =>
    match choiceTag? marks with
    | none => choiceOf choices text
    | some name =>
      let value ← choiceOf choices name
      if style = .plain ∧ (text = "" ∨ isNull text) then pure value else failure
  | _ => failure

/-- Whether an optional value is there. A tag other than that of no value keeps it there. -/
def isGiven (node : Node) : Reading Bool :=
  match node with
  | .scalar ⟨_, some tag⟩ .plain text =>
    if tag = tagOf "null" then (if isNull text then pure false else failure) else pure true
  | .scalar _ .plain text => pure (text != "" && !isNull text)
  | _ => pure true

/-! ## Loose values -/

def sameKey : Loose → Loose → Bool
  | .text a, .text b => a == b
  | .nat a, .nat b => a == b
  | .minus a, .minus b => a == b
  | _, _ => false

/-- The entries without those whose key comes again. -/
def lastOfKeys : List (Loose × Loose) → List (Loose × Loose)
  | [] => []
  | entry :: rest =>
    if rest.any fun later => sameKey entry.1 later.1 then lastOfKeys rest
    else entry :: lastOfKeys rest

def looseScalar (marks : Marks) (style : Style) (text : String) : Option Loose :=
  match marks.tag with
  | some tag => looseOfTagged? tag text
  | none => if style = .plain then looseOfPlain? text else some (.text text)

/-- Lists and maps lie in each other down to some depth. -/
def looseOf : Nat → Node → Reading Loose
  | depth, node => do
    match ← resolve node with
    | .scalar marks style text =>
      match looseScalar marks style text with
      | some value => pure value
      | none => failure
    | .list marks items =>
      match depth with
      | 0 => failure
      | depth + 1 =>
        if (choiceTag? marks).isSome then failure
        else .list <$> items.mapM fun item => looseOf depth item
    | .map marks entries =>
      match depth with
      | 0 => failure
      | depth + 1 =>
        if (choiceTag? marks).isSome then failure
        else do
          let entries ← entries.mapM fun (key, value) => do
            pure (← looseOf depth key, ← looseOf depth value)
          pure (.map (lastOfKeys entries))
    | .alias _ => failure

/-! ## Forms -/

mutual

def readForm {α : Type} : Form α → Nat → Node → Reading α
  | .text, _, node => textOf node
  | .path, _, node => textOf node
  | .flag, _, node => flagOf node
  | .word choices _, _, node => wordOf choices node
  | .optional inner, depth, node => do
    let node ← resolve node
    if ← isGiven node then some <$> readForm inner depth node else pure none
  | .many item, depth, node => do
    let node ← resolve node
    match node, depth with
    | .list _ items, depth + 1 => items.mapM fun node => readForm item depth node
    | _, _ => if isBlankNode node then pure [] else failure
  | .loose judge _, depth, node => do
    match judge (← looseOf depth node) with
    | .ok value => pure value
    | .error _ => failure
  | .mapped inner decode _, depth, node => decode <$> readForm inner depth node
  | .record _ fields build, depth, node => do
    let node ← resolve node
    let slots ←
      match node, depth with
      | .map _ entries, depth + 1 =>
        entries.foldlM (fun slots (key, value) => do
          let key ← textOf key
          match fields.filled? key slots with
          | some true => failure
          | some false => readField fields depth key value slots
          | none => pure slots) fields.blank
      | _, _ => if isBlankNode node then pure fields.blank else failure
    match fields.finish slots with
    | .ok values => pure (build values)
    | .error _ => failure

def readField {ρ β γ : Type} : Fields ρ β γ → Nat → String → Node → γ → Reading γ
  | .nil, _, _, _, slots => pure slots
  | .cons own _ form _ rest, depth, key, node, (slot, slots) =>
    if key = own then do
      let value ← readForm form depth node
      pure (some value, slots)
    else do
      let slots ← readField rest depth key node slots
      pure (slot, slots)

end

def depthLimit : Nat := 128

/-- How many aliases are followed for each event of a document. -/
def jumpsPerEvent : Nat := 100

def readNode {α : Type} (form : Form α) (node : Node) : Option α := do
  let reading := readForm form depthLimit node
  let (value, _) ← (reading.run (node.anchored [])).run (jumpsPerEvent * node.eventCount)
  pure value

end Modforge.Yaml

namespace Modforge

def Form.ofYaml? {α : Type} (form : Form α) (text : String) : Option α := do
  Yaml.readNode form (← Yaml.Node.ofText? text)

end Modforge
