import Modforge.Yaml.Scan

/-! # Nodes: values before it is known what they stand for -/

namespace Modforge.Yaml

structure Marks where
  anchor : Option Nat := none
  tag : Option String := none
  deriving DecidableEq, Repr

inductive Node where
  | alias (anchor : Nat)
  | scalar (marks : Marks) (style : Style) (text : String)
  | list (marks : Marks) (items : List Node)
  | map (marks : Marks) (entries : List (Node × Node))
  deriving Inhabited, Repr

namespace Node

def blank (marks : Marks) : Node := .scalar marks .plain ""

/-! ## Tokens as nodes -/

structure Rest where
  tokens : List Token
  /-- Names of anchors, with the number each has now. -/
  anchors : List (String × Nat)

abbrev Build := StateT Rest Option

/-- Handles and the tags' starts that they stand for. -/
abbrev Handles := List (String × List UInt8)

namespace Build

def peek : Build (Option Token) := fun rest => some (rest.tokens.head?, rest)

def skip : Build Unit := fun rest => some ((), { rest with tokens := rest.tokens.drop 1 })

def accepts (token : Token) : Build Bool := do
  if (← peek) = some token then
    skip
    pure true
  else pure false

def expect (token : Token) : Build Unit := do
  if ← accepts token then pure () else failure

def atAny (tokens : List Token) : Build Bool := do
  pure ((← peek).any fun token => tokens.contains token)

/-- Gives a name a number of its own. A name that is given anew does not count twice. -/
def anchor (name : String) : Build Nat := fun rest =>
  let number := rest.anchors.length
  let others := rest.anchors.filter (·.1 != name)
  some (number, { rest with anchors := (name, number) :: others })

def anchorOf (name : String) : Build Nat := fun rest =>
  (rest.anchors.lookup name).map (·, rest)

def maybeAnchor : Build (Option Nat) := do
  match ← peek with
  | some (.anchor name) =>
    skip
    some <$> anchor name
  | _ => pure none

/-- The tag that a handle and the rest of a tag stand for. One that is no text is empty. -/
def maybeTag (handles : Handles) : Build (Option String) := do
  match ← peek with
  | some (.tag handle bytes) =>
    skip
    if handle = "" then pure (some ((Text.ofUtf8? bytes).getD ""))
    else match handles.lookup handle with
      | some start => pure (some ((Text.ofUtf8? (start ++ bytes)).getD ""))
      | none => failure
  | _ => pure none

def marks (handles : Handles) : Build Marks := do
  match ← maybeAnchor with
  | some anchor => pure ⟨some anchor, ← maybeTag handles⟩
  | none =>
    let tag ← maybeTag handles
    if tag.isSome then pure ⟨← maybeAnchor, tag⟩ else pure ⟨none, none⟩

end Build

open Build

mutual

/-- A node. Where it is not between brackets it may be a block, and below a key its entries need
no indentation of their own. -/
def build (handles : Handles) : Nat → Bool → Bool → Build Node
  | 0, _, _ => failure
  | fuel + 1, inBlock, belowKey => do
    match ← peek with
    | some (.alias name) =>
      skip
      .alias <$> anchorOf name
    | _ =>
      let marks ← marks handles
      match ← peek with
      | some (.scalar style text) =>
        skip
        pure (.scalar marks style text)
      | some .listOpen =>
        skip
        .list marks <$> flowItems handles fuel true
      | some .mapOpen =>
        skip
        .map marks <$> flowEntries handles fuel true
      | token =>
        if belowKey && token == some .entry then .list marks <$> looseItems handles fuel
        else if inBlock && token == some .blockList then do
          skip
          .list marks <$> blockItems handles fuel
        else if inBlock && token == some .blockMap then do
          skip
          .map marks <$> blockEntries handles fuel
        else if marks.anchor.isSome || marks.tag.isSome then pure (blank marks)
        else failure

/-- A node, or a blank one if one of some tokens comes instead. -/
def buildUnless (handles : Handles) : Nat → List Token → Bool → Bool → Build Node
  | 0, _, _, _ => failure
  | fuel + 1, ends, inBlock, belowKey => do
    if ← atAny ends then pure (blank {}) else build handles fuel inBlock belowKey

def blockItems (handles : Handles) : Nat → Build (List Node)
  | 0 => failure
  | fuel + 1 => do
    if ← accepts .blockEnd then pure []
    else
      expect .entry
      let item ← buildUnless handles fuel [.entry, .blockEnd] true false
      let items ← blockItems handles fuel
      pure (item :: items)

/-- The items of a list that is indented as its key is. -/
def looseItems (handles : Handles) : Nat → Build (List Node)
  | 0 => failure
  | fuel + 1 => do
    if ← accepts .entry then
      let item ← buildUnless handles fuel [.entry, .key, .value, .blockEnd] true false
      let items ← looseItems handles fuel
      pure (item :: items)
    else pure []

def blockEntries (handles : Handles) : Nat → Build (List (Node × Node))
  | 0 => failure
  | fuel + 1 => do
    if ← accepts .blockEnd then pure []
    else
      expect .key
      let key ← buildUnless handles fuel [.key, .value, .blockEnd] true true
      let value ←
        if ← accepts .value then buildUnless handles fuel [.key, .value, .blockEnd] true true
        else pure (blank {})
      let entries ← blockEntries handles fuel
      pure ((key, value) :: entries)

/-- The items between brackets. A key makes a map of one entry. -/
def flowItems (handles : Handles) : Nat → Bool → Build (List Node)
  | 0, _ => failure
  | fuel + 1, first => do
    if ← accepts .listClose then pure []
    else
      if !first then expect .comma
      if ← accepts .listClose then pure []
      else
        let item ←
          if ← accepts .key then (fun entry => .map {} [entry]) <$> flowPair handles fuel
          else build handles fuel false false
        let items ← flowItems handles fuel false
        pure (item :: items)

/-- The entry of a map that has no brackets of its own. A key that is left out takes the next
token with it. -/
def flowPair (handles : Handles) : Nat → Build (Node × Node)
  | 0 => failure
  | fuel + 1 => do
    let key ←
      if ← atAny [.value, .comma, .listClose] then do
        skip
        pure (blank {})
      else build handles fuel false false
    let value ←
      if ← accepts .value then buildUnless handles fuel [.comma, .listClose] false false
      else pure (blank {})
    pure (key, value)

def flowEntries (handles : Handles) : Nat → Bool → Build (List (Node × Node))
  | 0, _ => failure
  | fuel + 1, first => do
    if ← accepts .mapClose then pure []
    else
      if !first then expect .comma
      if ← accepts .mapClose then pure []
      else
        let entry ←
          if ← accepts .key then do
            let key ← buildUnless handles fuel [.value, .comma, .mapClose] false false
            let value ←
              if ← accepts .value then buildUnless handles fuel [.comma, .mapClose] false false
              else pure (blank {})
            pure (key, value)
          else do
            let key ← build handles fuel false false
            pure (key, blank {})
        let entries ← flowEntries handles fuel false
        pure (entry :: entries)

end

/-! ## Documents -/

/-- The directives before a document. No version and no handle is stated twice. -/
def directives : List Token → Bool → Handles → Option (Handles × List Token)
  | .version known :: rest, versioned, handles =>
    if known && !versioned then directives rest true handles else none
  | .handle name start :: rest, versioned, handles =>
    if (handles.lookup name).isSome then none
    else directives rest versioned ((name, start) :: handles)
  | rest, _, handles => some (handles, rest)

def commonHandles : Handles := [("!", bytesOf "!"), ("!!", bytesOf "tag:yaml.org,2002:")]

/-- Each token belongs to two steps of building or fewer. -/
def fuelFor (tokens : List Token) : Nat := 4 * tokens.length + 4

/-- The one document that the tokens form. Without any it counts as blank. -/
def ofTokens? : List Token → Option Node
  | [] => some (blank {})
  | tokens => do
    let (handles, rest) ← directives tokens false []
    let handles := handles ++ commonHandles
    let (node, rest) ←
      if rest.head? = some .documentStart then
        (content handles (fuelFor tokens)).run ⟨rest.drop 1, []⟩
      else if rest.length < tokens.length then none
      else (build handles (fuelFor tokens) true false).run ⟨rest, []⟩
    if rest.tokens.all (· == .documentEnd) then some node else none
where
  /-- What follows the mark of a document, which may be nothing. -/
  content (handles : Handles) (fuel : Nat) : Build Node := do
    match ← peek with
    | none => pure (blank {})
    | some .documentStart => pure (blank {})
    | some .documentEnd => pure (blank {})
    | some _ => build handles fuel true false

def ofText? (text : String) : Option Node := do
  ofTokens? (← tokensOf? text)

/-! ## Anchors -/

def noted (marks : Marks) (node : Node) : List (Nat × Node) :=
  marks.anchor.toList.map (·, node)

mutual

/-- The nodes that have anchors, the last one first. -/
def anchored : Node → List (Nat × Node) → List (Nat × Node)
  | .alias _, before => before
  | .scalar marks style text, before => noted marks (.scalar marks style text) ++ before
  | .list marks items, before => anchoredItems items (noted marks (.list marks items) ++ before)
  | .map marks entries, before =>
    anchoredEntries entries (noted marks (.map marks entries) ++ before)

def anchoredItems : List Node → List (Nat × Node) → List (Nat × Node)
  | [], before => before
  | item :: rest, before => anchoredItems rest (anchored item before)

def anchoredEntries : List (Node × Node) → List (Nat × Node) → List (Nat × Node)
  | [], before => before
  | (key, value) :: rest, before => anchoredEntries rest (anchored value (anchored key before))

end

mutual

/-- How many events a document has: one for each scalar and alias, and two for each list and
map. -/
def eventCount : Node → Nat
  | .alias _ => 1
  | .scalar _ _ _ => 1
  | .list _ items => 2 + eventCountItems items
  | .map _ entries => 2 + eventCountEntries entries

def eventCountItems : List Node → Nat
  | [] => 0
  | item :: rest => eventCount item + eventCountItems rest

def eventCountEntries : List (Node × Node) → Nat
  | [] => 0
  | (key, value) :: rest => eventCount key + eventCount value + eventCountEntries rest

end

end Node

end Modforge.Yaml
