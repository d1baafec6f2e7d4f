import Modforge.Json.Scalar

/-! # Reading JSON -/

namespace Modforge.Json

open Reading

/-! ## Between the items of a list -/

/-- Whether one more item follows, the separator being taken. -/
def nextItem (first : Bool) : Reading Bool := do
  match ← peekToken with
  | none => stopAhead .endInList
  | some c =>
    if c = ']' then pure false
    else if first then pure true
    else if c = ',' then
      skip
      match ← peekToken with
      | none => stopAhead .endInValue
      | some d => if d = ']' then stopAhead .trailingComma else pure true
    else stopAhead .noListComma

def endList : Reading Unit := do
  match ← peekToken with
  | none => stopAhead .endInList
  | some c =>
    if c = ']' then skip
    else if c = ',' then
      skip
      match ← peekToken with
      | some d => if d = ']' then stopAhead .trailingComma else stopAhead .trailingCharacters
      | none => stopAhead .trailingCharacters
    else stopAhead .trailingCharacters

/-! ## Between the entries of an object -/

def nextKey (first : Bool) : Reading (Option String) := do
  match ← peekToken with
  | none => stopAhead .endInObject
  | some c =>
    if c = '\x7d' then pure none
    else if first then key c
    else if c = ',' then
      skip
      match ← peekToken with
      | none => stopAhead .endInValue
      | some d => if d = '\x7d' then stopAhead .trailingComma else key d
    else stopAhead .noObjectComma
where
  key (c : Char) : Reading (Option String) := do
    if c = '"' then
      skip
      some <$> readText
    else stopAhead .keyNotText

def takeColon : Reading Unit := do
  match ← peekToken with
  | none => stopAhead .endInObject
  | some c => if c = ':' then skip else stopAhead .noColon

def endObject : Reading Unit := do
  match ← peekToken with
  | none => stopAhead .endInObject
  | some c =>
    if c = '\x7d' then skip
    else if c = ',' then stopAhead .trailingComma
    else stopAhead .trailingCharacters

/-! ## Kept values -/

/-- Goes into a list or an object whose bracket the cursor looks at. The closing bracket is asked
for even if the inside failed, and then the first fault counts. -/
def within {α : Type} (depth : Nat) (inside : Reading α) (close : Reading Unit) : Reading α :=
  if depth ≤ 1 then stopAhead .tooDeep
  else do
    skip
    fun cursor =>
      match inside cursor with
      | .done value next =>
        match close next with
        | .done () next => .done value next
        | .failed fault next => .failed fault next
      | .failed fault next =>
        match close next with
        | .done () next => .failed fault next
        | .failed _ next => .failed fault next

mutual

def readValue : Nat → Nat → Reading Json
  | 0, _ => stop .endInValue
  | fuel + 1, depth => do
    match ← peekToken with
    | none => stopAhead .endInValue
    | some c =>
      if c = 'n' then
        skip
        readWord ['u', 'l', 'l']
        pure .null
      else if c = 't' then
        skip
        readWord ['r', 'u', 'e']
        pure (.flag true)
      else if c = 'f' then
        skip
        readWord ['a', 'l', 's', 'e']
        pure (.flag false)
      else if c = '-' then
        skip
        readNumber true
      else if Text.isDigit c then readNumber false
      else if c = '"' then
        skip
        .text <$> readText
      else if c = '[' then
        .list <$> within depth (readItems fuel (depth - 1) true) endList
      else if c = '\x7b' then
        .ofEntries <$> within depth (readEntries fuel (depth - 1) true) endObject
      else stopAhead .noValue

def readItems : Nat → Nat → Bool → Reading (List Json)
  | 0, _, _ => stop .endInList
  | fuel + 1, depth, first => do
    if ← nextItem first then
      let item ← readValue fuel depth
      let rest ← readItems fuel depth false
      pure (item :: rest)
    else pure []

def readEntries : Nat → Nat → Bool → Reading (List (String × Json))
  | 0, _, _ => stop .endInObject
  | fuel + 1, depth, first => do
    match ← nextKey first with
    | none => pure []
    | some key =>
      takeColon
      let value ← readValue fuel depth
      let rest ← readEntries fuel depth false
      pure ((key, value) :: rest)

end

/-! ## Skipped values -/

mutual

def skipValue : Nat → Reading Unit
  | 0 => stop .endInValue
  | fuel + 1 => do
    match ← peekToken with
    | none => stopAhead .endInValue
    | some c =>
      if c = 'n' then
        skip
        readWord ['u', 'l', 'l']
      else if c = 't' then
        skip
        readWord ['r', 'u', 'e']
      else if c = 'f' then
        skip
        readWord ['a', 'l', 's', 'e']
      else if c = '-' then
        skip
        skipNumber
      else if Text.isDigit c then skipNumber
      else if c = '"' then
        skip
        skipText
      else if c = '[' then
        skip
        match ← peekToken with
        | none => stopAhead .endInList
        | some d => if d = ']' then skip else skipItems fuel
      else if c = '\x7b' then
        skip
        match ← peekToken with
        | none => stopAhead .endInObject
        | some d => if d = '\x7d' then skip else skipEntries fuel
      else stopAhead .noValue

def skipItems : Nat → Reading Unit
  | 0 => stop .endInList
  | fuel + 1 => do
    skipValue fuel
    match ← peekToken with
    | none => stopAhead .endInList
    | some c =>
      if c = ',' then
        skip
        skipItems fuel
      else if c = ']' then skip
      else stopAhead .noListComma

def skipEntries : Nat → Reading Unit
  | 0 => stop .endInObject
  | fuel + 1 => do
    match ← peekToken with
    | none => stopAhead .endInObject
    | some c =>
      if c = '"' then
        skip
        skipText
        takeColon
        skipValue fuel
        match ← peekToken with
        | none => stopAhead .endInObject
        | some d =>
          if d = ',' then
            skip
            skipEntries fuel
          else if d = '\x7d' then skip
          else stopAhead .noObjectComma
      else stopAhead .keyNotText

end

/-! ## Whole texts -/

def depthLimit : Nat := 128

def readAll {α : Type} (reading : Reading α) (text : String) : Except Fault α :=
  let whole : Reading α := do
    let value ← reading
    match ← peekToken with
    | none => pure value
    | some _ => stopAhead .trailingCharacters
  match whole (.ofText text) with
  | .done value _ => .ok value
  | .failed fault _ => .error fault

def parse (text : String) : Except Fault Json :=
  readAll (do readValue (← fuel) depthLimit) text

end Modforge.Json
