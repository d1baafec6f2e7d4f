import Modforge.Yaml.Tag

/-!
# Text as tokens

A text is read token by token. Where a key might start is kept in mind until the colon comes or
can come no more; the key and the start of its block are then put before what was read since.
-/

namespace Modforge.Yaml

/-- A place where a key might have started. -/
structure KeyStart where
  before : Nat
  /-- Whether nothing but a key can stand there. -/
  required : Bool
  line : Nat
  column : Nat
  deriving Repr

def keyLimit : Nat := 1024

structure Scan where
  size : Nat
  cursor : Cursor
  /-- The last one first. -/
  tokens : List Token
  count : Nat
  /-- The columns of the open blocks, the innermost first. -/
  indents : List Nat
  keyStart : Option KeyStart
  /-- One for each bracket that is open, with the place that was kept outside of it. -/
  outer : List (Option KeyStart)
  keyAllowed : Bool

namespace Scan

def ofChars (text : List Char) : Scan := ⟨text.length, .ofChars text, [], 0, [], none, [], true⟩

def inFlow (s : Scan) : Bool := !s.outer.isEmpty

/-- Text of the current block is indented by this much or more. -/
def least (s : Scan) : Nat :=
  match s.indents with
  | [] => 0
  | column :: _ => column + 1

def push (s : Scan) (token : Token) : Scan :=
  { s with tokens := token :: s.tokens, count := s.count + 1 }

def pushAfter (s : Scan) (before : Nat) (new : List Token) : Scan :=
  let since := s.count - before
  { s with
    tokens := s.tokens.take since ++ new.reverse ++ s.tokens.drop since
    count := s.count + new.length }

/-! ## Blocks -/

/-- Ends the blocks that are indented by more than a line, all of them if there is no line. -/
def endBlocks (s : Scan) (column : Option Nat) : Scan :=
  if s.inFlow then s
  else
    let ended := s.indents.takeWhile fun indent => column.all fun n => n < indent
    { s with
      tokens := List.replicate ended.length .blockEnd ++ s.tokens
      count := s.count + ended.length
      indents := s.indents.drop ended.length }

def startsBlock (s : Scan) (column : Nat) : Bool := !s.inFlow && s.least ≤ column

def startBlock (s : Scan) (token : Token) : Scan :=
  if s.startsBlock s.cursor.column then
    { s.push token with indents := s.cursor.column :: s.indents }
  else s

/-! ## Keys -/

/-- No key starts at the place that was kept. -/
def dropKey (s : Scan) : Option Scan :=
  match s.keyStart with
  | some start => if start.required then none else some { s with keyStart := none }
  | none => some s

def keepKey (s : Scan) : Option Scan :=
  if s.keyAllowed then do
    let s ← s.dropKey
    let column := s.cursor.column
    pure { s with
      keyStart := some
        ⟨s.count, !s.inFlow && s.indents.head? == some column, s.cursor.line, column⟩ }
  else some s

/-- What is left of a place that was kept: nothing if it is too far away by now. -/
def freshKey (cursor : Cursor) (kept : Option KeyStart) : Option (Option KeyStart) :=
  match kept with
  | none => some none
  | some start =>
    if start.line < cursor.line ∨ start.column + keyLimit < cursor.column then
      if start.required then none else some none
    else some kept

def dropStaleKeys (s : Scan) : Option Scan := do
  let keyStart ← freshKey s.cursor s.keyStart
  let outer ← s.outer.mapM (freshKey s.cursor)
  pure { s with keyStart, outer }

/-! ## Single tokens -/

def take (s : Scan) (count : Nat) (token : Token) : Scan :=
  { s.push token with cursor := s.cursor.skip count }

def takeDirective (s : Scan) : Option Scan := do
  let s ← (s.endBlocks none).dropKey
  let (token, rest) ← readDirective (s.cursor.rest.drop 1)
  let cursor ← (s.cursor.skip (s.cursor.rest.length - rest.length)).endLine?
  pure { s.push token with cursor, keyAllowed := false }

def takeMarker (s : Scan) (token : Token) : Option Scan := do
  let s ← (s.endBlocks none).dropKey
  pure { s.take 3 token with keyAllowed := false }

def takeOpen (s : Scan) (token : Token) : Option Scan := do
  let s ← s.keepKey
  let s := s.take 1 token
  pure { s with keyStart := none, outer := s.keyStart :: s.outer, keyAllowed := true }

def takeClose (s : Scan) (token : Token) : Option Scan := do
  let s ← s.dropKey
  let s := { s.take 1 token with keyAllowed := false }
  match s.outer with
  | [] => pure s
  | kept :: outer => pure { s with keyStart := kept, outer }

def takeComma (s : Scan) : Option Scan := do
  let s ← s.dropKey
  pure { s.take 1 .comma with keyAllowed := true }

def takeEntry (s : Scan) : Option Scan := do
  if !s.inFlow && !s.keyAllowed then none
  else
    let s ← (s.startBlock .blockList).dropKey
    pure { s.take 1 .entry with keyAllowed := true }

def takeKey (s : Scan) : Option Scan := do
  if !s.inFlow && !s.keyAllowed then none
  else
    let s ← (s.startBlock .blockMap).dropKey
    pure { s.take 1 .key with keyAllowed := !s.inFlow }

/-- A colon. If a place was kept, a key starts there, and a block with it where none is open. -/
def takeValue (s : Scan) : Option Scan :=
  match s.keyStart with
  | some start =>
    let starts := s.startsBlock start.column
    let s := s.pushAfter start.before (if starts then [.blockMap, .key] else [.key])
    let indents := if starts then start.column :: s.indents else s.indents
    some { s.take 1 .value with indents, keyStart := none, keyAllowed := false }
  | none =>
    if !s.inFlow && !s.keyAllowed then none
    else some { (s.startBlock .blockMap).take 1 .value with keyAllowed := !s.inFlow }

/-- Takes what stands before a value or is one, where a key may start. -/
def takeNode (s : Scan) (read : Cursor → Option (Token × Cursor)) : Option Scan := do
  let s ← s.keepKey
  let (token, cursor) ← read s.cursor
  pure { s.push token with cursor, keyAllowed := false }

def takeNamed (s : Scan) (read : List Char → Option (Token × List Char)) : Option Scan :=
  s.takeNode fun cursor => do
    let (token, rest) ← read (cursor.rest.drop 1)
    pure (token, cursor.skip (cursor.rest.length - rest.length))

def takeTag (s : Scan) : Option Scan :=
  s.takeNamed fun text => do
    let (token, rest) ← readTag text
    if endsWord rest || (s.inFlow && rest.head? == some ',') then some (token, rest) else none

def takeQuoted (s : Scan) (double : Bool) : Option Scan :=
  s.takeNode fun cursor => (readQuoted double s.size cursor).map fun (text, next) =>
    (.scalar .quoted text, next)

def takeBlock (s : Scan) (folds : Bool) : Option Scan := do
  let s ← s.dropKey
  let (text, cursor) ← readBlock folds s.least s.size s.cursor
  let style := if folds then .folded else .literal
  pure { s.push (.scalar style text) with cursor, keyAllowed := true }

def takePlain (s : Scan) : Option Scan := do
  let s ← s.keepKey
  let plain ← readPlain s.inFlow s.least s.size s.cursor
  let s := s.push (.scalar .plain plain.text)
  pure { s with cursor := plain.next, keyAllowed := plain.endsLine }

def startsPlain (s : Scan) (c : Char) (rest : List Char) : Bool :=
  if c == '-' then !rest.head?.any isBlank
  else if c == '?' || c == ':' then !s.inFlow && !endsWord rest
  else !",[]\x7b\x7d#&*!|>'\"%@\x60".toList.contains c

/-! ## Whole texts -/

def takeToken (s : Scan) (c : Char) (rest : List Char) : Option Scan :=
  let atStart := s.cursor.column == 0
  if atStart && c == '%' then s.takeDirective
  else if atStart && isWordOf ['-', '-', '-'] (c :: rest) then s.takeMarker .documentStart
  else if atStart && isWordOf ['.', '.', '.'] (c :: rest) then s.takeMarker .documentEnd
  else if c == '[' then s.takeOpen .listOpen
  else if c == '\x7b' then s.takeOpen .mapOpen
  else if c == ']' then s.takeClose .listClose
  else if c == '\x7d' then s.takeClose .mapClose
  else if c == ',' then s.takeComma
  else if c == '-' && endsWord rest then s.takeEntry
  else if c == '?' && (s.inFlow || endsWord rest) then s.takeKey
  else if c == ':' && (s.inFlow || endsWord rest) then s.takeValue
  else if c == '*' then
    s.takeNamed fun text => (readName text).map fun (name, rest) => (.alias name, rest)
  else if c == '&' then
    s.takeNamed fun text => (readName text).map fun (name, rest) => (.anchor name, rest)
  else if c == '!' then s.takeTag
  else if c == '|' && !s.inFlow then s.takeBlock false
  else if c == '>' && !s.inFlow then s.takeBlock true
  else if c == '\'' then s.takeQuoted false
  else if c == '"' then s.takeQuoted true
  else if s.startsPlain c rest then s.takePlain
  else none

/-- Takes all tokens that are left. Each takes a character or more. -/
def run : Nat → Scan → Option Scan
  | 0, _ => none
  | fuel + 1, s => do
    let (keyAllowed, cursor) := s.cursor.toToken s.inFlow s.keyAllowed
    let s ← dropStaleKeys { s with cursor, keyAllowed }
    match cursor.rest with
    | [] => (s.endBlocks none).dropKey
    | c :: rest =>
      let s ← (s.endBlocks (some cursor.column)).takeToken c rest
      run fuel s

end Scan

def tokensOf? (text : String) : Option (List Token) :=
  let text := text.toList
  if text.all isAllowed then
    let scan := Scan.ofChars (unifyBreaks text)
    (scan.run (scan.size + 1)).map fun s => s.tokens.reverse
  else none

end Modforge.Yaml
