import Modforge.Yaml.Cursor

/-! # Block scalars -/

namespace Modforge.Yaml

/-- What becomes of the line breaks at the end. -/
inductive Chomping where
  | strip
  | clip
  | keep
  deriving DecidableEq, Repr

def takeChomping : List Char → Option Chomping × List Char
  | '-' :: rest => (some .strip, rest)
  | '+' :: rest => (some .keep, rest)
  | text => (none, text)

def takeDigit : List Char → Option Nat × List Char
  | [] => (none, [])
  | c :: rest => if Text.isDigit c then (some (c.toNat - 48), rest) else (none, c :: rest)

/-- The two indicators of a header, in either order. The further indentation is not zero. -/
def readBlockHeader (text : List Char) : Option (Chomping × Option Nat × List Char) :=
  let (early, text) := takeChomping text
  let (digit, text) := takeDigit text
  let (late, text) := if early.isSome then (none, text) else takeChomping text
  if digit = some 0 then none else some ((early.or late).getD .clip, digit, text)

structure BlankLines where
  breaks : List Char
  widest : Nat
  next : Cursor

/-- Goes over empty lines and the indentation of the first line that is not empty, as far as the
limit if there is one. `done` in reverse holds the breaks so far. -/
def blankLines (limit : Option Nat) :
    List Char → Nat → Nat → Nat → List Char → Option BlankLines
  | done, widest, line, column, [] => some ⟨done.reverse, widest, ⟨[], line, column⟩⟩
  | done, widest, line, column, c :: rest =>
    let indenting := limit.all fun n => column < n
    if c == ' ' && indenting then
      blankLines limit done (max widest (column + 1)) line (column + 1) rest
    else if c == '\t' && indenting then none
    else if isBreak c then blankLines limit (c :: done) widest (line + 1) 0 rest
    else some ⟨done.reverse, widest, ⟨c :: rest, line, column⟩⟩

def blankLinesFrom (limit : Option Nat) (cursor : Cursor) : Option BlankLines :=
  blankLines limit [] 0 cursor.line cursor.column cursor.rest

/-- What is read of a block: its text in reverse, the break after the last line and the empty
lines after that. -/
structure BlockText where
  done : List Char
  lead : Option Char
  trail : List Char
  next : Cursor

/-- Reads the lines that start at a column. Between two lines that do not start with blanks a
break is folded. -/
def blockFrom (folds : Bool) (column : Nat) : Nat → Bool → BlockText → Option BlockText
  | 0, _, _ => none
  | fuel + 1, startedBlank, block =>
    if block.next.column ≠ column ∨ block.next.rest.isEmpty then some block
    else
      let startsBlank := block.next.rest.head?.any isBlank
      let joint :=
        if folds && block.lead == some '\n' && !startedBlank && !startsBlank then
          (if block.trail.isEmpty then [' '] else [])
        else block.lead.toList
      let (line, next) := block.next.takeWhile fun c => !isBreak c
      let done := line.reverse ++ block.trail.reverse ++ joint ++ block.done
      let lead := next.rest.head?
      match blankLinesFrom (some column) (next.past lead.toList) with
      | none => none
      | some blank =>
        blockFrom folds column fuel startsBlank ⟨done, lead, blank.breaks, blank.next⟩

def BlockText.chomped (block : BlockText) (chomping : Chomping) : String :=
  String.ofList (block.done.reverse ++
    (if chomping = .strip then [] else block.lead.toList) ++
    (if chomping = .keep then block.trail else []))

/-- Reads a block scalar from its indicator on, its lines being indented by `least` columns or
more and no more than `size` characters being left. -/
def readBlock (folds : Bool) (least size : Nat) (cursor : Cursor) : Option (String × Cursor) := do
  let opened := cursor.skip 1
  let (chomping, digit, rest) ← readBlockHeader opened.rest
  let start ← (opened.skip (opened.rest.length - rest.length)).endLine?
  let given := digit.map fun n => least - 1 + n
  let blank ← blankLinesFrom given start
  let column := given.getD (max blank.widest (max least 1))
  let block ← blockFrom folds column (size + 1) false
    ⟨[], none, blank.breaks, blank.next⟩
  pure (block.chomped chomping, block.next)

end Modforge.Yaml
