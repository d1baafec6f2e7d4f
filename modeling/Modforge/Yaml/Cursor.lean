import Modforge.Text.Letter

/-! # Lines and columns -/

namespace Modforge.Yaml

def isAllowed (c : Char) : Bool :=
  let n := c.toNat
  c == '\t' || c == '\n' || c == '\r' || (0x20 ≤ n && n ≤ 0x7E) || n == 0x85 ||
    (0xA0 ≤ n && n ≤ 0xFFFD) || 0x10000 ≤ n

/-- Carriage returns and next-line characters end lines as line feeds do. -/
def unifyBreaks : List Char → List Char
  | [] => []
  | '\r' :: '\n' :: rest => '\n' :: unifyBreaks rest
  | c :: rest => (if c = '\r' ∨ c = '\x85' then '\n' else c) :: unifyBreaks rest

/-- The breaks that are left once those of one kind are unified. -/
def isBreak (c : Char) : Bool := c == '\n' || c == '\u2028' || c == '\u2029'

def isBlank (c : Char) : Bool := c == ' ' || c == '\t'

def isGap (c : Char) : Bool := isBlank c || isBreak c

def endsWord : List Char → Bool
  | [] => true
  | c :: _ => isGap c

def isWordOf (word : List Char) (text : List Char) : Bool :=
  word.isPrefixOf text && endsWord (text.drop word.length)

def isNameChar (c : Char) : Bool :=
  Text.isAsciiLower c || Text.isAsciiUpper c || Text.isDigit c || c == '_' || c == '-'

structure Cursor where
  rest : List Char
  line : Nat
  column : Nat
  deriving Repr

namespace Cursor

def ofChars (text : List Char) : Cursor := ⟨text, 0, 0⟩

def step (cursor : Cursor) (c : Char) : Cursor :=
  if isBreak c then ⟨cursor.rest.drop 1, cursor.line + 1, 0⟩
  else ⟨cursor.rest.drop 1, cursor.line, cursor.column + 1⟩

def past (cursor : Cursor) (run : List Char) : Cursor := run.foldl step cursor

def skip (cursor : Cursor) (count : Nat) : Cursor :=
  ⟨cursor.rest.drop count, cursor.line, cursor.column + count⟩

def takeWhile (cursor : Cursor) (inClass : Char → Bool) : List Char × Cursor :=
  let run := cursor.rest.takeWhile inClass
  (run, cursor.past run)

/-- Whether the rest is a line with the mark that starts or ends a document. -/
def atMarker (cursor : Cursor) : Bool :=
  cursor.column == 0 &&
    (isWordOf ['-', '-', '-'] cursor.rest || isWordOf ['.', '.', '.'] cursor.rest)

/-- Goes to the next line, over blanks and a comment. Nothing else may be left on this one. -/
def endLine? (cursor : Cursor) : Option Cursor :=
  let (_, cursor) := cursor.takeWhile isBlank
  let cursor :=
    if cursor.rest.head? = some '#' then (cursor.takeWhile fun c => !isBreak c).2 else cursor
  match cursor.rest with
  | [] => some cursor
  | c :: _ => if isBreak c then some (cursor.step c) else none

/-- The start of the next token, and whether a key may start there. A line and a column belong to
the text that is left, which may be that of a comment. A line may start with a byte order mark,
which takes a column. -/
def tokenStart (inFlow : Bool) : Bool → Bool → Nat → Nat → List Char → Bool × Cursor
  | keyAllowed, _, line, column, [] => (keyAllowed, ⟨[], line, column⟩)
  | keyAllowed, inComment, line, column, c :: rest =>
    if isBreak c then tokenStart inFlow (keyAllowed || !inFlow) false (line + 1) 0 rest
    else if inComment || c == '#' then tokenStart inFlow keyAllowed true line (column + 1) rest
    else if c == ' ' || (c == '\t' && (inFlow || !keyAllowed)) ||
        (c == '\ufeff' && column == 0) then
      tokenStart inFlow keyAllowed false line (column + 1) rest
    else (keyAllowed, ⟨c :: rest, line, column⟩)

/-- Goes to the next token: over blanks, comments and breaks. Tabs do not indent a line on which
a key may start. -/
def toToken (cursor : Cursor) (inFlow keyAllowed : Bool) : Bool × Cursor :=
  tokenStart inFlow keyAllowed false cursor.line cursor.column cursor.rest

end Cursor

end Modforge.Yaml
