import Modforge.Toml.Number
import Modforge.Toml.Quoted

/-! # Documents -/

namespace Modforge.Toml

open Text (Parse)
open Text.Parse

/-- Lists and tables between braces lie in each other less deep than this, and keys have fewer
parts. -/
def nestingLimit : Nat := 80

/-! ## Blanks and line ends -/

def blanks : Parse Unit := do
  let _ ← takeWhile isBlank

def lineBreak : Parse Unit := fun text => (afterBreak? text).map ((), ·)

def comment : Parse Unit := do
  char '#'
  let _ ← takeWhile isLineChar

def lineEnd : Parse Unit := fun text => if text.isEmpty then some ((), []) else lineBreak text

def restOfLine : Parse Unit := do
  blanks
  let _ ← maybe comment
  lineEnd

def gap : Parse Unit := do
  let _ ← many ((do let _ ← takeWhile1 isBlank) <|> lineBreak <|> (do comment; lineBreak))

/-! ## Keys -/

def isKeyChar (c : Char) : Bool :=
  Text.isAsciiLower c || Text.isAsciiUpper c || Text.isDigit c || c == '_' || c == '-'

def keyPart : Parse String := do
  blanks
  let part ← quotedLine '"' <|> quotedLine '\'' <|> (String.ofList <$> takeWhile1 isKeyChar)
  blanks
  pure part

/-- A key: the path to it and its last part. -/
def readKey : Parse (List String × String) := do
  let first ← keyPart
  let more ← many do
    char '.'
    keyPart
  let parts := first :: more
  if nestingLimit ≤ parts.length then failure
  else pure (parts.dropLast, parts.getLastD first)

/-! ## Values -/

def separated {α : Type} (p : Parse α) : Parse (List α) :=
  (do
    let first ← p
    let more ← many do
      char ','
      p
    pure (first :: more)) <|>
  pure []

def pairOf (value : Parse Value) : Parse (List String × String × Value) := do
  let (path, key) ← readKey
  char '='
  blanks
  pure (path, key, ← value)

def listOf (item : Parse Value) : Parse Value := do
  char '['
  let items ← separated do
    gap
    let value ← item
    gap
    pure value
  let _ ← if items.isEmpty then pure false else accepts (char ',')
  gap
  char ']'
  pure (.list items)

def bracesOf (value : Parse Value) : Parse Value := do
  char '\x7b'
  let entries ← separated do
    let entry ← pairOf value
    blanks
    pure entry
  blanks
  char '\x7d'
  match Value.ofBraces? entries with
  | some table => pure table
  | none => failure

def simpleValue : Parse Value :=
  (.text <$> readQuoted) <|>
  (do
    word "true"
    pure (.flag true)) <|>
  (do
    word "false"
    pure (.flag false)) <|>
  readNumber

def readValue : Nat → Parse Value
  | 0 => simpleValue
  | levels + 1 => simpleValue <|> listOf (readValue levels) <|> bracesOf (readValue levels)

/-! ## Lines -/

inductive Line where
  | blank
  | header (header : Header)
  | pair (path : List String) (key : String) (value : Value)

def readHeader : Parse Header :=
  (do
    exactly ['[', '[']
    let (path, key) ← readKey
    exactly [']', ']']
    pure (.row path key)) <|>
  (do
    char '['
    let (path, key) ← readKey
    char ']'
    pure (.table path key))

def readLine : Parse Line := do
  blanks
  (do
    let header ← readHeader
    restOfLine
    pure (.header header)) <|>
  (do
    let (path, key, value) ← pairOf (readValue (nestingLimit - 1))
    restOfLine
    pure (.pair path key value)) <|>
  (do
    comment
    lineEnd
    pure .blank) <|>
  (do
    lineBreak
    pure .blank)

def readLines : Parse (List Line) := do
  let lines ← many readLine
  blanks
  pure lines

def Section.extend? (part : Section) : Line → Option Section
  | .blank => some part
  | .header header => part.next? header
  | .pair path key value => part.put? path key value

/-- A byte order mark may stand before everything else. -/
def dropMark : List Char → List Char
  | c :: rest => if c = '\ufeff' then rest else c :: rest
  | [] => []

def tableOf? (text : String) : Option Entries := do
  let lines ← readLines.run (dropMark text.toList)
  let last ← lines.foldlM Section.extend? ⟨[], .document, []⟩
  last.close?

end Modforge.Toml
