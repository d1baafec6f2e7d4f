import Modforge.Layout.ExprReader

/-! # Tokens of a layout: text and tags -/

namespace Modforge.Layout

open Text (Parse)
open Text.Parse

inductive Tag where
  | output (value : Expr)
  | comment
  /-- Text that is no layout, and the dashes of its tags that look at it. -/
  | raw (text : List Char) (left right : Bool)
  | openIf (condition : Expr)
  | elseIf (condition : Expr)
  | otherwise
  | closeIf
  | openLoop (key : Option String) (name : String) (range : Expr)
  | closeLoop
  | leaveLoop
  | nextRound
  | assign (everywhere : Bool) (name : String) (value : Expr)
  | openFilter (filter : Call)
  | closeFilter
  | openBlock (name : String)
  | closeBlock
  | extending (parent : String)
  /-- Another layout is put in, if there is one or in any case. -/
  | including (ifThere : Bool)

structure Tagged where
  left : Bool
  right : Bool
  tag : Tag

inductive Token where
  | text (text : List Char)
  | tag (tagged : Tagged)

/-! ## Tags -/

/-- The inside of a tag between two marks, each of which may carry a dash. -/
def readBetween {α : Type} (start finish : String) (inside : Parse α) :
    Parse (Bool × Bool × α) := do
  word start
  let left ← accepts (char '-')
  let value ← spaced inside
  let right ← spaced ((do word ("-" ++ finish); pure true) <|> (do word finish; pure false))
  pure (left, right, value)

def readKeyword (name : String) (tag : Tag) : Parse Tag := do
  word name
  pure tag

def readName : Parse String := spaced readIdent

def readLoop (fuel : Nat) : Parse Tag := do
  readOpWord "for"
  let first ← readName
  let second ← maybe do
    char ','
    readName
  spaced (readOpWord "in")
  let range ← spaced (readRange fuel)
  match second with
  | none => pure (.openLoop none first range)
  | some second => pure (.openLoop (some first) second range)

def readAssign (everywhere : Bool) (keyword : String) (fuel : Nat) : Parse Tag := do
  readOpWord keyword
  let name ← readName
  spaced (char '=')
  let value ← spaced (readExpr fuel)
  pure (.assign everywhere name value)

def readInclude : Parse Tag := do
  readOpWord "include"
  let one : Parse Unit := do
    let _ ← readText
  spaced (one <|> (do
    char '['
    let _ ← many do
      spaced one
      let _ ← accepts (spaced (char ','))
    spaced (char ']')))
  .including <$> accepts (spaced (word "ignore missing"))

def readInsideTag (fuel : Nat) : Parse Tag :=
  readInclude <|>
  (do
    readOpWord "extends"
    let parent ← spaced readText
    pure (.extending parent)) <|>
  readAssign true "set_global" fuel <|>
  readAssign false "set" fuel <|>
  (do
    readOpWord "if"
    let condition ← spaced (readLogic fuel)
    pure (.openIf condition)) <|>
  (do
    readOpWord "elif"
    let condition ← spaced (readLogic fuel)
    pure (.elseIf condition)) <|>
  readKeyword "else" .otherwise <|>
  readKeyword "endif" .closeIf <|>
  readLoop fuel <|>
  readKeyword "endfor" .closeLoop <|>
  readKeyword "break" .leaveLoop <|>
  readKeyword "continue" .nextRound <|>
  (do
    readOpWord "filter"
    let filter ← spaced (readCall fuel <|> (do
      let name ← readIdent
      pure (.mk name [])))
    pure (.openFilter filter)) <|>
  readKeyword "endfilter" .closeFilter <|>
  (do
    readOpWord "block"
    let name ← readName
    pure (.openBlock name)) <|>
  (do
    word "endblock"
    let _ ← maybe readName
    pure .closeBlock)

def readTag (fuel : Nat) : Parse Tagged :=
  (do
    let (left, right, value) ← readBetween "\x7b\x7b" "\x7d\x7d" (readExpr fuel)
    pure ⟨left, right, .output value⟩) <|>
  readRaw <|>
  (do
    let (left, right, tag) ← readBetween "\x7b%" "%\x7d" (readInsideTag fuel)
    pure ⟨left, right, tag⟩) <|>
  readComment
where
  readComment : Parse Tagged := do
    word "\x7b#"
    let left ← accepts (char '-')
    let text ← upTo ['#', '\x7d']
    let right := text.getLast? == some '-'
    if (if right then text.dropLast else text).isEmpty then failure
    else pure ⟨left, right, .comment⟩
  readRawText : Nat → List Char → Parse (List Char × Bool × Bool)
    | 0, _ => failure
    | fuel + 1, done => do
      match ← maybe (readBetween "\x7b%" "%\x7d" (word "endraw")) with
      | some (left, right, ()) => pure (done.reverse, left, right)
      | none =>
        let c ← anyChar
        readRawText fuel (c :: done)
  readRaw : Parse Tagged := do
    let (left, innerLeft, ()) ← readBetween "\x7b%" "%\x7d" (word "raw")
    let rest ← get
    let (text, innerRight, right) ← readRawText (rest.length + 1) []
    pure ⟨left, right, .raw text innerLeft innerRight⟩

/-! ## Whole layouts -/

def startsTag : List Char → Bool
  | '\x7b' :: c :: _ => c == '\x7b' || c == '%' || c == '#'
  | _ => false

def takeText : List Char → List Char × List Char
  | [] => ([], [])
  | c :: rest =>
    if startsTag (c :: rest) then ([], c :: rest)
    else
      let (text, rest) := takeText rest
      (c :: text, rest)

def tokensBelow (depth : Nat) : Nat → List Char → Option (List Token)
  | 0, _ => none
  | _, [] => some []
  | fuel + 1, text =>
    if startsTag text then do
      let (tagged, rest) ← readTag depth text
      let tokens ← tokensBelow depth fuel rest
      pure (.tag tagged :: tokens)
    else do
      let (plain, rest) := takeText text
      let tokens ← tokensBelow depth fuel rest
      pure (.text plain :: tokens)

def tokens (text : String) : Option (List Token) :=
  let chars := text.toList
  tokensBelow (4 * chars.length + 40) (chars.length + 1) chars

end Modforge.Layout
