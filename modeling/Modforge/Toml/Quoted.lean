import Modforge.Text.Digits
import Modforge.Text.Parse

/-! # Quoted texts -/

namespace Modforge.Toml

open Text (Parse)

def isLineChar (c : Char) : Bool :=
  let n := c.toNat
  c == '\t' || (0x20 ≤ n && n != 0x7F)

def isBlank (c : Char) : Bool := c == ' ' || c == '\t'

def afterBreak? : List Char → Option (List Char)
  | '\n' :: rest => some rest
  | '\r' :: '\n' :: rest => some rest
  | _ => none

def dropGap : List Char → List Char
  | '\r' :: '\n' :: rest => dropGap rest
  | c :: rest => if isBlank c || c == '\n' then dropGap rest else c :: rest
  | [] => []

def letterEscape? : Char → Option Char
  | 'b' => some (Char.ofNat 8)
  | 't' => some '\t'
  | 'n' => some '\n'
  | 'f' => some (Char.ofNat 12)
  | 'r' => some '\r'
  | '"' => some '"'
  | '\\' => some '\\'
  | _ => none

def numberEscape? (width : Nat) (text : List Char) : Option (Char × List Char) := do
  let digits := text.take width
  if digits.length < width then none
  else
    let code ← Text.wholeIn? 16 Text.isHexDigit digits
    pure (← Text.charOf? code, text.drop width)

def escape? : List Char → Option (Char × List Char)
  | 'u' :: rest => numberEscape? 4 rest
  | 'U' :: rest => numberEscape? 8 rest
  | c :: rest => (letterEscape? c).map (·, rest)
  | [] => none

/-- What is left of lines after a backslash that ends one, if it does. -/
def afterBackslash? (text : List Char) : Option (List Char) :=
  (afterBreak? (text.dropWhile isBlank)).map dropGap

/-- The quotes that a run of them inside lines or at their end stands for, and whether it is the
end: up to two may stand before the closing three. -/
def quoteRun? (count : Nat) : Option (Nat × Bool) :=
  if count < 3 then some (count, false)
  else if count ≤ 5 then some (count - 3, true)
  else none

/-- Reads up to the closing quote or quotes; `done` in reverse is what was read. -/
def quotedFrom (quote : Char) (lines : Bool) :
    Nat → List Char → List Char → Option (String × List Char)
  | 0, _, _ => none
  | _, _, [] => none
  | fuel + 1, done, c :: rest =>
    if c == quote then
      if !lines then some (String.ofList done.reverse, rest)
      else do
        let count := ((c :: rest).takeWhile (· == quote)).length
        let (kept, ends) ← quoteRun? count
        let done := List.replicate kept quote ++ done
        let rest := (c :: rest).drop count
        if ends then some (String.ofList done.reverse, rest)
        else quotedFrom quote lines fuel done rest
    else if quote == '"' && c == '\\' then
      match if lines then afterBackslash? rest else none with
      | some rest => quotedFrom quote lines fuel done rest
      | none => do
        let (d, rest) ← escape? rest
        quotedFrom quote lines fuel (d :: done) rest
    else match if lines then afterBreak? (c :: rest) else none with
      | some rest => quotedFrom quote lines fuel ('\n' :: done) rest
      | none => if isLineChar c then quotedFrom quote lines fuel (c :: done) rest else none

def quotedLine (quote : Char) : Parse String := do
  Parse.char quote
  fun text => quotedFrom quote false (text.length + 1) [] text

/-- Quoted lines. A line break right after the opening quotes does not count. -/
def quotedLines (quote : Char) : Parse String := do
  Parse.exactly [quote, quote, quote]
  fun text =>
    let text := (afterBreak? text).getD text
    quotedFrom quote true (text.length + 1) [] text

def readQuoted : Parse String :=
  quotedLines '"' <|> quotedLine '"' <|> quotedLines '\'' <|> quotedLine '\''

end Modforge.Toml
