import Modforge.Decimal.Word
import Modforge.Decimal.Written
import Modforge.Json.Value
import Modforge.Text.Digits
import Modforge.Text.Split

/-!
# References

A reference names a variable and then, after dots and in brackets, the keys that lead into its
value. In brackets stands a number, a key between quotes, or a reference whose value is the key.
Before a reference is followed its brackets become dots; quotes keep the dots of a key apart.
-/

namespace Modforge.Layout.Reference

open Text (isDigit)

def isQuote (c : Char) : Bool := c == '"' || c == '\''

/-- What stands in brackets, unless quotes open it. A bracket that is open comes with the number of
those open in it, itself counted, and with what was read of it, the last character first. There is
no answer if one stays open. -/
def bracketed? : Option (Nat × List Char) → List Char → Option (List (List Char))
  | none, [] => some []
  | none, ['['] => none
  | none, '[' :: c :: rest => bracketed? (if isQuote c then none else some (1, [c])) rest
  | none, _ :: rest => bracketed? none rest
  | some _, [] => none
  | some (depth, done), c :: rest =>
    if c == ']' && depth == 1 then (done.reverse :: ·) <$> bracketed? none rest
    else
      let depth := if c == ']' then depth - 1 else if c == '[' then depth + 1 else depth
      bracketed? (some (depth, c :: done)) rest

/-- Digits that fit a word, after a plus sign or none. -/
def isNumber (text : List Char) : Bool :=
  let digits := if text.head? == some '+' then text.drop 1 else text
  match Text.wholeIn? 10 isDigit digits with
  | some n => Decimal.fitsUnsigned 64 n
  | none => false

def inner? (reference : List Char) : Option (List (List Char)) :=
  (bracketed? none reference).map fun found => found.filter fun text => !isNumber text

/-- A value as a key. Only texts and numbers are keys. -/
def keyOf? : Json → Option (List Char)
  | .text text => some ('"' :: text.toList ++ ['"'])
  | .int n => some (toString n).toList
  | .float x => some x.shortText.toList
  | _ => none

def splitFirst? (pattern : List Char) : List Char → Option (List Char × List Char)
  | [] => none
  | c :: rest =>
    if pattern.isPrefixOf (c :: rest) then some ([], (c :: rest).drop pattern.length)
    else (splitFirst? pattern rest).map fun (before, after) => (c :: before, after)

/-- Puts a key in the place of the first brackets with `inner` in them. -/
def putKey (inner key reference : List Char) : List Char :=
  match splitFirst? ('[' :: inner ++ [']']) reference with
  | some (before, after) => before ++ '.' :: key ++ after
  | none => reference ++ '.' :: key

def dotted : List (List Char × List Char) := [
  (['[', '\''], ['.', '"']), (['[', '"'], ['.', '"']), (['['], ['.']),
  (['\'', ']'], ['"']), (['"', ']'], ['"']), ([']'], [])]

def withoutBrackets (reference : List Char) : List Char :=
  dotted.foldl (fun text (old, new) => Text.replaceChars old new text) reference

/-- The pieces between the dots that are not between quotes, the last character of the first piece
first. -/
def pieces (inSingle inDouble : Bool) (done : List Char) : List Char → List (List Char)
  | [] => [done.reverse]
  | c :: rest =>
    if c == '.' && !inSingle && !inDouble then done.reverse :: pieces false false [] rest
    else pieces (inSingle != (c == '\'')) (inDouble != (c == '"')) (c :: done) rest

/-- The keys that follow the variable, without their quotes. An empty one at the end leads
nowhere else. -/
def keys (text : List Char) : List String :=
  let found := (pieces false false [] text).map (Text.trimChars isQuote)
  let found := if found.getLast? == some [] then found.dropLast else found
  found.map String.ofList

def parts (reference : List Char) : String × List String :=
  (String.ofList (reference.takeWhile (· != '.')), keys ((reference.dropWhile (· != '.')).drop 1))

def keysAfter? (name : String) (reference : List Char) : Option (List String) :=
  if reference = name.toList then some []
  else if (name.toList ++ ['.']).isPrefixOf reference then
    some (keys (reference.drop (name.toList.length + 1)))
  else none

end Modforge.Layout.Reference
