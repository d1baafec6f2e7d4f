import Modforge.Yaml.Scalar.Folding

/-! # Plain scalars -/

namespace Modforge.Yaml

def isFlowMark (c : Char) : Bool := [',', '[', ']', '\x7b', '\x7d'].contains c

/-- Adds the word that the text starts with to `done`, which is in reverse. Between brackets a
colon may not stand before a bracket, a comma or a question mark. -/
def plainWord (inFlow : Bool) : List Char → List Char → Option (List Char)
  | done, [] => some done
  | done, c :: rest =>
    if isGap c then some done
    else if inFlow && c == ':' && rest.head?.any (fun d => isFlowMark d || d == '?') then none
    else if c == ':' && endsWord rest then some done
    else if inFlow && isFlowMark c then some done
    else plainWord inFlow (c :: done) rest

/-- Whether a tab stands where a line is not yet indented by this much. The column is that of
the first character, if a line break was seen. -/
def hasEarlyTab (indent : Nat) : Option Nat → List Char → Bool
  | _, [] => false
  | column, c :: rest =>
    if isBreak c then hasEarlyTab indent (some 0) rest
    else match column with
      | none => hasEarlyTab indent none rest
      | some n => (c == '\t' && n < indent) || hasEarlyTab indent (some (n + 1)) rest

structure PlainText where
  text : String
  endsLine : Bool
  next : Cursor

/-- Reads words and the gaps between them; `done` in reverse is what was read and `run` the gap
after it. -/
def plainFrom (inFlow : Bool) (indent : Nat) :
    Nat → List Char → List Char → Cursor → Option PlainText
  | 0, _, _, _ => none
  | fuel + 1, done, run, cursor =>
    let stop : Option PlainText := some ⟨String.ofList done.reverse, run.any isBreak, cursor⟩
    if cursor.atMarker || cursor.rest.head? == some '#' then stop
    else match plainWord inFlow [] cursor.rest with
      | none => none
      | some [] => stop
      | some word =>
        let cursor := cursor.skip word.length
        let (gap, next) := cursor.takeWhile isGap
        let done := word ++ (folded run).reverse ++ done
        if hasEarlyTab indent none gap then none
        else if gap.isEmpty || (!inFlow && next.column < indent) then
          some ⟨String.ofList done.reverse, gap.any isBreak, next⟩
        else plainFrom inFlow indent fuel done gap next

/-- Reads plain text whose first character is known to start one, no more than `size` characters
being left. -/
def readPlain (inFlow : Bool) (indent size : Nat) (cursor : Cursor) : Option PlainText :=
  plainFrom inFlow indent (size + 1) [] [] cursor

end Modforge.Yaml
