import Modforge.Text.Digits
import Modforge.Yaml.Scalar.Folding

/-! # Quoted scalars -/

namespace Modforge.Yaml

def letterEscape? : Char → Option Char
  | '0' => some (Char.ofNat 0)
  | 'a' => some (Char.ofNat 7)
  | 'b' => some (Char.ofNat 8)
  | 't' => some '\t'
  | '\t' => some '\t'
  | 'n' => some '\n'
  | 'v' => some (Char.ofNat 11)
  | 'f' => some (Char.ofNat 12)
  | 'r' => some '\r'
  | 'e' => some (Char.ofNat 27)
  | ' ' => some ' '
  | '"' => some '"'
  | '/' => some '/'
  | '\\' => some '\\'
  | 'N' => some '\x85'
  | '_' => some '\xa0'
  | 'L' => some '\u2028'
  | 'P' => some '\u2029'
  | _ => none

def escapeWidth? : Char → Option Nat
  | 'x' => some 2
  | 'u' => some 4
  | 'U' => some 8
  | _ => none

/-- What an escape stands for and how many characters follow its backslash. -/
def readEscape : List Char → Option (Char × Nat)
  | [] => none
  | c :: rest =>
    match letterEscape? c, escapeWidth? c with
    | some d, _ => some (d, 1)
    | none, some width => do
      let digits := rest.take width
      if digits.length < width then none
      else
        let code ← Text.wholeIn? 16 Text.isHexDigit digits
        let d ← Text.charOf? code
        pure (d, width + 1)
    | none, none => none

/-- Reads up to the closing quote; `done` in reverse is what was read. A mark of a document may
not start a line. -/
def quotedFrom (double : Bool) : Nat → List Char → Cursor → Option (String × Cursor)
  | 0, _, _ => none
  | fuel + 1, done, cursor =>
    if cursor.atMarker then none
    else match cursor.rest with
      | [] => none
      | c :: rest =>
        if isGap c then
          let (run, next) := cursor.takeWhile isGap
          quotedFrom double fuel ((folded run).reverse ++ done) next
        else if double && c == '\\' then
          if rest.head?.any isBreak then
            let (run, next) := (cursor.skip 1).takeWhile isGap
            let breaks := (run.filter isBreak).drop 1
            quotedFrom double fuel (breaks.reverse ++ done) next
          else match readEscape rest with
            | some (d, taken) => quotedFrom double fuel (d :: done) (cursor.skip (taken + 1))
            | none => none
        else if c == (if double then '"' else '\'') then
          if !double && rest.head? == some '\'' then
            quotedFrom double fuel (c :: done) (cursor.skip 2)
          else some (String.ofList done.reverse, cursor.skip 1)
        else quotedFrom double fuel (c :: done) (cursor.skip 1)

def readQuoted (double : Bool) (size : Nat) (cursor : Cursor) : Option (String × Cursor) :=
  quotedFrom double (size + 1) [] (cursor.skip 1)

end Modforge.Yaml
