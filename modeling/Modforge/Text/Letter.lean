import Modforge.Text.CaseTable
import Modforge.Text.ClassTable

/-! # Letters and their case -/

namespace Modforge.Text

def inRanges (ranges : List (Nat × Nat)) (n : Nat) : Bool :=
  ranges.any fun (low, high) => low ≤ n && n ≤ high

def inSteps (ranges : List (Nat × Nat × Nat)) (n : Nat) : Bool :=
  ranges.any fun (low, high, step) => low ≤ n && n ≤ high && (n - low) % step == 0

def shiftCase (table : List (Nat × Nat × Nat × Int)) (c : Char) : Char :=
  match table.find? fun (low, high, step, _) =>
      low ≤ c.toNat && c.toNat ≤ high && (c.toNat - low) % step == 0 with
  | some (_, _, _, distance) => Char.ofNat (c.toNat + distance).toNat
  | none => c

def isAscii (c : Char) : Bool := c.toNat < 128

def isAsciiUpper (c : Char) : Bool := 'A' ≤ c && c ≤ 'Z'

def isAsciiLower (c : Char) : Bool := 'a' ≤ c && c ≤ 'z'

def isDigit (c : Char) : Bool := '0' ≤ c && c ≤ '9'

def isUpper (c : Char) : Bool :=
  if isAscii c then isAsciiUpper c else inSteps CaseTable.upper c.toNat

def isLower (c : Char) : Bool :=
  if isAscii c then isAsciiLower c else inSteps CaseTable.lower c.toNat

def isAlphanumeric (c : Char) : Bool :=
  if isAscii c then isAsciiUpper c || isAsciiLower c || isDigit c
  else inRanges ClassTable.alphanumeric c.toNat

def isSpace (c : Char) : Bool := inRanges ClassTable.space c.toNat

/-- The lower case form of one character, whatever stands beside it. -/
def lowerForm (c : Char) : List Char :=
  if isAscii c then [if isAsciiUpper c then Char.ofNat (c.toNat + 32) else c]
  else match CaseTable.toLowerLong.lookup c.toNat with
    | some long => long.map Char.ofNat
    | none => [shiftCase CaseTable.toLower c]

def upperForm (c : Char) : List Char :=
  if isAscii c then [if isAsciiLower c then Char.ofNat (c.toNat - 32) else c]
  else match CaseTable.toUpperLong.lookup c.toNat with
    | some long => long.map Char.ofNat
    | none => [shiftCase CaseTable.toUpper c]

def isCased (c : Char) : Bool :=
  isUpper c || isLower c || inRanges CaseTable.title c.toNat

/-- Whether the first character that is not stepped over is a cased letter. -/
def meetsCased (text : List Char) : Bool :=
  match text.dropWhile fun c => inRanges ClassTable.caseIgnorable c.toNat with
  | c :: _ => isCased c
  | [] => false

/-- Lower case forms, given the characters before in reverse. A capital sigma that ends a
word has a form of its own. -/
def lowerAfter (before : List Char) : List Char → List Char
  | [] => []
  | c :: rest =>
    (if c = 'Σ' then [if meetsCased before && !meetsCased rest then 'ς' else 'σ']
      else lowerForm c) ++ lowerAfter (c :: before) rest

def toLower (text : String) : String := String.ofList (lowerAfter [] text.toList)

def toUpper (text : String) : String := String.ofList (text.toList.flatMap upperForm)

def agreesIgnoringAsciiCase (a b : String) : Bool :=
  let lower (c : Char) := if isAsciiUpper c then Char.ofNat (c.toNat + 32) else c
  a.toList.map lower == b.toList.map lower

end Modforge.Text
