import Modforge.Text.ClusterTable
import Modforge.Text.Letter

/-!
# Clusters

A cluster is what a reader takes for one character: a letter with its marks, a flag, pictures
put together by joiners, a syllable. A text is cut into clusters from the left, and whether a
cluster goes on depends on what was read of it so far.
-/

namespace Modforge.Text

inductive Joining where
  | lineFeed
  | carriageReturn
  | control
  | extender
  | joiner
  | spacing
  | opener
  | flagHalf
  | picture
  | consonant
  /-- The parts of a syllable, in their order. -/
  | initial
  | vowel
  | final
  /-- Syllables without a final part, and with one. -/
  | openSyllable
  | closedSyllable
  | alone
  deriving DecidableEq, Repr

namespace Joining

/-- Syllables in order, each first without a final part and then with every one of 27. -/
def ofSyllable (n : Nat) : Joining := if n % 28 = 0 then .openSyllable else .closedSyllable

def parts : List (Nat × Nat × Joining) := [
  (0x1100, 0x115F, .initial), (0xA960, 0xA97C, .initial), (0x1160, 0x11A7, .vowel),
  (0xD7B0, 0xD7C6, .vowel), (0x16D63, 0x16D63, .vowel), (0x16D67, 0x16D6A, .vowel),
  (0x11A8, 0x11FF, .final), (0xD7CB, 0xD7FB, .final)]

def ofChar (c : Char) : Joining :=
  let n := c.toNat
  if c = '\n' then .lineFeed
  else if c = '\r' then .carriageReturn
  else if 0x20 ≤ n ∧ n < 0x7F then .alone
  else if n = 0x200D then .joiner
  else if 0x1F1E6 ≤ n ∧ n ≤ 0x1F1FF then .flagHalf
  else if 0xAC00 ≤ n ∧ n ≤ 0xD7A3 then ofSyllable (n - 0xAC00)
  else if inRanges ClusterTable.control n then .control
  else if inRanges ClusterTable.extender n then .extender
  else if inRanges ClusterTable.spacing n then .spacing
  else if inRanges ClusterTable.opener n then .opener
  else if inRanges ClusterTable.picture n then .picture
  else if inRanges ClusterTable.consonant n then .consonant
  else match parts.find? fun (low, high, _) => low ≤ n && n ≤ high with
    | some (_, _, part) => part
    | none => .alone

def isControl : Joining → Bool
  | .lineFeed | .carriageReturn | .control => true
  | _ => false

def sharesSyllable : Joining → Joining → Bool
  | .initial, .initial | .initial, .vowel => true
  | .initial, .openSyllable | .initial, .closedSyllable => true
  | .openSyllable, .vowel | .openSyllable, .final | .vowel, .vowel | .vowel, .final => true
  | .closedSyllable, .final | .final, .final => true
  | _, _ => false

end Joining

/-- How a cluster ends, as far as it matters to the next character. -/
structure ClusterEnd where
  last : Joining
  /-- A picture and what extends it. -/
  inPicture : Bool
  /-- The same, and a joiner after it. -/
  joinsPicture : Bool
  /-- Half a flag, and not two halves. -/
  halfFlag : Bool
  /-- A consonant and what extends it. -/
  inConsonants : Bool
  /-- The same, with a linker among what extends it. -/
  linksConsonant : Bool

namespace ClusterEnd

def start : ClusterEnd := ⟨.control, false, false, false, false, false⟩

def keepsConsonants (c : Char) (next : Joining) : Bool :=
  next == .joiner || (next == .extender && c.toNat != 0x200C)

def after (e : ClusterEnd) (c : Char) (next : Joining) : ClusterEnd :=
  let keeps := e.inConsonants && keepsConsonants c next
  { last := next
    inPicture := next == .picture || (e.inPicture && next == .extender)
    joinsPicture := e.inPicture && next == .joiner
    halfFlag := next == .flagHalf && !e.halfFlag
    inConsonants := next == .consonant || keeps
    linksConsonant := keeps && (e.linksConsonant || inRanges ClusterTable.linker c.toNat) }

def admits (e : ClusterEnd) (next : Joining) : Bool :=
  if e.last = .carriageReturn ∧ next = .lineFeed then true
  else if e.last.isControl || next.isControl then false
  else e.last.sharesSyllable next
    || next == .extender || next == .joiner || next == .spacing
    || e.last == .opener
    || (e.linksConsonant && next == .consonant)
    || (e.joinsPicture && next == .picture)
    || (e.halfFlag && next == .flagHalf)

end ClusterEnd

/-- The clusters of a text whose first character follows `e`. The first one may go on what stands
before, and is empty if it does not. -/
def clustersAfter (e : ClusterEnd) : List Char → List Char × List (List Char)
  | [] => ([], [])
  | c :: rest =>
    let next := Joining.ofChar c
    let (more, others) := clustersAfter (e.after c next) rest
    if e.admits next then (c :: more, others) else ([], (c :: more) :: others)

def clusters (text : List Char) : List (List Char) := (clustersAfter .start text).2

end Modforge.Text
