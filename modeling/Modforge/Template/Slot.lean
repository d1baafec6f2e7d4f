import Modforge.Decimal.Word
import Modforge.Text.Digits
import Modforge.Text.Split

/-!
# Slots

A text with slots, read once from the left. A percent sign opens a slot when `s`, `n` or a second
percent sign follows it, perhaps after a number and a dollar sign; any other character stands for
itself.
-/

namespace Modforge

inductive Piece where
  | char (c : Char)
  | next
  /-- The argument of this number, counted from one. -/
  | nth (n : Nat)
  deriving DecidableEq, Repr

namespace Slot

/-- Numbers from here on are no numbers of arguments. -/
def numberLimit : Nat := Decimal.wordLimit 64

def closed (argument : Piece) : Char → Option Piece
  | 's' => some argument
  | 'n' => some (.char '\n')
  | '%' => some (.char '%')
  | _ => none

/-- The slot whose percent sign was taken, and how many characters it takes. -/
def open? (text : List Char) : Option (Piece × Nat) :=
  let digits := text.takeWhile Text.isDigit
  match digits with
  | [] => (text.head?.bind (closed .next)).map fun piece => (piece, 1)
  | first :: _ =>
    if first = '0' then none
    else match text.drop digits.length with
      | '$' :: c :: _ =>
        let n := Text.valueOfDigits digits
        let argument := if n < numberLimit then .nth n else .next
        (closed argument c).map fun piece => (piece, digits.length + 2)
      | _ => none

/-- The pieces of a text after its first `skip` characters. -/
def scanFrom : Nat → List Char → List Piece
  | _, [] => []
  | skip + 1, _ :: rest => scanFrom skip rest
  | 0, c :: rest =>
    if c = '%' then
      match open? rest with
      | some (piece, size) => piece :: scanFrom size rest
      | none => .char c :: scanFrom 0 rest
    else .char c :: scanFrom 0 rest

def scan (text : String) : List Piece := scanFrom 0 text.toList

/-- The text with its arguments put in, `used` of them being taken in turn before; or the number
of the first one that is missing. -/
def fill (args : List String) : Nat → List Piece → Except Nat (List Char)
  | _, [] => .ok []
  | used, .char c :: rest => (fill args used rest).map (c :: ·)
  | used, .next :: rest =>
    match args[used]? with
    | some arg => (fill args (used + 1) rest).map (arg.toList ++ ·)
    | none => .error (used + 1)
  | used, .nth n :: rest =>
    match args[n - 1]? with
    | some arg => (fill args used rest).map (arg.toList ++ ·)
    | none => .error n

end Slot

end Modforge
