import Mathlib.Data.List.Infix
import Mathlib.Data.PNat.Notation
import Modforge.Proofs.Slot.Reading
import Modforge.Template.Body

/-! # What slots stand for -/

namespace Modforge

inductive SlotKind where
  | argument
  | newline
  | percent
  deriving DecidableEq, Repr

structure Slot where
  number : Option ℕ+
  kind : SlotKind
  deriving DecidableEq

namespace Slot

def letter : SlotKind → Char
  | .argument => 's'
  | .newline => 'n'
  | .percent => '%'

def digits? (number : Option ℕ+) : Option (List Char) :=
  number.map fun n : ℕ+ => Nat.toDigits 10 n

def numberText : Option ℕ+ → List Char
  | none => []
  | some n => Nat.toDigits 10 n ++ ['$']

def written (slot : Slot) : List Char := '%' :: (numberText slot.number ++ [letter slot.kind])

/-- A slot goes by its own number, however large. -/
def own (slot : Slot) : Option Nat := slot.number.map PNat.val

/-- A slot goes by its number if that is small enough for a word. -/
def counted (slot : Slot) : Option Nat := slot.own.filter (· < numberLimit)

section

variable (index : Slot → Option Nat)

/-- A slot for an argument that goes by no number takes the next argument. -/
def takesTurn (slot : Slot) : Bool := slot.kind == .argument && (index slot).isNone

def turns (parts : List (Char ⊕ Slot)) : Nat :=
  parts.countP (Sum.elim (fun _ => false) (takesTurn index))

/-- The number of the argument that a part asks for, if so many were taken in turn before. -/
def asked? (used : Nat) : Char ⊕ Slot → Option Nat
  | .inl _ => none
  | .inr slot =>
    match slot.kind with
    | .argument => some ((index slot).getD (used + 1))
    | .newline => none
    | .percent => none

def shownAs (args : List String) (number : Option Nat) : Char ⊕ Slot → List Char
  | .inl c => [c]
  | .inr slot =>
    match slot.kind with
    | .argument => ((number.bind fun n => args[n - 1]?).getD "").toList
    | .newline => ['\n']
    | .percent => ['%']

/-- Each part with the number of its argument. Turns are counted over the parts before it. -/
def numbered (used : Nat) (parts : List (Char ⊕ Slot)) : List ((Char ⊕ Slot) × Option Nat) :=
  (parts.inits.zip parts).map fun (before, part) =>
    (part, asked? index (used + turns index before) part)

def numbers (used : Nat) (parts : List (Char ⊕ Slot)) : List Nat :=
  (numbered index used parts).filterMap Prod.snd

def shown (args : List String) (used : Nat) (parts : List (Char ⊕ Slot)) : List Char :=
  (numbered index used parts).flatMap fun (part, number) => shownAs args number part

/-- Either all arguments are there, or the first one that is not is missing. -/
def outcome (name : String) (args : List String) (parts : List (Char ⊕ Slot)) :
    Except MissingArgument String :=
  match (numbers index 0 parts).find? (args.length < ·) with
  | none => .ok (String.ofList (shown index args 0 parts))
  | some n => .error ⟨name, n, args.length⟩

end

end Slot

def withId (id : String) (marks : List (Char ⊕ Unit)) : List Char :=
  spellOut (fun _ => id.toList) marks

def idMarks : Unit → List Char := fun _ => Template.idMark.toList

end Modforge
