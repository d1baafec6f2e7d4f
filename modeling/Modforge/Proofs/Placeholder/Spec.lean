import Modforge.Naming.Rule
import Modforge.Proofs.Slot.Spec

/-!
# What placeholders stand for

A text holds a place for each of two names, and slots. When the names are put in they are mere
text, unless they go on with what is written next to them: then they may become an id mark or a
slot. Which texts let them do so is said here letter by letter.
-/

namespace Modforge

inductive Placeholder where
  | space
  | id
  deriving DecidableEq, Repr

def Placeholder.written : Placeholder → List Char
  | .space => Template.namespaceMark.toList
  | .id => Template.idMark.toList

/-- A letter or a place for a name. -/
abbrev Mark := Char ⊕ Placeholder

/-- A slot that is written in a text as it is, without the help of a name. -/
def Slot.plain (slot : Slot) : List Mark := slot.written.map .inl

structure Names where
  space : String
  id : String
  space_ok : Naming.checkNamespace space = .ok ()
  id_ok : Naming.checkId id = .ok ()

namespace Names

variable (names : Names)

def name : Placeholder → List Char
  | .space => names.space.toList
  | .id => names.id.toList

def spell : Mark → List Char := Sum.elim (fun c => [c]) names.name

end Names

/-- A namespace can stand for some of the letters of an id mark. -/
def MayMark (marks : List Mark) : Prop :=
  ∃ (before after : List Char) (names : Names),
    before ++ names.space.toList ++ after = Template.idMark.toList ∧
      before.map .inl ++ .inr .space :: after.map .inl <:+: marks

/-- Names of digits make a number of it. -/
structure IsRun (run : List Mark) : Prop where
  ne_nil : run ≠ []
  head : run.head? ≠ some (.inl '0')
  digit : ∀ c, .inl c ∈ run → Text.isDigit c = true

/-- What names can make a slot of after a percent sign: a name that begins with the letter of a
slot, a number that holds a name, or a number that is closed by another name. -/
inductive MayOpen : List Mark → Prop
  | atOnce (p : Placeholder) (rest : List Mark) : MayOpen (.inr p :: rest)
  | inNumber {run : List Mark} (hrun : IsRun run) {p : Placeholder} (hp : .inr p ∈ run)
    (kind : SlotKind) (rest : List Mark) :
    MayOpen (run ++ .inl '$' :: .inl (Slot.letter kind) :: rest)
  | afterNumber {run : List Mark} (hrun : IsRun run) {p : Placeholder} (hp : .inr p ∉ run)
    (rest : List Mark) : MayOpen (run ++ .inl '$' :: .inr p :: rest)

/-- No name goes on with what is written next to it. -/
structure NamesApart (marks : List Mark) (parts : List (Mark ⊕ Slot)) : Prop where
  mark : ¬ MayMark marks
  slot : ∀ before after, parts = before ++ .inl (.inl '%') :: after →
    ¬ MayOpen (spellOut Slot.plain after)

/-- The numbers of all arguments that the text of a template asks for with this id. -/
def Template.Asks (template : Template) (id : String) (numbers : List Nat) : Prop :=
  ∃ marks parts, ReadAs idMarks template.body.toList marks ∧
    ReadAs Slot.written (withId id marks) parts ∧
    numbers = Slot.numbers Slot.counted 0 parts

end Modforge
