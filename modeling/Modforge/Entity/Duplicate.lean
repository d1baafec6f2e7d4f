import Modforge.Entity.Basic

/-! # Ids that occur twice -/

namespace Modforge

structure Registration where
  registry : String
  id : String
  field : String
  deriving DecidableEq, Repr

namespace Registration

def ofBlock (b : BlockEntity) : List Registration :=
  ⟨"block", b.id, b.field⟩ :: if b.companion then [⟨"item", b.id, b.field⟩] else []

def ofItem (i : ItemEntity) : Registration := ⟨"item", i.id, i.field⟩

def all (blocks : List BlockEntity) (items : List ItemEntity) : List Registration :=
  blocks.flatMap ofBlock ++ items.map ofItem

/-- What two entries clash in. -/
def key (r : Registration) : String × String := (r.registry, r.id)

/-- Notes an entry if it is the first of its key, and otherwise gives back the first. -/
def note (seen : List ((String × String) × Registration)) (r : Registration) :
    Option Registration × List ((String × String) × Registration) :=
  match seen.lookup r.key with
  | some first => (some first, seen)
  | none => (none, (r.key, r) :: seen)

/-- Each entry that clashes with an earlier one, and the first such one. -/
def repeated (seen : List ((String × String) × Registration)) :
    List Registration → List (Registration × Registration)
  | [] => []
  | r :: rest =>
    let (first?, seen) := note seen r
    (first?.map fun first => (r, first)).toList ++ repeated seen rest

def report (c : Container) (r first : Registration) : Diagnostic :=
  .caution (c.fieldSubject r.field)
    (r.registry ++ " id '" ++ c.space ++ ":" ++ r.id ++ "' is also registered by " ++ first.field)

end Registration

def duplicateReports (c : Container) (blocks : List BlockEntity) (items : List ItemEntity) :
    List Diagnostic :=
  (Registration.repeated [] (Registration.all blocks items)).map fun (r, first) =>
    r.report c first

end Modforge
