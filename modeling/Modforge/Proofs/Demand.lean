import Modforge.Member.Check

/-! # What is asked of members -/

namespace Modforge

inductive Demand where
  | name
  /-- The type of a field, or the parameters of a method. -/
  | type
  | static
  | access
  deriving DecidableEq, Repr

namespace Demand

def all : List Demand := [.name, .type, .static, .access]

def nameComplaint (name : String) : String :=
  if name ∈ Naming.keywords then "'" ++ name ++ "' is a reserved Java keyword"
  else "'" ++ name ++ "' is not a valid Java identifier"

end Demand

namespace Naming

theorem isIdentifierShape_of_mem_keywords :
    ∀ name ∈ keywords, isIdentifierShape name.toList = true := by
  decide +kernel

theorem message_of_checkIdentifier {name : String} {flaw : Flaw}
    (h : checkIdentifier name = .error flaw) : flaw.message = Demand.nameComplaint name := by
  unfold checkIdentifier at h
  unfold Demand.nameComplaint
  split at h
  · next hshape =>
    have hword : name ∉ keywords := by
      intro hname
      simp [isIdentifierShape_of_mem_keywords name hname] at hshape
    cases h
    rw [if_neg hword]
    rfl
  · split at h
    · next hword =>
      cases h
      rw [if_pos (List.contains_iff_mem.1 hword)]
      rfl
    · cases h

end Naming

namespace Reported

theorem check_checkIdentifier (name subject : String) :
    (check (Naming.checkIdentifier name) fun flaw => .structural subject flaw.message) =
      require (Naming.isIdentifier name) (.structural subject (Demand.nameComplaint name)) := by
  cases hcheck : Naming.checkIdentifier name with
  | ok =>
    have hname : Naming.isIdentifier name = true := Naming.checkIdentifier_eq_ok_iff.1 hcheck
    simp [check, require, hname]
  | error flaw =>
    have hname : Naming.isIdentifier name = false := by
      rw [← Bool.not_eq_true, ← Naming.checkIdentifier_eq_ok_iff, hcheck]
      simp
    simp [check, require, hname, Naming.message_of_checkIdentifier hcheck]

theorem all_require {α : Type} (items : List α) (holds : α → Bool) (report : α → Diagnostic) :
    all (items.map fun a => require (holds a) (report a)) =
      ⟨items.all holds, (items.filter (!holds ·)).map report⟩ := by
  induction items with
  | nil => rfl
  | cons a rest ih =>
    simp only [all, List.map_cons, List.all_cons, List.flatMap_cons, Reported.mk.injEq] at ih ⊢
    rw [ih.1, ih.2, List.filter_cons]
    cases holds a <;> simp [require]

end Reported

end Modforge
