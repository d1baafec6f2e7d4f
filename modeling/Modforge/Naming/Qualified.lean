import Modforge.Text.Split

/-! # Qualified names: a package and a simple name -/

namespace Modforge.Naming

/-- The part before the last dot, empty for the default package. -/
def packageOf (name : String) : String :=
  match Text.splitLast '.' name with
  | some (package, _) => package
  | none => ""

def simpleName (name : String) : String :=
  match Text.splitLast '.' name with
  | some (_, simple) => simple
  | none => name

def packageParts (package : String) : List String :=
  (Text.split '.' package).filter (· != "")

theorem parts_of_name (name : String) :
    '.' ∉ (simpleName name).toList ∧
      (name = packageOf name ++ "." ++ simpleName name ∨
        packageOf name = "" ∧ name = simpleName name) := by
  unfold packageOf simpleName Text.splitLast
  cases hlast : Text.splitLastChars '.' name.toList with
  | none => exact ⟨Text.not_mem_of_splitLastChars hlast, .inr ⟨rfl, rfl⟩⟩
  | some parts =>
    obtain ⟨hname, hdot⟩ := Text.splitLastChars_eq_some hlast
    refine ⟨by simpa using hdot, .inl ?_⟩
    apply String.toList_injective
    simp [hname]

end Modforge.Naming
