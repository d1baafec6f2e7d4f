import Mathlib.Data.List.Infix

/-! # Items after items -/

namespace Modforge

variable {α : Type}

def preceded (items : List α) : List (List α × α) := items.inits.zip items

theorem preceded_concat (items : List α) (item : α) :
    preceded (items ++ [item]) = preceded items ++ [(items, item)] := by
  induction items with
  | nil => rfl
  | cons first rest ih =>
    unfold preceded at *
    simp only [List.cons_append, List.inits_cons, List.zip_cons_cons, List.zip_map_left, ih,
      List.map_append]
    rfl

end Modforge
