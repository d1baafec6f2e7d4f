import Modforge.Yaml.Cursor

/-! # Folding the gap between two words -/

namespace Modforge.Yaml

/-- Blanks within a line stand for themselves. One line break folds to a space, and more of them
lose the first. -/
def folded (run : List Char) : List Char :=
  match run.filter isBreak with
  | [] => run
  | ['\n'] => [' ']
  | '\n' :: more => more
  | breaks => breaks

@[simp] theorem folded_nil : folded [] = [] := rfl

end Modforge.Yaml
