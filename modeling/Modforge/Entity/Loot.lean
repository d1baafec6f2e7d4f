import Modforge.Template.Body

/-! # Loot -/

namespace Modforge

inductive LootAction where
  | dropSelf
  | dropSelfSilk
  | dropOther
  | custom
  deriving DecidableEq, Repr

namespace LootAction

/-- A template that took the name of a bundled one is custom. -/
def ofTemplate (template : Template) : LootAction :=
  if template.isBuiltin then
    if template.name = "drop_self" then .dropSelf
    else if template.name = "drop_self_silk" then .dropSelfSilk
    else if template.name = "drop_other" then .dropOther
    else .custom
  else .custom

/-- Nothing is named that could be dropped. -/
inductive Flaw where
  | noDrop
  deriving DecidableEq, Repr

def Flaw.message : Flaw → String
  | .noDrop => "drop_other loot requires loot_data naming the dropped identifier"

def arguments (action : LootAction) (space id drop : String) (args : List String) :
    Except Flaw (List String) :=
  match action with
  | .dropSelf | .dropSelfSilk => .ok [space ++ ":" ++ id]
  | .dropOther => if drop = "" then .error .noDrop else .ok [drop]
  | .custom => .ok args

end LootAction

end Modforge
