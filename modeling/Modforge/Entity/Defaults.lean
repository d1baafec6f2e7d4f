import Modforge.Declaration.Container
import Modforge.Entity.Layer

/-! # What entities take from their container -/

namespace Modforge

/-- A template and the arguments it is rendered with. -/
structure Chosen where
  template : Template
  args : List String
  deriving DecidableEq, Repr

structure CategoryDefault where
  template : Option Template
  args : List String
  deriving DecidableEq, Repr

structure ResolvedDefaults where
  blockModel : CategoryDefault
  blockState : CategoryDefault
  itemModel : CategoryDefault
  blockItem : CategoryDefault
  lootTable : CategoryDefault
  companion : Bool
  group : Option StaticField
  deriving DecidableEq, Repr

def CategoryDefault.resolve (category : Category) (choice : TemplateChoice) (args : List String)
    (store : TemplateStore) (subject : String) : Reported CategoryDefault := do
  if choice = .inherit then
    .report (.configuration subject
      ("default " ++ category.name ++ " template cannot inherit; using none"))
  let template ← choice.resolve none store category.kind subject
  pure ⟨template, args⟩

/-- The group of a valid reference. A bad one is reported after `label` and gives none. -/
def StaticField.accepted (group : StaticField) (label subject : String) :
    Reported (Option StaticField) := do
  let valid ← Reported.check group.check fun flaw =>
    .configuration subject (label ++ ": " ++ flaw.message)
  pure (if valid then some group else none)

def defaultGroup (choice : GroupChoice) (subject : String) : Reported (Option StaticField) :=
  match choice with
  | .inherit =>
    ⟨none, [.configuration subject "default item group cannot inherit; using none"]⟩
  | .void => pure none
  | .field group => group.accepted "default item group" subject

def Defaults.resolve (d : Defaults) (store : TemplateStore) (subject : String) :
    Reported ResolvedDefaults := do
  let blockModel ← CategoryDefault.resolve .blockModel d.block d.blockArgs store subject
  let blockState ← CategoryDefault.resolve .blockState d.blockState d.blockStateArgs store subject
  let itemModel ← CategoryDefault.resolve .itemModel d.item d.itemArgs store subject
  let blockItem ← CategoryDefault.resolve .blockItem d.blockItem d.blockItemArgs store subject
  let lootTable ← CategoryDefault.resolve .lootTable d.loot d.lootArgs store subject
  let group ← defaultGroup d.group subject
  pure
    { blockModel, blockState, itemModel, blockItem, lootTable
      companion := d.companion
      group }

end Modforge
