import Modforge.Entity.Defaults
import Modforge.Entity.Loot
import Modforge.Member.Check

/-!
# Blocks and items

An entity with everything it takes from its container filled in. An entity with a bad id is
dropped; a problem with one category leaves that category empty.
-/

namespace Modforge

def checkEntityId (id subject : String) : Reported Bool :=
  .check (Naming.checkId id) fun flaw => .configuration subject flaw.message

def chooseFor (category : Category) (choice : TemplateChoice) (args : List String)
    (below : CategoryDefault) (store : TemplateStore) (subject : String) :
    Reported (Option Chosen) := do
  let template ← choice.resolve below.template store category.kind subject
  pure (template.map fun template => ⟨template, argsOver args below.args⟩)

/-- A loot template with the arguments that its action demands. -/
def finishLoot (space subject : String) (settings : BlockSettings) (chosen : Chosen) :
    Reported (Option Chosen) := do
  let action := LootAction.ofTemplate chosen.template
  if action ≠ .custom ∧ settings.lootArgs ≠ [] then
    .report (.caution subject
      ("loot_args are ignored by the built-in '" ++ chosen.template.name ++ "' loot table"))
  match action.arguments space settings.id settings.lootData chosen.args with
  | .ok args => pure (some { chosen with args })
  | .error flaw => ⟨none, [.configuration subject flaw.message]⟩

def chooseGroup (choice : GroupChoice) (below : Option StaticField) (subject : String) :
    Reported (Option StaticField) :=
  match choice with
  | .field group => group.accepted "item group" subject
  | choice => pure (choice.resolve below)

structure BlockEntity where
  field : String
  id : String
  model : Option Chosen
  blockState : Option Chosen
  blockItem : Option Chosen
  loot : Option Chosen
  companion : Bool
  group : Option StaticField
  deriving DecidableEq, Repr

namespace BlockEntity

def fill (space : String) (block : Marked BlockSettings) (below : ResolvedDefaults)
    (store : TemplateStore) (subject : String) : Reported BlockEntity := do
  let s := block.settings
  let model ← chooseFor .blockModel s.model s.modelArgs below.blockModel store subject
  let blockState ←
    chooseFor .blockState s.blockState s.blockStateArgs below.blockState store subject
  let blockItem ← chooseFor .blockItem s.blockItem s.blockItemArgs below.blockItem store subject
  let table ← chooseFor .lootTable s.loot s.lootArgs below.lootTable store subject
  let loot ← match table with
    | none => pure none
    | some chosen => finishLoot space subject s chosen
  let group ← chooseGroup s.group below.group subject
  pure
    { field := block.field, id := s.id
      model, blockState, blockItem, loot
      companion := s.companion.above below.companion
      group }

def resolve (space : String) (block : Marked BlockSettings) (below : ResolvedDefaults)
    (store : TemplateStore) (subject : String) : Reported (Option BlockEntity) := do
  if ← checkEntityId block.settings.id subject then
    some <$> fill space block below store subject
  else pure none

/-- What is generated for the block. The item model comes with the companion only. -/
def resources (b : BlockEntity) : List (Category × Chosen) :=
  [(Category.blockModel, b.model),
    (.blockState, b.blockState),
    (.blockItem, if b.companion then b.blockItem else none),
    (.lootTable, b.loot)].filterMap fun (category, chosen) =>
      chosen.map fun chosen => (category, chosen)

end BlockEntity

structure ItemEntity where
  field : String
  id : String
  model : Option Chosen
  deriving DecidableEq, Repr

namespace ItemEntity

def resolve (item : Marked ItemSettings) (below : ResolvedDefaults) (store : TemplateStore)
    (subject : String) : Reported (Option ItemEntity) := do
  let s := item.settings
  if ← checkEntityId s.id subject then
    let model ← chooseFor .itemModel s.model s.modelArgs below.itemModel store subject
    pure (some { field := item.field, id := s.id, model })
  else pure none

def resources (i : ItemEntity) : List (Category × Chosen) :=
  (i.model.map fun chosen => (Category.itemModel, chosen)).toList

end ItemEntity

end Modforge
