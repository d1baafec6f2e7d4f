import Modforge.Generation.Run
import Modforge.Proofs.Candidate.Spec

/-! # Inlined defaults -/

namespace Modforge

def TemplateChoice.inlined (own default : TemplateChoice) : TemplateChoice :=
  match own with
  | .inherit => default
  | own => own

def CompanionChoice.inlined (own : CompanionChoice) (default : Bool) : CompanionChoice :=
  match own with
  | .unset => .ofFlag default
  | own => own

def GroupChoice.inlined (own default : GroupChoice) : GroupChoice :=
  match own with
  | .inherit => default
  | own => own

def BlockSettings.inlined (s : BlockSettings) (d : Defaults) : BlockSettings :=
  { s with
    model := s.model.inlined d.block
    modelArgs := chosenArgs s.modelArgs d.blockArgs
    blockState := s.blockState.inlined d.blockState
    blockStateArgs := chosenArgs s.blockStateArgs d.blockStateArgs
    blockItem := s.blockItem.inlined d.blockItem
    blockItemArgs := chosenArgs s.blockItemArgs d.blockItemArgs
    loot := s.loot.inlined d.loot
    lootArgs := chosenArgs s.lootArgs d.lootArgs
    companion := s.companion.inlined d.companion
    group := s.group.inlined d.group }

def ItemSettings.inlined (s : ItemSettings) (d : Defaults) : ItemSettings :=
  { s with
    model := s.model.inlined d.item
    modelArgs := chosenArgs s.modelArgs d.itemArgs }

def Field.inlined (field : Field) (d : Defaults) : Field :=
  { field with
    block := field.block.map (·.inlined d)
    item := field.item.map (·.inlined d) }

/-- The container with its defaults written out at every block and item. -/
def Container.inlined (c : Container) : Container :=
  { c with fields := c.fields.map (·.inlined c.defaults) }

end Modforge
