import Modforge.Text.Letter

/-! # Kinds of template and categories of resource -/

namespace Modforge

inductive TemplateKind where
  | item
  | block
  | blockState
  | loot
  deriving DecidableEq, Repr

namespace TemplateKind

def all : List TemplateKind := [.item, .block, .blockState, .loot]

def name : TemplateKind → String
  | .item => "item"
  | .block => "block"
  | .blockState => "block_state"
  | .loot => "loot"

/-- The kind a person may mean, in any case and under its other names too. -/
def ofAlias? (text : String) : Option TemplateKind :=
  let lower := Text.toLower text
  if lower = "item" then some .item
  else if lower = "block" then some .block
  else if lower = "block_state" ∨ lower = "blockstate" then some .blockState
  else if lower = "loot" ∨ lower = "loot_table" then some .loot
  else none

end TemplateKind

inductive Category where
  | itemModel
  | blockModel
  | blockState
  | blockItem
  | lootTable
  deriving DecidableEq, Repr

namespace Category

def all : List Category := [.itemModel, .blockModel, .blockState, .blockItem, .lootTable]

def name : Category → String
  | .itemModel => "item_model"
  | .blockModel => "block_model"
  | .blockState => "block_state"
  | .blockItem => "block_item"
  | .lootTable => "loot_table"

def kind : Category → TemplateKind
  | .itemModel | .blockItem => .item
  | .blockModel => .block
  | .blockState => .blockState
  | .lootTable => .loot

def package (category : Category) (space : String) : String :=
  match category with
  | .itemModel | .blockItem => "assets." ++ space ++ ".models.item"
  | .blockModel => "assets." ++ space ++ ".models.block"
  | .blockState => "assets." ++ space ++ ".blockstates"
  | .lootTable => "data." ++ space ++ ".loot_tables.blocks"

end Category

end Modforge
