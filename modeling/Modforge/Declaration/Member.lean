import Modforge.Declaration.Choice

/-! # Members of a container -/

namespace Modforge

inductive MemberType where
  | block
  | item
  | identifier
  | other (name : String)
  deriving DecidableEq, Repr

namespace MemberType

/-- The three known types go by their names in any case. -/
def ofText (text : String) : MemberType :=
  let lower := Text.toLower text
  if lower = "block" then .block
  else if lower = "item" then .item
  else if lower = "identifier" then .identifier
  else .other text

def toText : MemberType → String
  | .block => "block"
  | .item => "item"
  | .identifier => "identifier"
  | .other name => name

end MemberType

inductive Access where
  | anyone
  | heirs
  | neighbours
  | owner
  deriving DecidableEq, Repr

def Access.name : Access → String
  | .anyone => "public"
  | .heirs => "protected"
  | .neighbours => "package"
  | .owner => "private"

/-- What a method may be called for. -/
inductive Role where
  /-- For every block, in place of the registry of the game. -/
  | blockRegistry
  | itemRegistry
  /-- Once, after everything is registered. -/
  | postRegister
  deriving DecidableEq, Repr

namespace Role

def name : Role → String
  | .blockRegistry => "block_registry"
  | .itemRegistry => "item_registry"
  | .postRegister => "post_register"

def describe : Role → String
  | .blockRegistry => "block registry"
  | .itemRegistry => "item registry"
  | .postRegister => "post-register"

def params : Role → List MemberType
  | .blockRegistry => [.identifier, .block]
  | .itemRegistry => [.identifier, .item]
  | .postRegister => []

end Role

structure BlockSettings where
  id : String
  model : TemplateChoice
  modelArgs : List String
  blockState : TemplateChoice
  blockStateArgs : List String
  blockItem : TemplateChoice
  blockItemArgs : List String
  loot : TemplateChoice
  lootArgs : List String
  lootData : String
  companion : CompanionChoice
  group : GroupChoice
  deriving DecidableEq, Repr

/-- A block that takes every setting from its container. -/
def BlockSettings.inheriting (id : String) : BlockSettings :=
  { id
    model := .inherit, modelArgs := []
    blockState := .inherit, blockStateArgs := []
    blockItem := .inherit, blockItemArgs := []
    loot := .inherit, lootArgs := [], lootData := ""
    companion := .unset
    group := .inherit }

structure ItemSettings where
  id : String
  model : TemplateChoice
  modelArgs : List String
  deriving DecidableEq, Repr

def ItemSettings.inheriting (id : String) : ItemSettings :=
  { id, model := .inherit, modelArgs := [] }

structure Field where
  name : String
  type : MemberType
  isStatic : Bool
  access : Access
  block : Option BlockSettings
  item : Option ItemSettings
  deriving DecidableEq, Repr

namespace Field

/-- A public static field that is not registered. -/
def plain (name : String) (type : MemberType) : Field :=
  { name, type, isStatic := true, access := .anyone, block := none, item := none }

def ofBlock (name : String) (settings : BlockSettings) : Field :=
  { plain name .block with block := some settings }

def ofItem (name : String) (settings : ItemSettings) : Field :=
  { plain name .item with item := some settings }

end Field

structure Method where
  name : String
  params : List MemberType
  isStatic : Bool
  access : Access
  roles : List Role
  deriving DecidableEq, Repr

def Method.ofRole (name : String) (role : Role) : Method :=
  { name, params := role.params, isStatic := true, access := .anyone, roles := [role] }

end Modforge
