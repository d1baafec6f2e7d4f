import Modforge.Declaration.Container
import Modforge.Form.Basic

/-! # The forms of declarations -/

namespace Modforge

def templateChoiceForm : Form TemplateChoice := .mapped .text .ofText TemplateChoice.toText

def textsForm : Form (List String) :=
  .loose (fun value => (textsOf value).mapError Unfit.message)
    fun texts => .list (texts.map .text)

def companionForm : Form CompanionChoice :=
  .loose (fun value => (CompanionChoice.ofLoose value).mapError Unfit.message) fun
    | .on => .flag true
    | .off => .flag false
    | .unset => .text "unset"

def staticFieldForm : Form StaticField :=
  .record "FieldRef"
    (.cons "owner" none .text StaticField.owner <|
      .cons "field" none .text StaticField.field .nil)
    fun (owner, field, _) => ⟨owner, field⟩

def groupForm : Form GroupChoice :=
  .loose (fun value => (GroupChoice.ofLoose value).mapError Unfit.message) fun
    | .inherit => .text inheritMarker
    | .void => .null
    | .field group => staticFieldForm.write group

def memberTypeForm : Form MemberType := .mapped .text .ofText MemberType.toText

def accessForm : Form Access :=
  .word [("public", .anyone), ("protected", .heirs), ("package", .neighbours),
    ("private", .owner)] Access.name

def roleForm : Form Role :=
  .word [("block_registry", .blockRegistry), ("item_registry", .itemRegistry),
    ("post_register", .postRegister)] Role.name

def templateKindForm : Form TemplateKind :=
  .word [("item", .item), ("block", .block), ("block_state", .blockState), ("loot", .loot)]
    TemplateKind.name

def blockSettingsForm : Form BlockSettings :=
  .record "BlockAnnotation"
    (.cons "id" none .text BlockSettings.id <|
      .cons "model" (some .inherit) templateChoiceForm BlockSettings.model <|
      .cons "model_args" (some []) textsForm BlockSettings.modelArgs <|
      .cons "block_state" (some .inherit) templateChoiceForm BlockSettings.blockState <|
      .cons "block_state_args" (some []) textsForm BlockSettings.blockStateArgs <|
      .cons "block_item" (some .inherit) templateChoiceForm BlockSettings.blockItem <|
      .cons "block_item_args" (some []) textsForm BlockSettings.blockItemArgs <|
      .cons "loot" (some .inherit) templateChoiceForm BlockSettings.loot <|
      .cons "loot_args" (some []) textsForm BlockSettings.lootArgs <|
      .cons "loot_data" (some "") .text BlockSettings.lootData <|
      .cons "auto_block_item" (some .unset) companionForm BlockSettings.companion <|
      .cons "item_group" (some .inherit) groupForm BlockSettings.group .nil)
    fun (id, model, modelArgs, blockState, blockStateArgs, blockItem, blockItemArgs, loot,
        lootArgs, lootData, companion, group, _) =>
      { id, model, modelArgs, blockState, blockStateArgs, blockItem, blockItemArgs, loot,
        lootArgs, lootData, companion, group }

def itemSettingsForm : Form ItemSettings :=
  .record "ItemAnnotation"
    (.cons "id" none .text ItemSettings.id <|
      .cons "model" (some .inherit) templateChoiceForm ItemSettings.model <|
      .cons "model_args" (some []) textsForm ItemSettings.modelArgs .nil)
    fun (id, model, modelArgs, _) => { id, model, modelArgs }

def fieldForm : Form Field :=
  .record "FieldDecl"
    (.cons "name" none .text Field.name <|
      .cons "type" none memberTypeForm Field.type <|
      .cons "static" (some true) .flag Field.isStatic <|
      .cons "visibility" (some .anyone) accessForm Field.access <|
      .cons "register_block" (some none) (.optional blockSettingsForm) Field.block <|
      .cons "register_item" (some none) (.optional itemSettingsForm) Field.item .nil)
    fun (name, type, isStatic, access, block, item, _) =>
      { name, type, isStatic, access, block, item }

def methodForm : Form Method :=
  .record "MethodDecl"
    (.cons "name" none .text Method.name <|
      .cons "params" (some []) (.many memberTypeForm) Method.params <|
      .cons "static" (some true) .flag Method.isStatic <|
      .cons "visibility" (some .anyone) accessForm Method.access <|
      .cons "callbacks" (some []) (.many roleForm) Method.roles .nil)
    fun (name, params, isStatic, access, roles, _) => { name, params, isStatic, access, roles }

def templateSourceForm : Form TemplateSource :=
  .record "TemplateDecl"
    (.cons "name" none .text TemplateSource.name <|
      .cons "file" none .text TemplateSource.file <|
      .cons "kind" none templateKindForm TemplateSource.kind .nil)
    fun (name, file, kind, _) => { name, file, kind }

def defaultsForm : Form Defaults :=
  .record "ContainerDefaultsDecl"
    (.cons "block" (some .none) templateChoiceForm Defaults.block <|
      .cons "block_args" (some []) textsForm Defaults.blockArgs <|
      .cons "block_state" (some .none) templateChoiceForm Defaults.blockState <|
      .cons "block_state_args" (some []) textsForm Defaults.blockStateArgs <|
      .cons "item" (some .none) templateChoiceForm Defaults.item <|
      .cons "item_args" (some []) textsForm Defaults.itemArgs <|
      .cons "loot" (some .none) templateChoiceForm Defaults.loot <|
      .cons "loot_args" (some []) textsForm Defaults.lootArgs <|
      .cons "auto_block_item" (some false) .flag Defaults.companion <|
      .cons "block_item" (some .none) templateChoiceForm Defaults.blockItem <|
      .cons "block_item_args" (some []) textsForm Defaults.blockItemArgs <|
      .cons "item_group" (some .void) groupForm Defaults.group .nil)
    fun (block, blockArgs, blockState, blockStateArgs, item, itemArgs, loot, lootArgs,
        companion, blockItem, blockItemArgs, group, _) =>
      { block, blockArgs, blockState, blockStateArgs, item, itemArgs, loot, lootArgs, companion,
        blockItem, blockItemArgs, group }

def containerForm : Form Container :=
  .record "ContainerDecl"
    (.cons "owner" none .text Container.owner <|
      .cons "namespace" none .text Container.space <|
      .cons "defaults" (some .none) defaultsForm Container.defaults <|
      .cons "templates" (some []) (.many templateSourceForm) Container.templates <|
      .cons "fields" (some []) (.many fieldForm) Container.fields <|
      .cons "methods" (some []) (.many methodForm) Container.methods .nil)
    fun (owner, space, defaults, templates, fields, methods, _) =>
      { owner, space, defaults, templates, fields, methods }

def declarationsForm : Form Declarations :=
  .record "DeclarationSet"
    (.cons "containers" (some []) (.many containerForm) Declarations.containers .nil)
    fun (containers, _) => { containers }

end Modforge
