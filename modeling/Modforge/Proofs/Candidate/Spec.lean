import Modforge.Generation.Plan
import Modforge.Output.Memory

/-!
# What a container asks for

The resources of a container, read off its declaration alone: no store, no resolved defaults and
no entities. `Memory.lean` shows that a run stores exactly these.
-/

namespace Modforge

/-- The templates that a container can name: the bundled ones, then those of its own whose files
can be read. -/
def Container.templatesIn (c : Container) (g : Generator) (tree : FileTree) : List Template :=
  Bundled.templates c.space ++ c.templates.filterMap fun source =>
    (Template.load tree g.templateRoot source.name source.kind source.file c.space).toOption

/-- Of several templates of one kind and name the last counts. -/
def templateNamed (templates : List Template) (kind : TemplateKind) (name : String) :
    Option Template :=
  templates.reverse.find? fun template => template.kind == kind && template.name == name

/-- An entity that inherits gets the template of its container, which cannot inherit in turn. -/
def chosenTemplate (named : String → Option Template) : TemplateChoice → TemplateChoice →
    Option Template
  | .named name, _ => named name
  | .none, _ => none
  | .inherit, .named name => named name
  | .inherit, .none => none
  | .inherit, .inherit => none

def chosenArgs (own default : List String) : List String :=
  match own with
  | [] => default
  | arg :: more => arg :: more

/-- What a loot template is given. The bundled ones are given the dropped item, and one that is
not told which asks for nothing. -/
def lootArgs (space : String) (s : BlockSettings) (default : List String) (template : Template) :
    Option (List String) :=
  if template.origin ≠ .builtin then some (chosenArgs s.lootArgs default)
  else if template.name = "drop_self" ∨ template.name = "drop_self_silk" then
    some [space ++ ":" ++ s.id]
  else if template.name = "drop_other" then
    if s.lootData = "" then none else some [s.lootData]
  else some (chosenArgs s.lootArgs default)

/-- The key and the text of one category, if it has a template that can be rendered. -/
def candidate? (space id : String) (category : Category) (template : Option Template)
    (args : Template → Option (List String)) : Option ((String × String) × String) := do
  let template ← template
  let args ← args template
  let text ← (template.render id args).toOption
  pure ((category.package space, id ++ ".json"), text)

def Field.fits (field : Field) (type : MemberType) : Bool :=
  Naming.isIdentifier field.name && decide (field.type = type) && field.isStatic &&
    decide (field.access ≠ .owner)

section

variable (g : Generator) (tree : FileTree) (c : Container)

def templateFor (category : Category) (own default : TemplateChoice) : Option Template :=
  chosenTemplate (templateNamed (c.templatesIn g tree) category.kind) own default

/-- Model, state, item model if there is a companion, and loot table, in this order. -/
def blockCandidates (s : BlockSettings) : Shelf :=
  let d := c.defaults
  let hasCompanion := s.companion = .on ∨ (s.companion = .unset ∧ d.companion = true)
  [candidate? c.space s.id .blockModel (templateFor g tree c .blockModel s.model d.block)
      fun _ => some (chosenArgs s.modelArgs d.blockArgs),
    candidate? c.space s.id .blockState
      (templateFor g tree c .blockState s.blockState d.blockState)
      fun _ => some (chosenArgs s.blockStateArgs d.blockStateArgs),
    if hasCompanion then
      candidate? c.space s.id .blockItem (templateFor g tree c .blockItem s.blockItem d.blockItem)
        fun _ => some (chosenArgs s.blockItemArgs d.blockItemArgs)
    else none,
    candidate? c.space s.id .lootTable (templateFor g tree c .lootTable s.loot d.loot)
      (lootArgs c.space s d.lootArgs)].flatMap Option.toList

def itemCandidates (s : ItemSettings) : Shelf :=
  (candidate? c.space s.id .itemModel (templateFor g tree c .itemModel s.model c.defaults.item)
    fun _ => some (chosenArgs s.modelArgs c.defaults.itemArgs)).toList

/-- The blocks in the order of their fields, then the items. A bad field or id has none. -/
def candidates : Shelf :=
  let isGood (id : String) : Bool := Naming.isWordOf Naming.isIdChar id
  let blocks := (c.fields.filter (·.fits .block)).filterMap Field.block
  let items := (c.fields.filter (·.fits .item)).filterMap Field.item
  (blocks.filter (isGood ·.id)).flatMap (blockCandidates g tree c) ++
    (items.filter (isGood ·.id)).flatMap (itemCandidates g tree c)

end

end Modforge
