import Modforge.Entity.Duplicate
import Modforge.Output.Sink
import Modforge.Registrar.Source
import Modforge.Registrar.Statement
import Modforge.Resource
import Modforge.Template.Loader

/-! # The plan for a container: what is reported and what is to be stored -/

namespace Modforge

inductive Step where
  | report (diagnostic : Diagnostic)
  /-- Stores a text, and reports about the subject if it is refused. -/
  | store (request : Request) (subject : String)
  deriving DecidableEq, Repr

/-- The steps for a container, and how much it counts for. -/
structure Plan where
  containers : Nat
  blocks : Nat
  items : Nat
  steps : List Step
  deriving DecidableEq, Repr

/-- Settings that were found good, with the registrar they ask for. -/
structure Generator where
  settings : Settings
  registrar : Registrar

namespace Generator

def make (tree : FileTree) (settings : Settings) : Except Failure Generator :=
  match settings.check with
  | .error flaw => .error (.settings flaw.message)
  | .ok () =>
    (Registrar.load tree settings.layoutFile settings.suffix).map fun registrar =>
      { settings, registrar }

def templateRoot (g : Generator) : String := g.settings.templateRoot.getD Template.defaultRoot

/-! ## Templates -/

/-- What is said of a template that takes the place of another. -/
def replacement (source : TemplateSource) (previous : Template) : String :=
  source.kind.name ++ " template '" ++ source.name ++
    (if previous.isBuiltin then "' replaces the built-in"
      else "' is declared more than once; the last one wins")

/-- Adds a template of the container to its store, if its file can be read. -/
def addTemplate (g : Generator) (tree : FileTree) (c : Container) (store : TemplateStore)
    (source : TemplateSource) : Reported TemplateStore :=
  match Template.load tree g.templateRoot source.name source.kind source.file c.space with
  | .error fault =>
    ⟨store, [.io c.owner
      ("cannot read " ++ source.kind.name ++ " template '" ++ source.name ++ "' from " ++
        Template.fileUnder g.templateRoot source.file ++ ": " ++ fault.message)]⟩
  | .ok template =>
    let (previous, store) := store.exchange template
    ⟨store, (previous.map fun previous => .caution c.owner (replacement source previous)).toList⟩

/-- The bundled templates, and over them those of the container. -/
def store (g : Generator) (tree : FileTree) (c : Container) : Reported TemplateStore :=
  c.templates.foldlM (g.addTemplate tree c) (.withBundled c.space)

/-! ## Entities -/

structure Resolved where
  callbacks : Callbacks
  blocks : List BlockEntity
  items : List ItemEntity

def resolve (g : Generator) (tree : FileTree) (c : Container) : Reported Resolved := do
  let store ← g.store tree c
  let defaults ← c.defaults.resolve store c.owner
  let members ← c.members
  let blocks ← Reported.forEach members.blocks fun block =>
    BlockEntity.resolve c.space block defaults store (c.fieldSubject block.field)
  let items ← Reported.forEach members.items fun item =>
    ItemEntity.resolve item defaults store (c.fieldSubject item.field)
  let resolved : Resolved :=
    ⟨members.callbacks, blocks.filterMap id, items.filterMap id⟩
  ⟨resolved, duplicateReports c resolved.blocks resolved.items⟩

/-! ## Steps -/

def resourceSteps (g : Generator) (c : Container) (id subject : String)
    (resource : Category × Chosen) : List Step :=
  let rendered :=
    Artifact.render c.space g.settings.checksJson id resource.1 resource.2 subject
  rendered.reports.map .report ++
    (rendered.value.map fun a => .store (.resource a.package a.fileName a.contents) subject).toList

def blockSteps (g : Generator) (c : Container) (b : BlockEntity) : List Step :=
  b.resources.flatMap (g.resourceSteps c b.id (c.fieldSubject b.field))

def itemSteps (g : Generator) (c : Container) (i : ItemEntity) : List Step :=
  i.resources.flatMap (g.resourceSteps c i.id (c.fieldSubject i.field))

/-- A container without statements has no registrar. -/
def registrarSteps (g : Generator) (c : Container) (statements : List String) : List Step :=
  if statements = [] then []
  else match g.registrar.render c statements with
    | .ok source => [.store (.source source.package source.typeName source.contents) c.owner]
    | .error flaw =>
      [.report (.configuration c.owner
        ("cannot render registrar: " ++ (Failure.layout flaw).message))]

def statements (g : Generator) (c : Container) (r : Resolved) : List String :=
  StatementContext.all ⟨c, r.callbacks, g.settings.types⟩ r.blocks r.items

/-- A container whose names are bad is left out. -/
def nameReport? (c : Container) : Option Diagnostic :=
  match Naming.checkNamespace c.space with
  | .error flaw => some (.configuration c.owner flaw.message)
  | .ok () =>
    match Naming.checkQualified c.owner with
    | .error flaw => some (.structural c.owner flaw.message)
    | .ok () => none

def plan (g : Generator) (tree : FileTree) (c : Container) : Plan :=
  match nameReport? c with
  | some diagnostic => ⟨0, 0, 0, [.report diagnostic]⟩
  | none =>
    let resolved := g.resolve tree c
    let r := resolved.value
    { containers := 1
      blocks := r.blocks.length
      items := r.items.length
      steps := resolved.reports.map .report ++ r.blocks.flatMap (g.blockSteps c) ++
        r.items.flatMap (g.itemSteps c) ++ g.registrarSteps c (g.statements c r) }

end Generator

end Modforge
