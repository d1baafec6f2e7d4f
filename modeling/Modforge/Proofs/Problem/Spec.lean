import Modforge.Proofs.Candidate.Spec

/-! # Problems of settings -/

namespace Modforge

inductive Problem where
  | badId (flaw : Naming.Flaw)
  | unknown (category : Category) (name : String)
  | badGroup (flaw : Naming.Flaw)
  /-- Nothing lies below a default that it could inherit. -/
  | baseless (category : Category)
  | baselessGroup
  | badDefaultGroup (flaw : Naming.Flaw)
  /-- A bundled loot template gets its argument from the block. -/
  | ignoredArgs (template : String)
  | noDrop
  deriving DecidableEq, Repr

namespace Problem

def severity : Problem → Severity
  | ignoredArgs _ => .warning
  | badId _ | unknown .. | badGroup _ | baseless _ | baselessGroup | badDefaultGroup _
  | noDrop => .error

def message (store : TemplateStore) : Problem → String
  | badId flaw => flaw.message
  | unknown category name =>
    "unknown " ++ category.kind.name ++ " template '" ++ name ++ "' (known: " ++
      (if Text.join ", " (store.names category.kind) = "" then "none"
        else Text.join ", " (store.names category.kind)) ++ ")"
  | badGroup flaw => "item group: " ++ flaw.message
  | baseless category => "default " ++ category.name ++ " template cannot inherit; using none"
  | baselessGroup => "default item group cannot inherit; using none"
  | badDefaultGroup flaw => "default item group: " ++ flaw.message
  | ignoredArgs template =>
    "loot_args are ignored by the built-in '" ++ template ++ "' loot table"
  | noDrop => "drop_other loot requires loot_data naming the dropped identifier"

def report (store : TemplateStore) (subject : String) (problem : Problem) : Diagnostic :=
  ⟨problem.severity, .configuration, some subject, problem.message store⟩

end Problem

/-! ## Settings of their own -/

def TemplateChoice.problem? (store : TemplateStore) (category : Category) :
    TemplateChoice → Option Problem
  | .named name =>
    if (store.lookup category.kind name).isNone then some (.unknown category name) else .none
  | .inherit | .none => .none

def GroupChoice.flaw? : GroupChoice → Option Naming.Flaw
  | .field group =>
    match group.check with
    | .ok () => none
    | .error flaw => some flaw
  | .inherit | .void => none

def BlockSettings.references (s : BlockSettings) : List (Category × TemplateChoice) :=
  [(.blockModel, s.model), (.blockState, s.blockState), (.blockItem, s.blockItem),
    (.lootTable, s.loot)]

/-- The bundled loot templates that stand for a behaviour. -/
def actionNames : List String := ["drop_self", "drop_self_silk", "drop_other"]

/-- What a block makes of its loot template, be it its own or that of the container. -/
def BlockSettings.lootProblems (s : BlockSettings) (template : Template) : List Problem :=
  (if template.origin = .builtin ∧ template.name ∈ actionNames ∧ s.lootArgs ≠ [] then
    [.ignoredArgs template.name] else []) ++
  if template.origin = .builtin ∧ template.name = "drop_other" ∧ s.lootData = "" then [.noDrop]
  else []

def BlockSettings.problems (s : BlockSettings) (d : Defaults) (store : TemplateStore) :
    List Problem :=
  match Naming.checkId s.id with
  | .error flaw => [.badId flaw]
  | .ok () =>
    (s.references.filterMap fun (category, choice) => choice.problem? store category) ++
      (chosenTemplate (store.lookup .loot) s.loot d.loot).toList.flatMap s.lootProblems ++
      (s.group.flaw?.map .badGroup).toList

def ItemSettings.problems (s : ItemSettings) (store : TemplateStore) : List Problem :=
  match Naming.checkId s.id with
  | .error flaw => [.badId flaw]
  | .ok () => (s.model.problem? store .itemModel).toList

/-! ## Defaults -/

def TemplateChoice.defaultProblem? (store : TemplateStore) (category : Category)
    (choice : TemplateChoice) : Option Problem :=
  if choice = .inherit then some (.baseless category) else choice.problem? store category

def GroupChoice.defaultProblem? (choice : GroupChoice) : Option Problem :=
  if choice = .inherit then some .baselessGroup else choice.flaw?.map .badDefaultGroup

def Defaults.references (d : Defaults) : List (Category × TemplateChoice) :=
  [(.blockModel, d.block), (.blockState, d.blockState), (.itemModel, d.item),
    (.blockItem, d.blockItem), (.lootTable, d.loot)]

def Defaults.problems (d : Defaults) (store : TemplateStore) : List Problem :=
  (d.references.filterMap fun (category, choice) => choice.defaultProblem? store category) ++
    d.group.defaultProblem?.toList

/-! ## Entities one after the other -/

inductive Entry where
  | block (mark : Marked BlockSettings) (subject : String)
  | item (mark : Marked ItemSettings) (subject : String)

namespace Entry

def subject : Entry → String
  | block _ subject | item _ subject => subject

def id : Entry → String
  | block mark _ => mark.settings.id
  | item mark _ => mark.settings.id

def problems (d : Defaults) (store : TemplateStore) : Entry → List Problem
  | block mark _ => mark.settings.problems d store
  | item mark _ => mark.settings.problems store

def resolve (space : String) (below : ResolvedDefaults) (store : TemplateStore) :
    Entry → Reported (Option (BlockEntity ⊕ ItemEntity))
  | block mark subject => do
    let entity ← BlockEntity.resolve space mark below store subject
    pure (entity.map .inl)
  | item mark subject => do
    let entity ← ItemEntity.resolve mark below store subject
    pure (entity.map .inr)

end Entry

/-- The defaults of a container are resolved, and over them one entity after the other. -/
def resolveAll (space owner : String) (d : Defaults) (store : TemplateStore)
    (entries : List Entry) : Reported (List (Option (BlockEntity ⊕ ItemEntity))) := do
  let below ← d.resolve store owner
  Reported.forEach entries (·.resolve space below store)

end Modforge
