import Modforge.Member.Callback
import Modforge.Proofs.Candidate.Spec
import Modforge.Settings

/-!
# What a container registers

What a container enters into the registries of the game, read off its declaration alone, with the
statement for each entry and the resources that belong to it. `Entries.lean` shows that the
statements of a registrar are these, and `Run.lean` that every resource belongs to one.
-/

namespace Modforge

/-! ## Registries -/

/-- Blocks and items are registered apart. -/
inductive Registry where
  | block
  | item
  deriving DecidableEq, Repr

namespace Registry

def name : Registry → String
  | .block => "block"
  | .item => "item"

def constant : Registry → String
  | .block => "BLOCK"
  | .item => "ITEM"

def role : Registry → Role
  | .block => .blockRegistry
  | .item => .itemRegistry

/-- Where the resources lie of what is registered here. -/
def packages (space : String) : Registry → List String
  | .block =>
    ["assets." ++ space ++ ".models.block", "assets." ++ space ++ ".blockstates",
      "data." ++ space ++ ".loot_tables.blocks"]
  | .item => ["assets." ++ space ++ ".models.item"]

end Registry

/-! ## Entries -/

inductive Enrolment where
  | block (id field : String)
  /-- The item that stands for the block in a field, in a group or in none. -/
  | companion (id field : String) (group : Option StaticField)
  | item (id field : String)
  deriving DecidableEq, Repr

namespace Enrolment

def registry : Enrolment → Registry
  | .block .. => .block
  | .companion .. | .item .. => .item

def id : Enrolment → String
  | .block id _ | .companion id _ _ | .item id _ => id

def field : Enrolment → String
  | .block _ field | .companion _ field _ | .item _ field => field

/-- The keys of the resources that belong to the entry. -/
def keys (space : String) (e : Enrolment) : List (String × String) :=
  (e.registry.packages space).map (·, e.id ++ ".json")

/-- What is registered: the field, or for a companion a new item. -/
def value (types : GameTypes) (owner : String) : Enrolment → String
  | .block _ field | .item _ field => owner ++ "." ++ field
  | .companion _ field none =>
    "new " ++ types.blockItem ++ "(" ++ owner ++ "." ++ field ++ ", new " ++ types.item ++
      ".Settings())"
  | .companion _ field (some group) =>
    "new " ++ types.blockItem ++ "(" ++ owner ++ "." ++ field ++ ", new " ++ types.item ++
      ".Settings().group(" ++ group.owner ++ "." ++ group.field ++ "))"

/-- The statement that makes the entry: a call of the method that was accepted in the role of the
registry, and of the registry of the game if there is none. -/
def statement (types : GameTypes) (c : Container) (callbacks : Callbacks) (e : Enrolment) :
    String :=
  let key := "new " ++ types.identifier ++ "(\"" ++ c.space ++ "\", \"" ++ e.id ++ "\")"
  match callbacks.get e.registry.role with
  | some method => c.owner ++ "." ++ method ++ "(" ++ key ++ ", " ++ e.value types c.owner ++ ")"
  | none =>
    types.registry ++ ".register(" ++ types.registry ++ "." ++ e.registry.constant ++ ", " ++
      key ++ ", " ++ e.value types c.owner ++ ")"

end Enrolment

/-! ## Containers -/

def StaticField.isGood (f : StaticField) : Bool :=
  (Text.split '.' f.owner).all Naming.isIdentifier && Naming.isIdentifier f.field

/-- The group of a companion: its own or, if it inherits, that of its container. A bad reference
is none. -/
def groupFor (own default : GroupChoice) : Option StaticField :=
  let chosen := match own with
    | .inherit => default
    | own => own
  match chosen with
  | .field group => if group.isGood then some group else none
  | _ => none

namespace Container

variable (c : Container)

def blockEnrolments (field : String) (s : BlockSettings) : List Enrolment :=
  .block s.id field ::
    if s.companion = .on ∨ (s.companion = .unset ∧ c.defaults.companion = true) then
      [.companion s.id field (groupFor s.group c.defaults.group)]
    else []

/-- The blocks in the order of their fields, each with its companion, and then the items. A bad
field or id has none. -/
def enrolments : List Enrolment :=
  let isGood (id : String) : Bool := Naming.isWordOf Naming.isIdChar id
  ((c.fields.filter (·.fits .block)).flatMap fun field =>
    (field.block.toList.filter (isGood ·.id)).flatMap (c.blockEnrolments field.name)) ++
  (c.fields.filter (·.fits .item)).flatMap fun field =>
    (field.item.toList.filter (isGood ·.id)).flatMap fun s => [.item s.id field.name]

def idsIn (registry : Registry) : List String :=
  (c.enrolments.filter (·.registry = registry)).map (·.id)

def lastCall (callbacks : Callbacks) : List String :=
  (callbacks.postRegister.map fun method => c.owner ++ "." ++ method ++ "()").toList

end Container

end Modforge
