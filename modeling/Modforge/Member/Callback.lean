import Modforge.Member.Check

/-! # Callbacks -/

namespace Modforge

structure Callbacks where
  blockRegistry : Option String
  itemRegistry : Option String
  postRegister : Option String
  deriving DecidableEq, Repr

namespace Callbacks

def none : Callbacks := ⟨Option.none, Option.none, Option.none⟩

def get (callbacks : Callbacks) : Role → Option String
  | .blockRegistry => callbacks.blockRegistry
  | .itemRegistry => callbacks.itemRegistry
  | .postRegister => callbacks.postRegister

def set (callbacks : Callbacks) (role : Role) (method : String) : Callbacks :=
  match role with
  | .blockRegistry => { callbacks with blockRegistry := some method }
  | .itemRegistry => { callbacks with itemRegistry := some method }
  | .postRegister => { callbacks with postRegister := some method }

@[simp] theorem get_none (role : Role) : none.get role = Option.none := by
  cases role <;> rfl

@[simp] theorem get_set (callbacks : Callbacks) (role other : Role) (method : String) :
    (callbacks.set role method).get other =
      if other = role then some method else callbacks.get other := by
  cases role <;> cases other <;> rfl

/-- Reports a further method in a role, and with the second one the first too. -/
def duplicate (c : Container) (role : Role) (first method : String) (known : Bool) :
    List Diagnostic :=
  (if known then []
    else [.structural (c.methodSubject first)
      ("duplicate " ++ role.describe ++ " callback, also declared by " ++ method ++ "()")]) ++
  [.structural (c.methodSubject method)
    ("duplicate " ++ role.describe ++ " callback, already declared by " ++ first ++ "()")]

/-- Takes one role of a method into account. The roles known to be duplicated are kept too. -/
def add (c : Container) (state : Callbacks × List Role) (declared : Method × Role) :
    Reported (Callbacks × List Role) := do
  let (callbacks, duplicated) := state
  let (method, role) := declared
  if ← method.check role (c.methodSubject method.name) then
    match callbacks.get role with
    | Option.none => pure (callbacks.set role method.name, duplicated)
    | some first =>
      let reports := duplicate c role first method.name (duplicated.contains role)
      ⟨(callbacks, role :: duplicated), reports⟩
  else pure state

def declared (c : Container) : List (Method × Role) :=
  c.methods.flatMap fun method => method.roles.map fun role => (method, role)

def find (c : Container) : Reported Callbacks := do
  let (callbacks, _) ← (declared c).foldlM (add c) (none, [])
  pure callbacks

end Callbacks

structure Members where
  blocks : List (Marked BlockSettings)
  items : List (Marked ItemSettings)
  callbacks : Callbacks
  deriving DecidableEq, Repr

def Container.members (c : Container) : Reported Members := do
  let marked ← Reported.forEach c.fields fun field => do
    let subject := c.fieldSubject field.name
    let block ← field.marked field.block .block "register_block" subject
    let item ← field.marked field.item .item "register_item" subject
    pure (block, item)
  let callbacks ← Callbacks.find c
  pure ⟨marked.filterMap Prod.fst, marked.filterMap Prod.snd, callbacks⟩

end Modforge
