import Modforge.Entity.Basic
import Modforge.Member.Callback
import Modforge.Settings

/-! # Statements of a registrar -/

namespace Modforge

structure StatementContext where
  container : Container
  callbacks : Callbacks
  types : GameTypes

namespace StatementContext

def identifier (s : StatementContext) (id : String) : String :=
  "new " ++ s.types.identifier ++ "(\"" ++ s.container.space ++ "\", \"" ++ id ++ "\")"

def member (s : StatementContext) (name : String) : String :=
  s.container.owner ++ "." ++ name

/-- A registration by the callback if there is one, and by the registry of the game otherwise. -/
def register (s : StatementContext) (callback : Option String) (registry id value : String) :
    String :=
  match callback with
  | some method => s.member method ++ "(" ++ s.identifier id ++ ", " ++ value ++ ")"
  | none =>
    s.types.registry ++ ".register(" ++ s.types.registry ++ "." ++ registry ++ ", " ++
      s.identifier id ++ ", " ++ value ++ ")"

def companion (s : StatementContext) (b : BlockEntity) : String :=
  let settings := "new " ++ s.types.item ++ ".Settings()" ++
    (match b.group with
      | some group => ".group(" ++ group.shown ++ ")"
      | none => "")
  "new " ++ s.types.blockItem ++ "(" ++ s.member b.field ++ ", " ++ settings ++ ")"

def ofBlock (s : StatementContext) (b : BlockEntity) : List String :=
  s.register s.callbacks.blockRegistry "BLOCK" b.id (s.member b.field) ::
    if b.companion then [s.register s.callbacks.itemRegistry "ITEM" b.id (s.companion b)] else []

def ofItem (s : StatementContext) (i : ItemEntity) : String :=
  s.register s.callbacks.itemRegistry "ITEM" i.id (s.member i.field)

def all (s : StatementContext) (blocks : List BlockEntity) (items : List ItemEntity) :
    List String :=
  blocks.flatMap s.ofBlock ++ items.map s.ofItem ++
    (s.callbacks.postRegister.map fun method => s.member method ++ "()").toList

end StatementContext

end Modforge
