import Modforge.Declaration.Container
import Modforge.Report.Diagnostic

/-! # Members that can be used -/

namespace Modforge

structure Marked (α : Type) where
  field : String
  settings : α
  deriving DecidableEq, Repr

def Field.check (field : Field) (type : MemberType) (mark subject : String) : Reported Bool :=
  .all [
    .check (Naming.checkIdentifier field.name) fun flaw => .structural subject flaw.message,
    .require (field.type = type) (.structural subject
      ("@" ++ mark ++ " requires a field of type " ++ type.toText ++ ", found " ++
        field.type.toText)),
    .require field.isStatic (.structural subject ("@" ++ mark ++ " field must be static")),
    .require (field.access ≠ .owner)
      (.structural subject ("@" ++ mark ++ " field must not be private"))]

def Method.check (method : Method) (role : Role) (subject : String) : Reported Bool :=
  let listed (types : List MemberType) := Text.join ", " (types.map MemberType.toText)
  .all [
    .check (Naming.checkIdentifier method.name) fun flaw => .structural subject flaw.message,
    .require (method.params = role.params) (.structural subject
      (role.describe ++ " callback must take (" ++ listed role.params ++ "), found (" ++
        listed method.params ++ ")")),
    .require method.isStatic (.structural subject (role.describe ++ " callback must be static")),
    .require (method.access ≠ .owner)
      (.structural subject (role.describe ++ " callback must not be private"))]

/-- The settings of a mark, if the field has it and may have it. -/
def Field.marked {α : Type} (field : Field) (settings : Option α) (type : MemberType)
    (mark subject : String) : Reported (Option (Marked α)) :=
  match settings with
  | none => pure none
  | some settings => do
    let valid ← field.check type mark subject
    pure (if valid then some ⟨field.name, settings⟩ else none)

end Modforge
