import Modforge.Member.Callback
import Modforge.Proofs.Demand

/-! # Which methods are called -/

namespace Modforge

def Role.all : List Role := [.blockRegistry, .itemRegistry, .postRegister]

namespace Method

def meets (method : Method) (role : Role) : Demand → Bool
  | .name => Naming.isIdentifier method.name
  | .type => decide (method.params = role.params)
  | .static => method.isStatic
  | .access => decide (method.access ≠ .owner)

def fits (method : Method) (role : Role) : Bool := Demand.all.all (method.meets role)

def unmet (method : Method) (role : Role) : List Demand :=
  Demand.all.filter (!method.meets role ·)

def complaint (method : Method) (role : Role) : Demand → String
  | .name => Demand.nameComplaint method.name
  | .type =>
    role.describe ++ " callback must take (" ++
      Text.join ", " (role.params.map MemberType.toText) ++ "), found (" ++
      Text.join ", " (method.params.map MemberType.toText) ++ ")"
  | .static => role.describe ++ " callback must be static"
  | .access => role.describe ++ " callback must not be private"

end Method

/-- The methods declared in a role, in order. A method that names the role twice is there
twice. -/
def Container.declaredIn (c : Container) (role : Role) : List Method :=
  c.methods.flatMap fun method => List.replicate (method.roles.count role) method

namespace Role

variable (role : Role) (subject : String → String)

def fitting (methods : List Method) : List Method := methods.filter (·.fits role)

/-- One error for each demand that a method does not meet. -/
def complaints (methods : List Method) : List Diagnostic :=
  methods.flatMap fun method => (method.unmet role).map fun demand =>
    .structural (subject method.name) (method.complaint role demand)

/-- Of several methods that fit, the first is told of the second and all others of the first. -/
def duplicates : List Method → List Diagnostic
  | first :: second :: more =>
    .structural (subject first.name)
        ("duplicate " ++ role.describe ++ " callback, also declared by " ++ second.name ++ "()") ::
      (second :: more).map fun method => .structural (subject method.name)
        ("duplicate " ++ role.describe ++ " callback, already declared by " ++ first.name ++ "()")
  | _ => []

def reports (methods : List Method) : List Diagnostic :=
  role.complaints subject methods ++ role.duplicates subject (role.fitting methods)

end Role

end Modforge
