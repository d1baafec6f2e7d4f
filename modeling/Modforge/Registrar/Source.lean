import Modforge.Declaration.Container
import Modforge.Layout.Render
import Modforge.Report.Failure
import Modforge.Template.Bundled

/-! # Registrars: the classes generated for containers -/

namespace Modforge

structure Registrar where
  layout : Layout
  suffix : String

structure RegistrarSource where
  package : String
  typeName : String
  contents : String
  deriving DecidableEq, Repr

namespace Registrar

def ofLayout (text suffix : String) : Except Failure Registrar :=
  match Layout.parse text with
  | .ok layout => .ok ⟨layout, suffix⟩
  | .error flaw => .error (.layout flaw)

/-- The layout in the file if one is given, and the bundled one otherwise. -/
def load (tree : FileTree) (file : Option String) (suffix : String) : Except Failure Registrar :=
  match file with
  | none => ofLayout Bundled.registrarLayout suffix
  | some path =>
    match tree.read path with
    | .ok text => ofLayout text suffix
    | .error fault =>
      .error (.settings ("Cannot read registrar template " ++ path ++ ": " ++ fault.message))

def typeName (r : Registrar) (c : Container) : String := c.simpleName ++ r.suffix

def values (r : Registrar) (c : Container) (statements : List String) : List (String × Json) :=
  [("package", .text c.package),
    ("owner", .text c.owner),
    ("namespace", .text c.space),
    ("registrar_name", .text (r.typeName c)),
    ("statements", .list (statements.map .text))]

def render (r : Registrar) (c : Container) (statements : List String) :
    Except Layout.Flaw RegistrarSource :=
  (r.layout.render (r.values c statements)).map fun contents =>
    ⟨c.package, r.typeName c, contents⟩

end Registrar

end Modforge
