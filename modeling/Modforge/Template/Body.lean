import Modforge.Template.Kind
import Modforge.Template.Slot

/-! # Templates: texts with places for names and arguments -/

namespace Modforge

inductive Origin where
  | builtin
  | file (path : String)
  deriving DecidableEq, Repr

structure Template where
  name : String
  kind : TemplateKind
  body : String
  origin : Origin
  deriving DecidableEq, Repr

structure MissingArgument where
  template : String
  index : Nat
  supplied : Nat
  deriving DecidableEq, Repr

def MissingArgument.message (missing : MissingArgument) : String :=
  "template '" ++ missing.template ++ "' needs argument " ++ toString missing.index ++
    " but only " ++ toString missing.supplied ++ " were supplied"

namespace Template

def namespaceMark : String := "$\x7bmodid\x7d"

def idMark : String := "$\x7bid\x7d"

def make (name : String) (kind : TemplateKind) (body space : String) (origin : Origin) :
    Template :=
  ⟨name, kind, Text.replace namespaceMark space body, origin⟩

def isBuiltin (template : Template) : Bool := template.origin == .builtin

def pieces (template : Template) (id : String) : List Piece :=
  Slot.scan (Text.replace idMark id template.body)

def render (template : Template) (id : String) (args : List String) :
    Except MissingArgument String :=
  match Slot.fill args 0 (template.pieces id) with
  | .ok text => .ok (String.ofList text)
  | .error index => .error ⟨template.name, index, args.length⟩

end Template

end Modforge
