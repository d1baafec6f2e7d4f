import Modforge.Declaration.Choice
import Modforge.Report.Diagnostic
import Modforge.Template.Store

/-! # Layers: settings of an entity over those of its container -/

namespace Modforge

/-- The upper layer of a setting. -/
inductive Layer (α : Type) where
  | inherit
  | absent
  | value (value : α)
  deriving DecidableEq, Repr

namespace Layer

/-- The setting, over that of the layer below. -/
def above {α β : Type} (layer : Layer α) (below : Option β) (find : α → Option β) : Option β :=
  match layer with
  | .inherit => below
  | .absent => none
  | .value own => find own

end Layer

def TemplateChoice.layer : TemplateChoice → Layer String
  | .inherit => .inherit
  | .none => .absent
  | .named name => .value name

def GroupChoice.layer : GroupChoice → Layer StaticField
  | .inherit => .inherit
  | .void => .absent
  | .field group => .value group

def unknownTemplate (store : TemplateStore) (kind : TemplateKind) (name subject : String) :
    Diagnostic :=
  let known := Text.join ", " (store.names kind)
  .configuration subject
    ("unknown " ++ kind.name ++ " template '" ++ name ++ "' (known: " ++
      (if known = "" then "none" else known) ++ ")")

/-- The template that is chosen. An unknown name is reported and chooses none. -/
def TemplateChoice.resolve (choice : TemplateChoice) (below : Option Template)
    (store : TemplateStore) (kind : TemplateKind) (subject : String) :
    Reported (Option Template) :=
  { value := choice.layer.above below (store.lookup kind)
    reports := match choice with
      | .named name =>
        if store.contains kind name then [] else [unknownTemplate store kind name subject]
      | _ => [] }

/-- Arguments are taken as a whole, never one by one. -/
def argsOver (own below : List String) : List String := if own = [] then below else own

def GroupChoice.resolve (choice : GroupChoice) (below : Option StaticField) :
    Option StaticField :=
  choice.layer.above below some

end Modforge
