import Modforge.Declaration.Member
import Modforge.Naming.Qualified
import Modforge.Template.Kind

/-!
# Containers

A container is a type whose static fields are registered under one namespace, with the settings
its entities take from it.
-/

namespace Modforge

/-- A template of a container, and the file its text is in. -/
structure TemplateSource where
  name : String
  file : String
  kind : TemplateKind
  deriving DecidableEq, Repr

structure Defaults where
  block : TemplateChoice
  blockArgs : List String
  blockState : TemplateChoice
  blockStateArgs : List String
  item : TemplateChoice
  itemArgs : List String
  loot : TemplateChoice
  lootArgs : List String
  companion : Bool
  blockItem : TemplateChoice
  blockItemArgs : List String
  group : GroupChoice
  deriving DecidableEq, Repr

namespace Defaults

def none : Defaults :=
  { block := .none, blockArgs := []
    blockState := .none, blockStateArgs := []
    item := .none, itemArgs := []
    loot := .none, lootArgs := []
    companion := false
    blockItem := .none, blockItemArgs := []
    group := .void }

def bundled : Defaults :=
  { none with
    block := .named "basic"
    blockState := .named "basic"
    item := .named "basic"
    loot := .named "drop_self"
    companion := true
    blockItem := .named "block" }

end Defaults

structure Container where
  /-- The qualified name of the type. -/
  owner : String
  space : String
  defaults : Defaults
  templates : List TemplateSource
  fields : List Field
  methods : List Method
  deriving DecidableEq, Repr

namespace Container

def empty (owner space : String) : Container :=
  { owner, space, defaults := .none, templates := [], fields := [], methods := [] }

def withDefaults (c : Container) (defaults : Defaults) : Container := { c with defaults }

def addTemplate (c : Container) (template : TemplateSource) : Container :=
  { c with templates := c.templates ++ [template] }

def addField (c : Container) (field : Field) : Container :=
  { c with fields := c.fields ++ [field] }

def addMethod (c : Container) (method : Method) : Container :=
  { c with methods := c.methods ++ [method] }

def package (c : Container) : String := Naming.packageOf c.owner

def simpleName (c : Container) : String := Naming.simpleName c.owner

def fieldSubject (c : Container) (field : String) : String := c.owner ++ "." ++ field

def methodSubject (c : Container) (method : String) : String :=
  c.owner ++ "." ++ method ++ "()"

end Container

structure Declarations where
  containers : List Container
  deriving DecidableEq, Repr

end Modforge
