import Modforge.Form.Basic

/-! # Settings of a generator -/

namespace Modforge

structure GameTypes where
  registry : String
  identifier : String
  item : String
  blockItem : String
  deriving DecidableEq, Repr

def GameTypes.default : GameTypes :=
  { registry := "net.minecraft.util.registry.Registry"
    identifier := "net.minecraft.util.Identifier"
    item := "net.minecraft.item.Item"
    blockItem := "net.minecraft.item.BlockItem" }

structure Settings where
  templateRoot : Option String
  resourceRoot : String
  sourceRoot : String
  /-- Follows the name of a container in the name of its registrar. -/
  suffix : String
  layoutFile : Option String
  checksJson : Bool
  types : GameTypes
  deriving DecidableEq, Repr

namespace Settings

def default : Settings :=
  { templateRoot := none
    resourceRoot := "generated/resources"
    sourceRoot := "generated/sources"
    suffix := "Registrar"
    layoutFile := none
    checksJson := true
    types := .default }

inductive Flaw where
  | emptySuffix
  | emptyType (key : String)
  deriving DecidableEq, Repr

def Flaw.message : Flaw → String
  | .emptySuffix => "registrar_suffix cannot be empty"
  | .emptyType key => key ++ " cannot be empty"

def check (s : Settings) : Except Flaw Unit :=
  if s.suffix = "" then .error .emptySuffix
  else if s.types.registry = "" then .error (.emptyType "types.registry")
  else if s.types.identifier = "" then .error (.emptyType "types.identifier")
  else if s.types.item = "" then .error (.emptyType "types.item")
  else if s.types.blockItem = "" then .error (.emptyType "types.block_item")
  else .ok ()

end Settings

def gameTypesForm : Form GameTypes :=
  let d := GameTypes.default
  .record "GameTypes"
    (.cons "registry" (some d.registry) .text GameTypes.registry <|
      .cons "identifier" (some d.identifier) .text GameTypes.identifier <|
      .cons "item" (some d.item) .text GameTypes.item <|
      .cons "block_item" (some d.blockItem) .text GameTypes.blockItem .nil)
    fun (registry, identifier, item, blockItem, _) => { registry, identifier, item, blockItem }

def settingsForm : Form Settings :=
  let d := Settings.default
  .record "Config"
    (.cons "template_dir" (some d.templateRoot) (.optional .path) Settings.templateRoot <|
      .cons "resource_dir" (some d.resourceRoot) .path Settings.resourceRoot <|
      .cons "source_dir" (some d.sourceRoot) .path Settings.sourceRoot <|
      .cons "registrar_suffix" (some d.suffix) .text Settings.suffix <|
      .cons "registrar_template" (some d.layoutFile) (.optional .path) Settings.layoutFile <|
      .cons "validate_json" (some d.checksJson) .flag Settings.checksJson <|
      .cons "types" (some d.types) gameTypesForm Settings.types .nil)
    fun (templateRoot, resourceRoot, sourceRoot, suffix, layoutFile, checksJson, types, _) =>
      { templateRoot, resourceRoot, sourceRoot, suffix, layoutFile, checksJson, types }

end Modforge
