import Modforge.Files.Tree
import Modforge.Json.Fault
import Modforge.Layout.Node

/-! # Failures: what ends an operation -/

namespace Modforge

inductive Failure where
  | file (fault : FileFault)
  | yaml
  | toml
  | json (fault : Json.Fault)
  | template (message : String)
  | layout (flaw : Layout.Flaw)
  | settings (message : String)
  deriving DecidableEq, Repr

namespace Failure

def message : Failure → String
  | .file fault => "I/O error: " ++ fault.message
  | .yaml => "YAML parsing error"
  | .toml => "TOML parsing error"
  | .json fault => "JSON parsing error: " ++ fault.message
  | .template message => "Template error: " ++ message
  | .layout flaw => "Template engine error: " ++ flaw.message
  | .settings message => "Configuration error: " ++ message

def misfit (fault : Json.Misfit) : Failure := .json ⟨.misfit fault, none⟩

def noBundled (path : String) : Failure :=
  .template ("Built-in template not found: " ++ path)

end Failure

end Modforge
