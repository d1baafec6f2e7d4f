import Modforge.Entity.Basic
import Modforge.Json.Parse

/-! # Resources: the files generated for an entity -/

namespace Modforge

structure Artifact where
  category : Category
  package : String
  fileName : String
  contents : String
  deriving DecidableEq, Repr

namespace Artifact

def jsonReports (artifact : Artifact) (template subject : String) : List Diagnostic :=
  match Json.parse artifact.contents with
  | .ok _ => []
  | .error fault =>
    [.caution subject
      (artifact.category.name ++ " '" ++ artifact.fileName ++ "' from template '" ++ template ++
        "' is not valid JSON: " ++ fault.message)]

/-- Renders one category of an entity. What cannot be rendered is reported and left out; what
should be JSON and is not is kept with a warning. -/
def render (space : String) (checksJson : Bool) (id : String) (category : Category)
    (chosen : Chosen) (subject : String) : Reported (Option Artifact) :=
  match chosen.template.render id chosen.args with
  | .error missing =>
    ⟨none, [.configuration subject
      ("cannot render " ++ category.name ++ ": " ++ missing.message)]⟩
  | .ok contents =>
    let artifact : Artifact :=
      { category, package := category.package space, fileName := id ++ ".json", contents }
    ⟨some artifact, if checksJson then artifact.jsonReports chosen.template.name subject else []⟩

end Artifact

end Modforge
