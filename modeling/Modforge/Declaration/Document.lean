import Modforge.Declaration.Forms
import Modforge.Form.OfText
import Modforge.Report.Failure
import Modforge.Settings
import Modforge.Toml.Reading
import Modforge.Yaml.Reading

/-! # Declarations and settings from texts and files -/

namespace Modforge

inductive Format where
  | yaml
  | toml
  | json
  deriving DecidableEq, Repr

def Format.ofExtension? : String → Option Format
  | "yml" => some .yaml
  | "yaml" => some .yaml
  | "toml" => some .toml
  | "json" => some .json
  | _ => none

def Form.ofDocument {α : Type} (form : Form α) (format : Format) (text : String) :
    Except Failure α :=
  match format with
  | .yaml => (form.ofYaml? text).elim (.error .yaml) .ok
  | .toml => (form.ofToml? text).elim (.error .toml) .ok
  | .json => (form.parse text).mapError .json

def readFile (tree : FileTree) (path : String) : Except Failure String :=
  (tree.read path).mapError .file

namespace Declarations

def load (tree : FileTree) (path : String) : Except Failure Declarations := do
  let text ← readFile tree path
  match (Path.extension? path).bind Format.ofExtension? with
  | some format => declarationsForm.ofDocument format text
  | none => .error (.settings ("Unsupported declaration format: " ++ path))

end Declarations

namespace Settings

/-- Reads settings and checks what their form does not say. -/
def ofDocument (format : Format) (text : String) : Except Failure Settings := do
  let settings ← settingsForm.ofDocument format text
  match settings.check with
  | .ok () => pure settings
  | .error flaw => .error (.settings flaw.message)

/-- Settings are not kept as JSON. -/
def load (tree : FileTree) (path : String) : Except Failure Settings := do
  let text ← readFile tree path
  match (Path.extension? path).bind Format.ofExtension? with
  | some .yaml => ofDocument .yaml text
  | some .toml => ofDocument .toml text
  | _ => .error (.settings ("Unsupported configuration format: " ++ path))

end Settings

end Modforge
