/-! # Diagnostics: problems that do not end a run -/

namespace Modforge

inductive Severity where
  | warning
  | error
  deriving DecidableEq, Repr

def Severity.name : Severity → String
  | .warning => "warning"
  | .error => "error"

inductive Concern where
  /-- What was declared cannot be used: an unknown name, a missing value, a bad id. -/
  | configuration
  | io
  /-- A member is not declared as its role demands. -/
  | structural
  deriving DecidableEq, Repr

def Concern.name : Concern → String
  | .configuration => "configuration"
  | .io => "io"
  | .structural => "structural"

structure Diagnostic where
  severity : Severity
  concern : Concern
  subject : Option String
  message : String
  deriving DecidableEq, Repr

namespace Diagnostic

def text (d : Diagnostic) : String :=
  let head := d.severity.name ++ " [" ++ d.concern.name ++ "] "
  match d.subject with
  | some subject => head ++ subject ++ ": " ++ d.message
  | none => head ++ d.message

def isError (d : Diagnostic) : Bool := d.severity == .error

def configuration (subject message : String) : Diagnostic :=
  ⟨.error, .configuration, some subject, message⟩

def structural (subject message : String) : Diagnostic :=
  ⟨.error, .structural, some subject, message⟩

def io (subject message : String) : Diagnostic := ⟨.error, .io, some subject, message⟩

def caution (subject message : String) : Diagnostic :=
  ⟨.warning, .configuration, some subject, message⟩

def hasErrors (ds : List Diagnostic) : Bool := ds.any isError

def errorCount (ds : List Diagnostic) : Nat := (ds.filter isError).length

def about (subject : String) (ds : List Diagnostic) : List Diagnostic :=
  ds.filter (·.subject == some subject)

end Diagnostic

/-- A value, and what was reported while it was found. -/
structure Reported (α : Type) where
  value : α
  reports : List Diagnostic
  deriving DecidableEq, Repr

namespace Reported

instance : Monad Reported where
  pure value := ⟨value, []⟩
  bind first second :=
    let next := second first.value
    ⟨next.value, first.reports ++ next.reports⟩

def report (d : Diagnostic) : Reported Unit := ⟨(), [d]⟩

def check {ε : Type} (outcome : Except ε Unit) (diagnostic : ε → Diagnostic) : Reported Bool :=
  match outcome with
  | .ok () => ⟨true, []⟩
  | .error fault => ⟨false, [diagnostic fault]⟩

def require (holds : Bool) (otherwise : Diagnostic) : Reported Bool :=
  ⟨holds, if holds then [] else [otherwise]⟩

/-- Whether all checks passed. All of them report. -/
def all (checks : List (Reported Bool)) : Reported Bool :=
  ⟨checks.all (·.value), checks.flatMap (·.reports)⟩

def forEach {α β : Type} (items : List α) (step : α → Reported β) : Reported (List β) :=
  let steps := items.map step
  ⟨steps.map (·.value), steps.flatMap (·.reports)⟩

@[simp] theorem value_pure {α : Type} (a : α) : (pure a : Reported α).value = a := rfl

@[simp] theorem reports_pure {α : Type} (a : α) : (pure a : Reported α).reports = [] := rfl

@[simp] theorem value_bind {α β : Type} (first : Reported α) (second : α → Reported β) :
    (first >>= second).value = (second first.value).value := rfl

@[simp] theorem reports_bind {α β : Type} (first : Reported α) (second : α → Reported β) :
    (first >>= second).reports = first.reports ++ (second first.value).reports := rfl

end Reported

end Modforge
