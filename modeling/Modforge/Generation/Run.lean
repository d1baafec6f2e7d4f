import Modforge.Generation.Plan
import Modforge.Template.Catalog

/-!
# Runs

A run carries out the plan of one container after another on a sink. A refusal is reported and
the run goes on.
-/

namespace Modforge

structure Report where
  containers : Nat
  blocks : Nat
  items : Nat
  resources : Nat
  sources : Nat
  diagnostics : List Diagnostic
  deriving DecidableEq, Repr

namespace Report

def empty : Report := ⟨0, 0, 0, 0, 0, []⟩

def append (a b : Report) : Report :=
  { containers := a.containers + b.containers
    blocks := a.blocks + b.blocks
    items := a.items + b.items
    resources := a.resources + b.resources
    sources := a.sources + b.sources
    diagnostics := a.diagnostics ++ b.diagnostics }

instance : Append Report := ⟨append⟩

def isSuccess (report : Report) : Bool := !Diagnostic.hasErrors report.diagnostics

def ofDiagnostic (diagnostic : Diagnostic) : Report :=
  { empty with diagnostics := [diagnostic] }

def ofStored (request : Request) : Report :=
  if request.isResource then { empty with resources := 1 } else { empty with sources := 1 }

end Report

def Request.refusal (request : Request) (subject reason : String) : Diagnostic :=
  .io subject <| match request with
    | .resource package name _ => "cannot write " ++ package ++ "/" ++ name ++ ": " ++ reason
    | .source _ name _ => "cannot write registrar " ++ name ++ ": " ++ reason

variable {σ : Type}

def Step.carryOut (sink : Sink σ) (step : Step) (state : σ) : Report × σ :=
  match step with
  | .report diagnostic => (.ofDiagnostic diagnostic, state)
  | .store request subject =>
    match sink.store request state with
    | (.ok (), state) => (.ofStored request, state)
    | (.error reason, state) => (.ofDiagnostic (request.refusal subject reason), state)

def carryOut (sink : Sink σ) : List Step → σ → Report × σ
  | [], state => (.empty, state)
  | step :: rest, state =>
    let (first, state) := step.carryOut sink state
    let (more, state) := carryOut sink rest state
    (first ++ more, state)

namespace Generator

/-- Generates one container. Its plan is made from the files as they are now. -/
def generateOne (g : Generator) (sink : Sink σ) (c : Container) (state : σ) : Report × σ :=
  let plan := g.plan (sink.files state) c
  let (outcome, state) := carryOut sink plan.steps state
  ({ outcome with containers := plan.containers, blocks := plan.blocks, items := plan.items },
    state)

def generate (g : Generator) (sink : Sink σ) : List Container → σ → Report × σ
  | [], state => (.empty, state)
  | c :: rest, state =>
    let (first, state) := g.generateOne sink c state
    let (more, state) := g.generate sink rest state
    (first ++ more, state)

/-- A run that ends where the bundled templates of a container cannot be read. -/
def run (g : Generator) (sink : Sink σ) : List Container → σ → Except Failure (Report × σ)
  | [], state => .ok (.empty, state)
  | c :: rest, state => do
    if nameReport? c = none then
      let _ ← Bundled.load c.space
    let (first, state) := g.generateOne sink c state
    let (more, state) ← g.run sink rest state
    pure (first ++ more, state)

/-- The bundled templates can always be read, so every run comes to its end. -/
theorem run_eq_ok (g : Generator) (sink : Sink σ) (cs : List Container) (state : σ) :
    g.run sink cs state = .ok (g.generate sink cs state) := by
  induction cs generalizing state with
  | nil => rfl
  | cons c rest ih =>
    simp only [run, generate, ih, Bundled.load_eq_ok]
    split <;> rfl

end Generator

end Modforge
