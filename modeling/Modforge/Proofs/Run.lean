import Modforge.Generation.Run
import Modforge.Output.Memory

/-! # What reaches a sink -/

namespace Modforge

/-! ## Reports -/

namespace Report

theorem append_def (a b : Report) :
    a ++ b = ⟨a.containers + b.containers, a.blocks + b.blocks, a.items + b.items,
      a.resources + b.resources, a.sources + b.sources, a.diagnostics ++ b.diagnostics⟩ := rfl

@[simp] theorem empty_append (a : Report) : empty ++ a = a := by
  cases a
  simp [append_def, empty]

@[simp] theorem append_empty (a : Report) : a ++ empty = a := by
  cases a
  simp [append_def, empty]

theorem append_assoc (a b c : Report) : a ++ b ++ c = a ++ (b ++ c) := by
  simp [append_def, Nat.add_assoc]

end Report

/-! ## Steps -/

def Step.request? : Step → Option Request
  | .report _ => none
  | .store request _ => some request

def requests (steps : List Step) : List Request := steps.filterMap Step.request?

variable {σ : Type}

theorem carryOut_append (sink : Sink σ) (first second : List Step) (state : σ) :
    carryOut sink (first ++ second) state =
      ((carryOut sink first state).1 ++ (carryOut sink second (carryOut sink first state).2).1,
        (carryOut sink second (carryOut sink first state).2).2) := by
  induction first generalizing state with
  | nil => simp [carryOut]
  | cons step rest ih => simp [carryOut, ih, Report.append_assoc]

theorem carryOut_reports (sink : Sink σ) (ds : List Diagnostic) (state : σ) :
    carryOut sink (ds.map .report) state = ({ Report.empty with diagnostics := ds }, state) := by
  induction ds with
  | nil => rfl
  | cons d rest ih => simp [carryOut, Step.carryOut, ih, Report.ofDiagnostic, Report.append_def,
      Report.empty]

theorem generate_singleton (g : Generator) (sink : Sink σ) (c : Container) (state : σ) :
    g.generate sink [c] state = g.generateOne sink c state := by
  simp [Generator.generate]

/-! ## Logs -/

/-- The sink with a log of all requests, taken or refused, in order. -/
def Sink.logged (sink : Sink σ) : Sink (σ × List Request) :=
  { store := fun request (state, log) =>
      let (outcome, state) := sink.store request state
      (outcome, (state, log ++ [request]))
    files := fun (state, _) => sink.files state }

theorem requests_cons (step : Step) (rest : List Step) :
    requests (step :: rest) = step.request?.toList ++ requests rest := by
  cases step <;> rfl

theorem Step.carryOut_logged (sink : Sink σ) (step : Step) (state : σ) (log : List Request) :
    step.carryOut sink.logged (state, log) =
      ((step.carryOut sink state).1, (step.carryOut sink state).2,
        log ++ step.request?.toList) := by
  cases step with
  | report d => simp [Step.carryOut, Step.request?]
  | store request subject =>
    obtain ⟨store, files⟩ := sink
    simp only [Step.carryOut, Sink.logged, Step.request?]
    rcases store request state with ⟨_ | _, next⟩ <;> rfl

theorem carryOut_logged (sink : Sink σ) (steps : List Step) (state : σ) (log : List Request) :
    carryOut sink.logged steps (state, log) =
      ((carryOut sink steps state).1, (carryOut sink steps state).2, log ++ requests steps) := by
  induction steps generalizing state log with
  | nil => simp [carryOut, requests]
  | cons step rest ih =>
    simp only [carryOut, Step.carryOut_logged, ih, requests_cons, List.append_assoc]

theorem log_generateOne (g : Generator) (sink : Sink σ) (c : Container) (state : σ) :
    (g.generateOne sink.logged c (state, [])).2.2 =
      requests (g.plan (sink.files state) c).steps := by
  simp only [Generator.generateOne, carryOut_logged, List.nil_append]
  rfl

/-! ## Memory -/

/-- The text that a request puts among the resources, under its key. -/
def Request.resource? : Request → Option ((String × String) × String)
  | .resource package name contents => some ((package, name), contents)
  | .source .. => none

def resources (steps : List Step) : Shelf := (requests steps).filterMap Request.resource?

@[simp] theorem resources_report (d : Diagnostic) (rest : List Step) :
    resources (.report d :: rest) = resources rest := rfl

@[simp] theorem resources_store (request : Request) (subject : String) (rest : List Step) :
    resources (.store request subject :: rest) =
      request.resource?.toList ++ resources rest := by
  cases request <;> rfl

theorem resources_append (first second : List Step) :
    resources (first ++ second) = resources first ++ resources second := by
  simp [resources, requests]

theorem resources_reports (ds : List Diagnostic) : resources (ds.map .report) = [] := by
  simp [resources, requests, List.filterMap_map, Function.comp_def, Step.request?]

theorem resources_flatMap {α : Type} (steps : α → List Step) (items : List α) :
    resources (items.flatMap steps) = items.flatMap fun item => resources (steps item) := by
  induction items with
  | nil => rfl
  | cons item rest ih => simp [List.flatMap_cons, resources_append, ih]

/-- The text of a request under its key: whether it is a resource, the package and the name. -/
def Request.entry : Request → (Bool × String × String) × String
  | .resource package name contents => ((true, package, name), contents)
  | .source package name contents => ((false, package, name), contents)

def Memory.text? (memory : Memory) : Bool × String × String → Option String
  | (true, package, name) => memory.resources.get? package name
  | (false, package, name) => memory.sources.get? package name

theorem text?_put_self (memory : Memory) (request : Request) :
    (memory.put request).text? request.entry.1 = some request.entry.2 := by
  cases request <;> exact Shelf.get?_put_self _ _ _ _

theorem text?_put_of_ne (memory : Memory) {request : Request} {key : Bool × String × String}
    (h : key ≠ request.entry.1) : (memory.put request).text? key = memory.text? key := by
  obtain ⟨isResource, package, name⟩ := key
  cases request <;> cases isResource <;> try rfl
  all_goals
    refine Shelf.get?_put_of_ne _ (fun he => h ?_) _
    exact congrArg (Prod.mk _) he

/-- The invariant of a run into memory: under each key stands the last text that was stored
there, or else what stood there before. -/
theorem text?_carryOut (tree : FileTree) (steps : List Step) (memory : Memory)
    (key : Bool × String × String) :
    (carryOut (Memory.sink tree) steps memory).2.text? key =
      (((requests steps).map Request.entry).reverse.lookup key).or (memory.text? key) := by
  induction steps generalizing memory with
  | nil => simp [carryOut, requests]
  | cons step rest ih =>
    cases step with
    | report d => exact ih memory
    | store request subject =>
      have hone : ([request.entry].lookup key).or (memory.text? key) =
          (memory.put request).text? key := by
        rw [← Prod.eta request.entry, List.lookup_cons]
        by_cases h : key = request.entry.1
        · simp [h, text?_put_self]
        · simp [beq_false_of_ne h, text?_put_of_ne memory h]
      have hrequests : requests (.store request subject :: rest) = request :: requests rest := rfl
      rw [hrequests, List.map_cons, List.reverse_cons, List.lookup_append, Option.or_assoc, hone]
      exact ih (memory.put request)

theorem lookup_resources (all : List Request) (package name : String) :
    (all.filterMap Request.resource?).lookup (package, name) =
      (all.map Request.entry).lookup (true, package, name) := by
  induction all with
  | nil => rfl
  | cons request rest ih =>
    cases request with
    | resource package' name' contents =>
      have hkey : ((true, package, name) == (true, package', name')) =
          ((package, name) == (package', name')) := by
        simp [BEq.beq]
      simp only [List.filterMap_cons, Request.resource?, List.map_cons, Request.entry,
        List.lookup_cons, hkey, ih]
    | source package' name' contents => exact ih

theorem get?_carryOut (tree : FileTree) (steps : List Step) (memory : Memory)
    (package name : String) :
    (carryOut (Memory.sink tree) steps memory).2.resources.get? package name =
      ((resources steps).reverse.lookup (package, name)).or
        (memory.resources.get? package name) := by
  rw [resources, ← List.filterMap_reverse, lookup_resources, List.map_reverse]
  exact text?_carryOut tree steps memory (true, package, name)

theorem resources_carryOut (tree : FileTree) (steps : List Step) (memory : Memory) :
    (carryOut (Memory.sink tree) steps memory).1.resources = (resources steps).length := by
  induction steps generalizing memory with
  | nil => rfl
  | cons step rest ih =>
    cases step with
    | report d =>
      rw [resources_report, ← ih memory]
      simp [carryOut, Step.carryOut, Report.append_def, Report.ofDiagnostic, Report.empty]
    | store request subject =>
      rw [resources_store, List.length_append, ← ih (memory.put request)]
      cases request <;> rfl

end Modforge
