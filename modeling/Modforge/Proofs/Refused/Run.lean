import Modforge.Proofs.Candidate.Calls
import Modforge.Proofs.Inlined.Run
import Modforge.Proofs.Refused.Spec
import Modforge.Proofs.Steady

/-! # Refusals change nothing else -/

namespace Modforge

variable {σ : Type}

/-! ## Steps -/

def answers (sink : Sink σ) : List Step → σ → List (Except String Unit)
  | [], _ => []
  | .report _ :: rest, state => answers sink rest state
  | .store request _ :: rest, state =>
    (sink.store request state).1 :: answers sink rest (sink.store request state).2

theorem length_answers (sink : Sink σ) (steps : List Step) (state : σ) :
    (answers sink steps state).length = (requests steps).length := by
  induction steps generalizing state with
  | nil => rfl
  | cons step rest ih =>
    cases step with
    | report d => exact ih state
    | store request subject => exact congrArg (· + 1) (ih _)

theorem carryOut_store (sink : Sink σ) (request : Request) (subject : String) (rest : List Step)
    (state : σ) :
    carryOut sink (.store request subject :: rest) state =
      let (answer, next) := sink.store request state
      let (more, last) := carryOut sink rest next
      ((match answer with
        | .ok () => Report.ofStored request
        | .error reason => .ofDiagnostic (request.refusal subject reason)) ++ more, last) := by
  cases h : sink.store request state with
  | mk answer next => cases answer <;> simp only [carryOut, Step.carryOut, h]

theorem carryOut_traced (sink : Sink σ) (steps : List Step) (state : σ) (trace : Trace) :
    carryOut sink.traced steps (state, trace) =
      ((carryOut sink steps state).1, (carryOut sink steps state).2,
        trace ++ (requests steps).zip (answers sink steps state)) := by
  induction steps generalizing state trace with
  | nil => simp [carryOut, requests, answers]
  | cons step rest ih =>
    cases step with
    | report d =>
      simp only [carryOut, Step.carryOut, ih]
      rfl
    | store request subject =>
      simp only [carryOut_store, Sink.traced, answers]
      have hzip : (requests (.store request subject :: rest)).zip
          ((sink.store request state).1 :: answers sink rest (sink.store request state).2) =
          (request, (sink.store request state).1) ::
            (requests rest).zip (answers sink rest (sink.store request state).2) := rfl
      have hrest := ih (sink.store request state).2
        (trace ++ [(request, (sink.store request state).1)])
      simp only [Sink.traced] at hrest
      rw [hrest, hzip, List.append_assoc, List.singleton_append]

theorem counts_answers (sink : Sink σ) (steps : List Step) (state : σ) :
    (carryOut sink steps state).1.resources =
        Trace.resources ((requests steps).zip (answers sink steps state)) ∧
      (carryOut sink steps state).1.sources =
        Trace.sources ((requests steps).zip (answers sink steps state)) := by
  induction steps generalizing state with
  | nil => exact ⟨rfl, rfl⟩
  | cons step rest ih =>
    cases step with
    | report d =>
      obtain ⟨hresources, hsources⟩ := ih state
      simp only [carryOut, Step.carryOut, Report.append_def, Report.ofDiagnostic, Report.empty,
        Nat.zero_add]
      exact ⟨hresources, hsources⟩
    | store request subject =>
      obtain ⟨hresources, hsources⟩ := ih (sink.store request state).2
      have hzip : (requests (.store request subject :: rest)).zip
          (answers sink (.store request subject :: rest) state) =
          (request, (sink.store request state).1) ::
            (requests rest).zip (answers sink rest (sink.store request state).2) := rfl
      rw [hzip, carryOut_store]
      simp only [Report.append_def, hresources, hsources, Trace.resources, Trace.sources]
      cases (sink.store request state).1 <;> cases request <;>
        simp [Except.isOk, Except.toBool, Request.isResource, Report.ofStored,
          Report.ofDiagnostic, Report.empty, Nat.add_comm]

/-- Each refusal adds its fault where it happens, and nothing else is added or lost. -/
theorem interleaved_carryOut (sink : Sink σ) (steps : List Step) (state : σ) :
    Interleaved (Report.ofSteps steps).diagnostics
      (faults (stores steps) (answers sink steps state))
      (carryOut sink steps state).1.diagnostics := by
  induction steps generalizing state with
  | nil => exact .nil
  | cons step rest ih =>
    cases step with
    | report d => exact .left (ih state)
    | store request subject =>
      have hrest := ih (sink.store request state).2
      have hsame : (Report.ofSteps (.store request subject :: rest)).diagnostics =
          (Report.ofSteps rest).diagnostics := by
        cases request <;> rfl
      rw [hsame, carryOut_store]
      simp only [Report.append_def]
      cases hanswer : (sink.store request state).1 with
      | ok taken =>
        have hfaults : faults (stores (.store request subject :: rest))
            (answers sink (.store request subject :: rest) state) =
            faults (stores rest) (answers sink rest (sink.store request state).2) := by
          simp [faults, answers, hanswer, fault?]
        have hnone : (Report.ofStored request).diagnostics = [] := by
          cases request <;> rfl
        rw [hfaults]
        simpa only [hnone, List.nil_append] using hrest
      | error reason =>
        have hfaults : faults (stores (.store request subject :: rest))
            (answers sink (.store request subject :: rest) state) =
            request.refusal subject reason ::
              faults (stores rest) (answers sink rest (sink.store request state).2) := by
          simp [faults, answers, hanswer, fault?, Request.refusal, Diagnostic.io]
        rw [hfaults]
        exact .right hrest

/-! ## Runs -/

theorem stores_steps (g : Generator) (tree : FileTree) (cs : List Container) :
    stores (g.steps tree cs) = cs.flatMap (calls g tree) := by
  unfold Generator.steps
  rw [stores_flatMap]
  simp only [stores_plan]

theorem requests_steps (g : Generator) (tree : FileTree) (cs : List Container) :
    requests (g.steps tree cs) = (cs.flatMap (calls g tree)).map Prod.fst := by
  rw [requests_eq_map_stores, stores_steps]

/-- A memory without room for `ore.json`. -/
def fullMemory : Sink Memory := (Memory.sink oreFiles).refusing (·.name == "ore.json") "full"

end Modforge
