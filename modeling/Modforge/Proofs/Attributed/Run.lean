import Mathlib.Logic.Relation
import Modforge.Proofs.Attributed.Plan

/-!
# Diagnostics are attributed and only added

A run as a machine that takes up one container after the other and carries out one step after the
other. What a step records is about the container at work, and what was recorded stays.
-/

namespace Modforge

variable {σ : Type}

/-! ## Runs step by step -/

/-- Where a run stands. -/
structure Moment (σ : Type) where
  /-- The containers taken up so far, each with the files as they were then. The last one is at
  work. -/
  taken : List (Container × FileTree)
  steps : List Step
  ahead : List Container
  report : Report
  state : σ

def Plan.counts (plan : Plan) : Report :=
  { Report.empty with
    containers := plan.containers, blocks := plan.blocks, items := plan.items }

namespace Moment

def start (cs : List Container) (state : σ) : Moment σ := ⟨[], [], cs, .empty, state⟩

/-- The next step is carried out, or the next container is taken up. -/
def next? (g : Generator) (sink : Sink σ) (now : Moment σ) : Option (Moment σ) :=
  match now.steps, now.ahead with
  | step :: steps, _ =>
    let carried := step.carryOut sink now.state
    some { now with steps, report := now.report ++ carried.1, state := carried.2 }
  | [], c :: ahead =>
    let tree := sink.files now.state
    let plan := g.plan tree c
    some
      { now with
        taken := now.taken ++ [(c, tree)], steps := plan.steps, ahead
        report := now.report ++ plan.counts }
  | [], [] => none

def LeadsTo (g : Generator) (sink : Sink σ) : Moment σ → Moment σ → Prop :=
  Relation.ReflTransGen fun now next => now.next? g sink = some next

end Moment

/-- The error about a text that the step asks to store and the sink refuses. -/
def Refused (sink : Sink σ) (step : Step) (state : σ) (d : Diagnostic) : Prop :=
  ∃ request subject reason, step = .store request subject ∧
    (sink.store request state).1 = .error reason ∧ d = request.refusal subject reason

/-- What a step may record while a container is at work. -/
def Recorded (g : Generator) (sink : Sink σ) (work : Container × FileTree) (step : Step)
    (state : σ) : Diagnostic → Prop :=
  Attributed work.1 fun d => Unreadable g work.2 work.1 d ∨ Refused sink step state d

section

variable {g : Generator} {sink : Sink σ}

theorem Report.diagnostics_append (a b : Report) :
    (a ++ b).diagnostics = a.diagnostics ++ b.diagnostics := rfl

/-! ## What one step does -/

theorem recorded_carryOut {c : Container} {tree : FileTree} {step : Step}
    (h : step ∈ (g.plan tree c).steps) (sink : Sink σ) (state : σ) :
    (step.carryOut sink state).1.diagnostics = [] ∨
      ∃ d, (step.carryOut sink state).1.diagnostics = [d] ∧
        Recorded g sink (c, tree) step state d := by
  have hplanned := isPlanned_of_mem_plan h
  cases step with
  | report d => exact .inr ⟨d, rfl, hplanned.mono .inl⟩
  | store request subject =>
    rw [Step.carryOut]
    rcases hstore : sink.store request state with ⟨_ | reason, after⟩
    · exact .inr ⟨_, rfl, .ofIo hplanned (.inr ⟨request, subject, _, rfl, by rw [hstore], rfl⟩)⟩
    · refine .inl ?_
      simp only [Report.ofStored]
      split <;> rfl

theorem exists_of_mem_carryOut {steps : List Step} {state : σ} {d : Diagnostic}
    (h : d ∈ (carryOut sink steps state).1.diagnostics) :
    ∃ step ∈ steps, ∃ reached, d ∈ (step.carryOut sink reached).1.diagnostics := by
  induction steps generalizing state with
  | nil => cases h
  | cons step rest ih =>
    simp only [carryOut, Report.diagnostics_append, List.mem_append] at h
    rcases h with h | h
    · exact ⟨step, List.mem_cons_self, state, h⟩
    · obtain ⟨later, hlater, reached, hd⟩ := ih h
      exact ⟨later, List.mem_cons_of_mem _ hlater, reached, hd⟩

theorem recorded_generateOne {c : Container} {state : σ} {d : Diagnostic}
    (h : d ∈ (g.generateOne sink c state).1.diagnostics) :
    ∃ step ∈ (g.plan (sink.files state) c).steps, ∃ reached,
      Recorded g sink (c, sink.files state) step reached d := by
  obtain ⟨step, hstep, reached, hd⟩ := exists_of_mem_carryOut h
  rcases recorded_carryOut hstep sink reached with hnone | ⟨one, hone, hrecorded⟩
  · rw [hnone] at hd
    cases hd
  · rw [hone] at hd
    obtain rfl := List.mem_singleton.1 hd
    exact ⟨step, hstep, reached, hrecorded⟩

namespace Moment

variable {now after later : Moment σ} {cs : List Container}

theorem next_cases (h : now.next? g sink = some after) :
    (∃ step steps, now.steps = step :: steps ∧
      after = { now with
        steps
        report := now.report ++ (step.carryOut sink now.state).1
        state := (step.carryOut sink now.state).2 }) ∨
    ∃ c ahead, now.steps = [] ∧ now.ahead = c :: ahead ∧
      after = { now with
        taken := now.taken ++ [(c, sink.files now.state)]
        steps := (g.plan (sink.files now.state) c).steps
        ahead
        report := now.report ++ (g.plan (sink.files now.state) c).counts } := by
  unfold next? at h
  split at h
  · next step steps hsteps => exact .inl ⟨step, steps, hsteps, (Option.some.inj h).symm⟩
  · next c ahead hsteps hahead =>
    exact .inr ⟨c, ahead, hsteps, hahead, (Option.some.inj h).symm⟩
  · cases h

theorem extends_next (h : now.next? g sink = some after) :
    now.report.diagnostics <+: after.report.diagnostics ∧ now.taken <+: after.taken := by
  obtain ⟨step, steps, -, rfl⟩ | ⟨c, ahead, -, -, rfl⟩ := next_cases h
  · exact ⟨List.prefix_append _ _, List.prefix_rfl⟩
  · exact ⟨List.prefix_append _ _, List.prefix_append _ _⟩

theorem extends_leadsTo (h : now.LeadsTo g sink later) :
    now.report.diagnostics <+: later.report.diagnostics ∧ now.taken <+: later.taken := by
  induction h with
  | refl => exact ⟨List.prefix_rfl, List.prefix_rfl⟩
  | tail _ hnext ih =>
    obtain ⟨hreport, htaken⟩ := extends_next hnext
    exact ⟨ih.1.trans hreport, ih.2.trans htaken⟩

theorem isSuccess_of_error (h : now.LeadsTo g sink later)
    (herror : ∃ d ∈ now.report.diagnostics, d.severity = .error) :
    later.report.isSuccess = false := by
  obtain ⟨d, hd, hseverity⟩ := herror
  have hlater : later.report.diagnostics.any Diagnostic.isError = true :=
    List.any_eq_true.2 ⟨d, (extends_leadsTo h).1.subset hd, by simp [Diagnostic.isError, hseverity]⟩
  simp [Report.isSuccess, Diagnostic.hasErrors, hlater]

/-- The containers are taken up in order, and every step that is left comes from the plan of the one
at work. -/
structure Sound (g : Generator) (cs : List Container) (now : Moment σ) : Prop where
  order : now.taken.map Prod.fst ++ now.ahead = cs
  planned : ∀ step ∈ now.steps, ∃ work, now.taken.getLast? = some work ∧
    step ∈ (g.plan work.2 work.1).steps

theorem sound_start (cs : List Container) (state : σ) : (start cs state).Sound g cs :=
  ⟨rfl, nofun⟩

theorem Sound.step (h : now.Sound g cs) (hnext : now.next? g sink = some after) :
    after.Sound g cs := by
  obtain ⟨step, steps, hsteps, rfl⟩ | ⟨c, ahead, -, hahead, rfl⟩ := next_cases hnext
  · exact ⟨h.order, fun other hother => h.planned other (hsteps ▸ List.mem_cons_of_mem _ hother)⟩
  · refine ⟨?_, fun step hstep => ⟨_, List.getLast?_concat, hstep⟩⟩
    have horder := h.order
    rw [hahead] at horder
    simpa using horder

theorem Sound.leadsTo (h : now.Sound g cs) (hlater : now.LeadsTo g sink later) :
    later.Sound g cs := by
  induction hlater with
  | refl => exact h
  | tail _ hnext ih => exact ih.step hnext

theorem Sound.recorded (h : now.Sound g cs) (hnext : now.next? g sink = some after) :
    after.report.diagnostics = now.report.diagnostics ∨
      ∃ d work step, after.report.diagnostics = now.report.diagnostics ++ [d] ∧
        after.taken = now.taken ∧ now.taken.getLast? = some work ∧
        now.steps = step :: after.steps ∧ Recorded g sink work step now.state d := by
  obtain ⟨step, steps, hsteps, rfl⟩ | ⟨c, ahead, -, -, rfl⟩ := next_cases hnext
  · obtain ⟨work, hwork, hstep⟩ := h.planned step (hsteps ▸ List.mem_cons_self)
    rcases recorded_carryOut hstep sink now.state with hnone | ⟨d, hd, hrecorded⟩
    · refine .inl ?_
      rw [Report.diagnostics_append, hnone, List.append_nil]
    · refine .inr ⟨d, work, step, ?_, rfl, hwork, hsteps, hrecorded⟩
      rw [Report.diagnostics_append, hd]
  · exact .inl (List.append_nil _)

end Moment

/-! ## The machine comes to what a run comes to -/

theorem counts_carryOut (sink : Sink σ) (steps : List Step) (state : σ) :
    (carryOut sink steps state).1.containers = 0 ∧ (carryOut sink steps state).1.blocks = 0 ∧
      (carryOut sink steps state).1.items = 0 := by
  have hone (step : Step) (state : σ) : (step.carryOut sink state).1.containers = 0 ∧
      (step.carryOut sink state).1.blocks = 0 ∧ (step.carryOut sink state).1.items = 0 := by
    cases step with
    | report d => exact ⟨rfl, rfl, rfl⟩
    | store request subject =>
      rw [Step.carryOut]
      rcases sink.store request state with ⟨_ | reason, after⟩
      · exact ⟨rfl, rfl, rfl⟩
      · cases request <;> exact ⟨rfl, rfl, rfl⟩
  induction steps generalizing state with
  | nil => exact ⟨rfl, rfl, rfl⟩
  | cons step rest ih =>
    obtain ⟨hcontainers, hblocks, hitems⟩ := hone step state
    obtain ⟨hcontainers', hblocks', hitems'⟩ := ih (step.carryOut sink state).2
    simp only [carryOut, Report.append_def]
    exact ⟨by rw [hcontainers, hcontainers'], by rw [hblocks, hblocks'], by rw [hitems, hitems']⟩

theorem generateOne_eq (g : Generator) (sink : Sink σ) (c : Container) (state : σ) :
    g.generateOne sink c state =
      let plan := g.plan (sink.files state) c
      (plan.counts ++ (carryOut sink plan.steps state).1, (carryOut sink plan.steps state).2) := by
  obtain ⟨hcontainers, hblocks, hitems⟩ :=
    counts_carryOut sink (g.plan (sink.files state) c).steps state
  simp only [Generator.generateOne, Plan.counts, Report.append_def, Report.empty, hcontainers,
    hblocks, hitems, Nat.add_zero, Nat.zero_add, List.nil_append]

section

variable (g sink)

theorem Moment.leadsTo_carryOut (taken : List (Container × FileTree)) (steps : List Step)
    (ahead : List Container) (report : Report) (state : σ) :
    Moment.LeadsTo g sink ⟨taken, steps, ahead, report, state⟩
      ⟨taken, [], ahead, report ++ (carryOut sink steps state).1,
        (carryOut sink steps state).2⟩ := by
  induction steps generalizing report state with
  | nil =>
    simp only [carryOut, Report.append_empty]
    exact .refl
  | cons step rest ih =>
    have hrest := ih (report ++ (step.carryOut sink state).1) (step.carryOut sink state).2
    rw [Report.append_assoc] at hrest
    exact .head rfl hrest

theorem Moment.leadsTo_generateOne (taken : List (Container × FileTree)) (c : Container)
    (ahead : List Container) (report : Report) (state : σ) :
    Moment.LeadsTo g sink ⟨taken, [], c :: ahead, report, state⟩
      ⟨taken ++ [(c, sink.files state)], [], ahead,
        report ++ (g.generateOne sink c state).1, (g.generateOne sink c state).2⟩ := by
  have hsteps := leadsTo_carryOut g sink (taken ++ [(c, sink.files state)])
    (g.plan (sink.files state) c).steps ahead
    (report ++ (g.plan (sink.files state) c).counts) state
  rw [Report.append_assoc] at hsteps
  rw [generateOne_eq]
  exact .head rfl hsteps

end

/-- What one container adds to the reports of a run. -/
def IsPart (g : Generator) (sink : Sink σ) (work : Container × FileTree)
    (part : List Diagnostic) : Prop :=
  ∃ state, sink.files state = work.2 ∧ part = (g.generateOne sink work.1 state).1.diagnostics ∧
    ∀ d ∈ part, ∃ step ∈ (g.plan work.2 work.1).steps, ∃ reached,
      Recorded g sink work step reached d

theorem Moment.leadsTo_generate (g : Generator) (sink : Sink σ)
    (taken : List (Container × FileTree)) (cs : List Container) (report : Report) (state : σ) :
    ∃ works parts,
      Moment.LeadsTo g sink ⟨taken, [], cs, report, state⟩
        ⟨taken ++ works, [], [], report ++ (g.generate sink cs state).1,
          (g.generate sink cs state).2⟩ ∧
      works.map Prod.fst = cs ∧ (g.generate sink cs state).1.diagnostics = parts.flatten ∧
      List.Forall₂ (IsPart g sink) works parts := by
  induction cs generalizing taken report state with
  | nil =>
    refine ⟨[], [], ?_, rfl, rfl, .nil⟩
    simp only [Generator.generate, Report.append_empty, List.append_nil]
    exact .refl
  | cons c rest ih =>
    have hone := leadsTo_generateOne g sink taken c rest report state
    obtain ⟨works, parts, hrest, hworks, hparts, hare⟩ :=
      ih (taken ++ [(c, sink.files state)]) (report ++ (g.generateOne sink c state).1)
        (g.generateOne sink c state).2
    refine ⟨(c, sink.files state) :: works,
      (g.generateOne sink c state).1.diagnostics :: parts, ?_, by rw [List.map_cons, hworks], ?_, ?_⟩
    · rw [List.append_assoc, Report.append_assoc] at hrest
      exact hone.trans hrest
    · rw [Generator.generate, Report.diagnostics_append, hparts, List.flatten_cons]
    · exact .cons ⟨state, rfl, rfl, fun _ hd => recorded_generateOne hd⟩ hare

/-- A run is attributed and only adds. Step by step, what is recorded stays, and a step adds nothing
or one diagnostic about the container at work: about its owner, a field or a method, with a reason
if it is about files. Containers are taken up in order, so what is recorded of an earlier one stands
before what is recorded of a later one. From the first error on the run is no success. -/
theorem run_attributed (g : Generator) (sink : Sink σ) (cs : List Container) (state : σ) :
    let start := Moment.start cs state
    ∃ (last : Moment σ) (parts : List (List Diagnostic)),
      start.LeadsTo g sink last ∧ last.next? g sink = none ∧
      g.run sink cs state = .ok (last.report, last.state) ∧
      (∀ now, start.LeadsTo g sink now → now.taken.map Prod.fst ++ now.ahead = cs ∧
        (∀ after, now.next? g sink = some after →
          after.report.diagnostics = now.report.diagnostics ∨
          ∃ d work step, after.report.diagnostics = now.report.diagnostics ++ [d] ∧
            after.taken = now.taken ∧ now.taken.getLast? = some work ∧
            now.steps = step :: after.steps ∧ Recorded g sink work step now.state d) ∧
        ∀ later, now.LeadsTo g sink later →
          now.report.diagnostics <+: later.report.diagnostics ∧ now.taken <+: later.taken ∧
          ((∃ d ∈ now.report.diagnostics, d.severity = .error) →
            later.report.isSuccess = false)) ∧
      last.taken.map Prod.fst = cs ∧ last.report.diagnostics = parts.flatten ∧
      List.Forall₂ (IsPart g sink) last.taken parts := by
  intro start
  obtain ⟨works, parts, hlast, hworks, hparts, hare⟩ :=
    Moment.leadsTo_generate g sink [] cs .empty state
  simp only [List.nil_append, Report.empty_append] at hlast
  refine ⟨_, parts, hlast, rfl, g.run_eq_ok sink cs state, fun now hnow => ?_, hworks, hparts, hare⟩
  have hsound := (Moment.sound_start (g := g) cs state).leadsTo hnow
  refine ⟨hsound.order, fun _ hnext => hsound.recorded hnext, fun later hlater => ?_⟩
  obtain ⟨hreport, htaken⟩ := Moment.extends_leadsTo hlater
  exact ⟨hreport, htaken, Moment.isSuccess_of_error hlater⟩

end

end Modforge
