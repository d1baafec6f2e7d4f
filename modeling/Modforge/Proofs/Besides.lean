import Modforge.Proofs.Inlined.Run
import Modforge.Proofs.Refused.Spec

/-! # Reports on the side -/

namespace Modforge

/-! ## Lists laid into one another -/

namespace Interleaved

variable {α : Type} {first second both first' second' both' : List α}

theorem refl (items : List α) : Interleaved items [] items := by
  induction items with
  | nil => exact .nil
  | cons a rest ih => exact .left ih

theorem alone (items : List α) : Interleaved [] items items := by
  induction items with
  | nil => exact .nil
  | cons a rest ih => exact .right ih

theorem append (h : Interleaved first second both) (h' : Interleaved first' second' both') :
    Interleaved (first ++ first') (second ++ second') (both ++ both') := by
  induction h with
  | nil => exact h'
  | left _ ih => exact .left ih
  | right _ ih => exact .right ih

theorem insert (before added after : List α) :
    Interleaved (before ++ after) added (before ++ added ++ after) := by
  have h := ((refl before).append (alone added)).append (refl after)
  simpa using h

theorem flatMap_insert {β : Type} (f : β → List α) (before added after : List β) :
    Interleaved ((before ++ after).flatMap f) (added.flatMap f)
      ((before ++ added ++ after).flatMap f) := by
  rw [List.flatMap_append, List.flatMap_append, List.flatMap_append]
  exact insert _ _ _

theorem mem_iff (h : Interleaved first second both) (a : α) :
    a ∈ both ↔ a ∈ first ∨ a ∈ second := by
  induction h with
  | nil => simp
  | left _ ih => simp [ih, or_assoc]
  | right _ ih => simp [ih, or_left_comm]

end Interleaved

/-! ## Reports -/

/-- The same counts and the same reports, with more reports in between. -/
structure Report.Besides (more : List Diagnostic) (before after : Report) : Prop where
  containers : after.containers = before.containers
  blocks : after.blocks = before.blocks
  items : after.items = before.items
  resources : after.resources = before.resources
  sources : after.sources = before.sources
  diagnostics : Interleaved before.diagnostics more after.diagnostics

namespace Report.Besides

theorem refl (report : Report) : Besides [] report report :=
  ⟨rfl, rfl, rfl, rfl, rfl, .refl _⟩

theorem ofDiagnostic (d : Diagnostic) : empty.Besides [d] (.ofDiagnostic d) :=
  ⟨rfl, rfl, rfl, rfl, rfl, .alone [d]⟩

theorem append {more more' : List Diagnostic} {before after before' after' : Report}
    (h : Besides more before after) (h' : Besides more' before' after') :
    Besides (more ++ more') (before ++ before') (after ++ after') where
  containers := by simp only [append_def, h.containers, h'.containers]
  blocks := by simp only [append_def, h.blocks, h'.blocks]
  items := by simp only [append_def, h.items, h'.items]
  resources := by simp only [append_def, h.resources, h'.resources]
  sources := by simp only [append_def, h.sources, h'.sources]
  diagnostics := h.diagnostics.append h'.diagnostics

theorem isSuccess {more : List Diagnostic} {before after : Report}
    (h : Besides more before after) (hmore : ∀ d ∈ more, d.severity = .warning) :
    after.isSuccess = before.isSuccess := by
  have herrors : Diagnostic.hasErrors after.diagnostics =
      Diagnostic.hasErrors before.diagnostics := by
    rw [Bool.eq_iff_iff, Diagnostic.hasErrors, Diagnostic.hasErrors, List.any_eq_true,
      List.any_eq_true]
    constructor
    · rintro ⟨d, hd, herror⟩
      rcases (h.diagnostics.mem_iff d).1 hd with hbefore | hwarning
      · exact ⟨d, hbefore, herror⟩
      · rw [Diagnostic.isError, hmore d hwarning] at herror
        cases herror
    · rintro ⟨d, hd, herror⟩
      exact ⟨d, (h.diagnostics.mem_iff d).2 (.inl hd), herror⟩
  rw [Report.isSuccess, Report.isSuccess, herrors]

end Report.Besides

/-! ## Steps -/

theorem carryOut_besides {σ : Type} (sink : Sink σ) {steps steps' : List Step}
    {more : List Diagnostic} (h : Interleaved steps (more.map .report) steps') (state : σ) :
    (carryOut sink steps' state).2 = (carryOut sink steps state).2 ∧
      (carryOut sink steps state).1.Besides more (carryOut sink steps' state).1 := by
  -- the added steps are abstract for the induction, as its cases take them apart
  generalize hadded : more.map Step.report = added at h
  induction h generalizing more state with
  | nil =>
    obtain rfl := List.map_eq_nil_iff.1 hadded
    exact ⟨rfl, .refl _⟩
  | @left step _ _ _ _ ih =>
    obtain ⟨hstate, hreport⟩ := ih (step.carryOut sink state).2 hadded
    exact ⟨hstate, (Report.Besides.refl _).append hreport⟩
  | right _ ih =>
    obtain ⟨d, rest, rfl, rfl, hrest⟩ := List.map_eq_cons_iff.1 hadded
    obtain ⟨hstate, hreport⟩ := ih state hrest
    have hall := (Report.Besides.ofDiagnostic d).append hreport
    rw [Report.empty_append] at hall
    exact ⟨hstate, hall⟩

/-! ## Runs -/

section

variable {σ : Type} (g : Generator) (sink : Sink σ)

theorem generateOne_of_nameReport {c : Container} {d : Diagnostic}
    (h : Generator.nameReport? c = some d) (state : σ) :
    g.generateOne sink c state = (.ofDiagnostic d, state) := by
  rw [Generator.generateOne, plan_of_nameReport g _ c h]
  rfl

theorem generate_append (first second : List Container) (state : σ) :
    g.generate sink (first ++ second) state =
      ((g.generate sink first state).1 ++
          (g.generate sink second (g.generate sink first state).2).1,
        (g.generate sink second (g.generate sink first state).2).2) := by
  induction first generalizing state with
  | nil => simp [Generator.generate]
  | cons c rest ih => simp [Generator.generate, ih, Report.append_assoc]

theorem generate_besides (before middle middle' after : List Container)
    {more : List Diagnostic} (state : σ)
    (hstate : (g.generate sink middle' (g.generate sink before state).2).2 =
      (g.generate sink middle (g.generate sink before state).2).2)
    (hreport : (g.generate sink middle (g.generate sink before state).2).1.Besides more
      (g.generate sink middle' (g.generate sink before state).2).1) :
    let old := g.generate sink (before ++ middle ++ after) state
    let new := g.generate sink (before ++ middle' ++ after) state
    new.2 = old.2 ∧ old.1.Besides more new.1 := by
  intro old new
  simp only [old, new, generate_append, hstate, true_and]
  simpa using ((Report.Besides.refl _).append hreport).append (.refl _)

end

end Modforge
