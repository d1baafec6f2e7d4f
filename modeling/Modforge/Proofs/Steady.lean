import Mathlib.Algebra.Ring.Nat
import Modforge.Proofs.Run

/-!
# Runs with steady templates

A plan reads nothing but the templates of its container. While these stay as they are, a run
carries out the plans that could be made at its start, one after the other.
-/

namespace Modforge

/-! ## Templates -/

def SameTemplates (g : Generator) (c : Container) (before after : FileTree) : Prop :=
  ∀ source ∈ c.templates,
    before.read (Template.fileUnder g.templateRoot source.file) =
      after.read (Template.fileUnder g.templateRoot source.file)

section

variable (g : Generator) (c : Container) {before after : FileTree}

theorem addTemplate_eq_of_read (store : TemplateStore) (source : TemplateSource)
    (h : before.read (Template.fileUnder g.templateRoot source.file) =
      after.read (Template.fileUnder g.templateRoot source.file)) :
    g.addTemplate before c store source = g.addTemplate after c store source := by
  unfold Generator.addTemplate Template.load
  simp only [h]

theorem store_eq_of_same (h : SameTemplates g c before after) :
    g.store before c = g.store after c := by
  have hfold : ∀ (sources : List TemplateSource) (start : TemplateStore),
      (∀ source ∈ sources, before.read (Template.fileUnder g.templateRoot source.file) =
        after.read (Template.fileUnder g.templateRoot source.file)) →
      sources.foldlM (g.addTemplate before c) start =
        sources.foldlM (g.addTemplate after c) start := by
    intro sources
    induction sources with
    | nil => exact fun _ _ => rfl
    | cons source rest ih =>
      intro start hsources
      obtain ⟨hsource, hrest⟩ := List.forall_mem_cons.1 hsources
      rw [List.foldlM_cons, List.foldlM_cons, addTemplate_eq_of_read g c start source hsource]
      exact bind_congr fun next => ih next hrest
  exact hfold c.templates _ h

theorem plan_eq_of_same (h : SameTemplates g c before after) :
    g.plan before c = g.plan after c := by
  unfold Generator.plan Generator.resolve
  rw [store_eq_of_same g c h]

end

/-! ## Runs -/

variable {σ : Type}

theorem kept_carryOut (sink : Sink σ) (kept : σ → Prop) (good : Request → Prop)
    (hstore : ∀ state request, kept state → good request → kept (sink.store request state).2)
    {steps : List Step} (hgood : ∀ request ∈ requests steps, good request) {state : σ}
    (hstate : kept state) : kept (carryOut sink steps state).2 := by
  induction steps generalizing state with
  | nil => exact hstate
  | cons step rest ih =>
    cases step with
    | report d => exact ih hgood hstate
    | store request subject =>
      obtain ⟨hrequest, hrest⟩ := List.forall_mem_cons.1
        (show ∀ r ∈ request :: requests rest, good r from hgood)
      have hnext : kept ((Step.store request subject).carryOut sink state).2 := by
        have hkept := hstore state request hstate hrequest
        simp only [Step.carryOut]
        split <;> next h => simpa only [h] using hkept
      exact ih hrest hnext

def Report.counting (outcome : Report) (plans : List Plan) : Report :=
  { outcome with
    containers := (plans.map (·.containers)).sum
    blocks := (plans.map (·.blocks)).sum
    items := (plans.map (·.items)).sum }

def Generator.steps (g : Generator) (tree : FileTree) (cs : List Container) : List Step :=
  cs.flatMap fun c => (g.plan tree c).steps

theorem generate_eq_carryOut (g : Generator) (sink : Sink σ) (tree : FileTree)
    (kept : σ → Prop) (good : Request → Prop) {cs : List Container}
    (hsame : ∀ state, kept state → ∀ c ∈ cs, SameTemplates g c (sink.files state) tree)
    (hgood : ∀ c ∈ cs, ∀ request ∈ requests (g.plan tree c).steps, good request)
    (hstore : ∀ state request, kept state → good request → kept (sink.store request state).2)
    {state : σ} (hstate : kept state) :
    g.generate sink cs state =
      ((carryOut sink (g.steps tree cs) state).1.counting (cs.map (g.plan tree)),
        (carryOut sink (g.steps tree cs) state).2) := by
  induction cs generalizing state with
  | nil => rfl
  | cons c rest ih =>
    obtain ⟨hgoodc, hgoodrest⟩ := List.forall_mem_cons.1 hgood
    have hplan : g.plan (sink.files state) c = g.plan tree c :=
      plan_eq_of_same g c (hsame state hstate c List.mem_cons_self)
    have hnext := kept_carryOut sink kept good hstore hgoodc hstate
    have hrest := ih (fun s hs d hd => hsame s hs d (List.mem_cons_of_mem c hd)) hgoodrest hnext
    have hsteps : g.steps tree (c :: rest) = (g.plan tree c).steps ++ g.steps tree rest :=
      List.flatMap_cons
    simp only [Generator.generate, Generator.generateOne, hplan, hrest, hsteps, carryOut_append,
      Report.counting, Report.append_def, List.map_cons, List.sum_cons]

/-- Storing leaves the templates of the containers as they are. -/
def Sink.KeepsTemplates (sink : Sink σ) (g : Generator) (cs : List Container) : Prop :=
  ∀ c ∈ cs, ∀ request state,
    SameTemplates g c (sink.files (sink.store request state).2) (sink.files state)

theorem generate_of_keepsTemplates (g : Generator) {sink : Sink σ} {cs : List Container}
    (h : sink.KeepsTemplates g cs) (state : σ) :
    let tree := sink.files state
    g.generate sink cs state =
      ((carryOut sink (g.steps tree cs) state).1.counting (cs.map (g.plan tree)),
        (carryOut sink (g.steps tree cs) state).2) := by
  intro tree
  exact generate_eq_carryOut g sink tree
    (fun now => ∀ c ∈ cs, SameTemplates g c (sink.files now) tree) (fun _ => True)
    (fun _ hnow => hnow) (fun _ _ _ _ => trivial)
    (fun now request hnow _ c hc source hsource =>
      (h c hc request now source hsource).trans (hnow c hc source hsource))
    (fun _ _ _ _ => rfl)

/-! ## Sinks that take everything -/

/-- What steps come to if every request is taken. -/
def Report.ofSteps : List Step → Report
  | [] => .empty
  | .report d :: rest => .ofDiagnostic d ++ ofSteps rest
  | .store request _ :: rest => .ofStored request ++ ofSteps rest

def Sink.Accepts (sink : Sink σ) : Prop := ∀ request state, (sink.store request state).1 = .ok ()

theorem carryOut_of_accepts {sink : Sink σ} (h : sink.Accepts) (steps : List Step) (state : σ) :
    (carryOut sink steps state).1 = .ofSteps steps := by
  induction steps generalizing state with
  | nil => rfl
  | cons step rest ih =>
    cases step with
    | report d =>
      simp only [carryOut, Step.carryOut, ih]
      rfl
    | store request subject =>
      have hok := h request state
      simp only [carryOut, Step.carryOut, ih]
      split
      · rfl
      · next heq =>
        rw [heq] at hok
        cases hok

theorem generate_logged_of_accepts (g : Generator) {sink : Sink σ} {cs : List Container}
    (haccepts : sink.Accepts) (hkeeps : sink.KeepsTemplates g cs) (state : σ) :
    g.generate sink.logged cs (state, []) =
      ((Report.ofSteps (g.steps (sink.files state) cs)).counting
          (cs.map (g.plan (sink.files state))),
        (carryOut sink (g.steps (sink.files state) cs) state).2,
        requests (g.steps (sink.files state) cs)) := by
  have hlogged : sink.logged.KeepsTemplates g cs := fun c hc request now =>
    hkeeps c hc request now.1
  rw [generate_of_keepsTemplates g hlogged, carryOut_logged, carryOut_of_accepts haccepts,
    List.nil_append]
  rfl

theorem Report.ofSteps_append (first second : List Step) :
    ofSteps (first ++ second) = ofSteps first ++ ofSteps second := by
  induction first with
  | nil => simp [ofSteps]
  | cons step rest ih => cases step <;> simp [ofSteps, ih, append_assoc]

end Modforge
