import Modforge.Proofs.Besides
import Modforge.Proofs.Enrolment.Entries
import Modforge.Proofs.Refused.Run

/-! # What determines the resources -/

namespace Modforge

variable {σ τ : Type}

/-! ## Sinks -/

/-- What a sink answers to some requests, one after the other. -/
def replies (sink : Sink σ) : List Request → σ → List (Except String Unit)
  | [], _ => []
  | request :: rest, state =>
    (sink.store request state).1 :: replies sink rest (sink.store request state).2

/-- Two sinks, each in its state, that give the same answers to all requests of a kind, in
whatever order they are made. -/
def AnswerAlike (asked : Request → Bool) (sink : Sink σ) (state : σ) (sink' : Sink τ)
    (state' : τ) : Prop :=
  ∀ requests : List Request, (∀ request ∈ requests, asked request = true) →
    replies sink requests state = replies sink' requests state'

theorem length_replies (sink : Sink σ) (requests : List Request) (state : σ) :
    (replies sink requests state).length = requests.length := by
  induction requests generalizing state with
  | nil => rfl
  | cons request rest ih => exact congrArg (· + 1) (ih _)

theorem answers_eq_replies (sink : Sink σ) (steps : List Step) (state : σ) :
    answers sink steps state = replies sink (requests steps) state := by
  induction steps generalizing state with
  | nil => rfl
  | cons step rest ih =>
    cases step with
    | report d => exact ih state
    | store request subject => exact congrArg (List.cons _) (ih _)

theorem answerAlike_of_accepts (asked : Request → Bool) {sink : Sink σ} {sink' : Sink τ}
    (h : sink.Accepts) (h' : sink'.Accepts) (state : σ) (state' : τ) :
    AnswerAlike asked sink state sink' state' := by
  intro requests hasked
  clear hasked
  induction requests generalizing state state' with
  | nil => rfl
  | cons request rest ih =>
    rw [replies, replies, h request state, h' request state']
    exact congrArg (List.cons _) (ih _ _)

def Sink.after (sink : Sink σ) (requests : List Request) (state : σ) : σ :=
  requests.foldl (fun state request => (sink.store request state).2) state

theorem replies_append (sink : Sink σ) (first second : List Request) (state : σ) :
    replies sink (first ++ second) state =
      replies sink first state ++ replies sink second (sink.after first state) := by
  induction first generalizing state with
  | nil => rfl
  | cons request rest ih => exact congrArg (List.cons _) (ih _)

theorem carryOut_eq_of_answers (sink : Sink σ) (sink' : Sink τ) {steps : List Step} {state : σ}
    {state' : τ} (h : answers sink steps state = answers sink' steps state') :
    (carryOut sink steps state).1 = (carryOut sink' steps state').1 := by
  induction steps generalizing state state' with
  | nil => rfl
  | cons step rest ih =>
    cases step with
    | report d => exact congrArg (Report.ofDiagnostic d ++ ·) (ih h)
    | store request subject =>
      obtain ⟨hanswer, hrest⟩ := List.cons.inj h
      rw [carryOut_store, carryOut_store]
      simp only [hanswer, ih hrest]

/-! ## Resources -/

section

variable (g : Generator) (tree : FileTree) (c : Container)

theorem isResource_registrarCall {call : Request × String}
    (h : registrarCall? g tree c = some call) : call.1.isResource = false := by
  rw [registrarCall?] at h
  split at h
  · cases h
  · obtain ⟨source, _, rfl⟩ := Option.map_eq_some_iff.1 h
    rfl

theorem calls_generateOne (sink : Sink σ) (state : σ) (h : Generator.nameReport? c = none) :
    let asked := (candidates g (sink.files state) c).map Request.ofCandidate
    let rest := ((registrarCall? g (sink.files state) c).map Prod.fst).toList
    (g.generateOne sink.traced c (state, [])).2.2 =
      asked.zip (replies sink asked state) ++
        rest.zip (replies sink rest (sink.after asked state)) := by
  intro asked rest
  have hrequests : requests (g.plan (sink.files state) c).steps = asked ++ rest :=
    requests_plan g (sink.files state) c h
  simp only [Generator.generateOne, carryOut_traced, List.nil_append, answers_eq_replies]
  rw [show (Sink.traced sink).files (state, []) = sink.files state from rfl, hrequests,
    replies_append]
  exact List.zip_append (length_replies sink asked state).symm

theorem trace_generateOne (sink : Sink σ) (state : σ) (h : Generator.nameReport? c = none) :
    ((g.generateOne sink.traced c (state, [])).2.2.filter fun call => call.1.isResource) =
      let asked := (candidates g (sink.files state) c).map Request.ofCandidate
      asked.zip (replies sink asked state) := by
  let asked := (candidates g (sink.files state) c).map Request.ofCandidate
  let rest := ((registrarCall? g (sink.files state) c).map Prod.fst).toList
  have hasked : ∀ call ∈ asked.zip (replies sink asked state), call.1.isResource = true := by
    intro call hcall
    obtain ⟨candidate, -, hcandidate⟩ := List.mem_map.1 (List.of_mem_zip hcall).1
    rw [← hcandidate]
    rfl
  have hrest : ∀ call ∈ rest.zip (replies sink rest (sink.after asked state)),
      ¬ call.1.isResource = true := by
    intro call hcall
    obtain ⟨other, hother, hsame⟩ := Option.map_eq_some_iff.1
      (Option.mem_toList.1 (List.of_mem_zip hcall).1)
    rw [← hsame, isResource_registrarCall g _ c hother]
    exact Bool.false_ne_true
  rw [calls_generateOne g c sink state h, List.filter_append, List.filter_eq_self.2 hasked,
    List.filter_eq_nil_iff.2 hrest, List.append_nil]

theorem resources_filter (trace : Trace) :
    Trace.resources (trace.filter fun call => call.1.isResource) = trace.resources := by
  unfold Trace.resources
  rw [List.filter_filter]
  congr 2
  funext (request, answer)
  cases request <;> cases answer <;> rfl

theorem candidates_congr {g g' : Generator} {tree tree' : FileTree}
    (hroot : g'.templateRoot = g.templateRoot) (hsame : SameTemplates g c tree tree')
    (owner : String) (methods : List Method) :
    candidates g' tree' { c with owner, methods } = candidates g tree c := by
  have htemplates : Container.templatesIn { c with owner, methods } g' tree' =
      c.templatesIn g tree := by
    refine congrArg (Bundled.templates c.space ++ ·) (List.filterMap_congr fun source hsource => ?_)
    rw [Template.load, Template.load, hroot, hsame source hsource]
  have hchosen : templateFor g' tree' { c with owner, methods } = templateFor g tree c := by
    unfold templateFor
    rw [htemplates]
  unfold candidates blockCandidates itemCandidates
  simp only [hchosen]

theorem lengths_congr (g' : Generator) (tree' : FileTree) (owner : String)
    (methods : List Method) :
    let r := (g.resolve tree c).value
    let r' := (g'.resolve tree' { c with owner, methods }).value
    r'.blocks.length = r.blocks.length ∧ r'.items.length = r.items.length := by
  intro r r'
  constructor
  · simp only [r, r', blocks_resolve, blocks_members, List.length_map]
  · simp only [r, r', items_resolve, items_members, List.length_map]

end

/-! ## The check of JSON -/

def Generator.checking (g : Generator) (checks : Bool) : Generator :=
  { g with settings := { g.settings with checksJson := checks } }

theorem make_checking (tree : FileTree) (s : Settings) (checks : Bool) :
    Generator.make tree { s with checksJson := checks } =
      (Generator.make tree s).map (·.checking checks) := by
  have hcheck : Settings.check { s with checksJson := checks } = s.check := rfl
  unfold Generator.make
  rw [hcheck]
  cases s.check with
  | error flaw => rfl
  | ok _ => cases Registrar.load tree s.layoutFile s.suffix <;> rfl

/-- The same steps, with warnings in between. -/
def Warns (quiet loud : List Step) : Prop :=
  ∃ more : List Diagnostic, Interleaved quiet (more.map .report) loud ∧
    ∀ d ∈ more, d.severity = .warning

namespace Warns

theorem refl (steps : List Step) : Warns steps steps :=
  ⟨[], .refl steps, fun _ hd => absurd hd List.not_mem_nil⟩

theorem append {quiet loud quiet' loud' : List Step} (h : Warns quiet loud)
    (h' : Warns quiet' loud') : Warns (quiet ++ quiet') (loud ++ loud') := by
  obtain ⟨more, hsteps, hmore⟩ := h
  obtain ⟨more', hsteps', hmore'⟩ := h'
  refine ⟨more ++ more', ?_, fun d hd => (List.mem_append.1 hd).elim (hmore d) (hmore' d)⟩
  rw [List.map_append]
  exact hsteps.append hsteps'

theorem flatMap {α : Type} {quiet loud : α → List Step} (items : List α)
    (h : ∀ item, Warns (quiet item) (loud item)) :
    Warns (items.flatMap quiet) (items.flatMap loud) := by
  induction items with
  | nil => exact refl []
  | cons item rest ih => exact (h item).append ih

end Warns

section

variable (g : Generator) (c : Container)

theorem warns_resourceSteps (id subject : String) (resource : Category × Chosen) :
    Warns ((g.checking false).resourceSteps c id subject resource)
      ((g.checking true).resourceSteps c id subject resource) := by
  unfold Generator.resourceSteps Artifact.render
  cases resource.2.template.render id resource.2.args with
  | error missing => exact .refl _
  | ok contents =>
    let artifact : Artifact :=
      ⟨resource.1, resource.1.package c.space, id ++ ".json", contents⟩
    let warnings := artifact.jsonReports resource.2.template.name subject
    let stored : Step := .store (.resource artifact.package artifact.fileName contents) subject
    have hsteps := (Interleaved.alone (warnings.map Step.report)).append (.refl [stored])
    rw [List.append_nil] at hsteps
    refine ⟨warnings, hsteps, fun d hd => ?_⟩
    simp only [warnings, Artifact.jsonReports] at hd
    split at hd
    · cases hd
    · obtain rfl := List.mem_singleton.1 hd
      rfl

theorem warns_plan (tree : FileTree) :
    let quiet := (g.checking false).plan tree c
    let loud := (g.checking true).plan tree c
    Warns quiet.steps loud.steps ∧ loud.containers = quiet.containers ∧
      loud.blocks = quiet.blocks ∧ loud.items = quiet.items := by
  have hresolve : (g.checking true).resolve tree c = (g.checking false).resolve tree c := rfl
  intro quiet loud
  cases h : Generator.nameReport? c with
  | some d =>
    simp only [quiet, loud, plan_of_nameReport _ tree c h, and_true]
    exact .refl _
  | none =>
    simp only [quiet, loud, plan_of_named _ tree c h, hresolve, and_true]
    refine .append (.refl _) ?_
    refine (Warns.append (.flatMap _ fun b => ?_) (.flatMap _ fun i => ?_)).append (.refl _)
    · exact .flatMap _ fun resource => warns_resourceSteps g c b.id _ resource
    · exact .flatMap _ fun resource => warns_resourceSteps g c i.id _ resource

theorem generateOne_checking (sink : Sink σ) (state : σ) :
    ∃ more, ((g.checking true).generateOne sink c state).2 =
        ((g.checking false).generateOne sink c state).2 ∧
      ((g.checking false).generateOne sink c state).1.Besides more
        ((g.checking true).generateOne sink c state).1 ∧
      ∀ d ∈ more, d.severity = .warning := by
  obtain ⟨⟨more, hsteps, hmore⟩, hcontainers, hblocks, hitems⟩ :=
    warns_plan g c (sink.files state)
  obtain ⟨hstate, hreport⟩ := carryOut_besides sink hsteps state
  exact ⟨more, hstate, ⟨hcontainers, hblocks, hitems, hreport.resources, hreport.sources,
    hreport.diagnostics⟩, hmore⟩

end

/-! ## Runs -/

theorem settings_make {tree : FileTree} {s : Settings} {g : Generator}
    (h : Generator.make tree s = .ok g) : g.settings = s := by
  unfold Generator.make at h
  split at h
  · cases h
  · cases hload : Registrar.load tree s.layoutFile s.suffix with
    | error failure =>
      rw [hload] at h
      cases h
    | ok registrar =>
      rw [hload] at h
      cases h
      rfl

theorem resources_traced (g : Generator) (sink : Sink σ) (c : Container) (state : σ) :
    (g.generateOne sink.traced c (state, [])).1.resources =
      Trace.resources (g.generateOne sink.traced c (state, [])).2.2 := by
  simp only [Generator.generateOne, carryOut_traced, List.nil_append]
  exact (counts_answers sink _ state).1

section

variable {g g' : Generator} {c : Container} {sink : Sink σ} {state : σ} {sink' : Sink τ}
  {state' : τ}

theorem generateOne_congr (owner : String) (methods : List Method)
    (hroot : g'.templateRoot = g.templateRoot)
    (howner : Naming.checkQualified c.owner = .ok ())
    (howner' : Naming.checkQualified owner = .ok ())
    (hsame : SameTemplates g c (sink.files state) (sink'.files state'))
    (halike : AnswerAlike Request.isResource sink state sink' state') :
    let pass := g.generateOne sink.traced c (state, [])
    let pass' := g'.generateOne sink'.traced { c with owner, methods } (state', [])
    pass'.2.2.filter (·.1.isResource) = pass.2.2.filter (·.1.isResource) ∧
      pass'.1.blocks = pass.1.blocks ∧ pass'.1.items = pass.1.items := by
  let c' : Container := { c with owner, methods }
  have hname : Generator.nameReport? c' = none ↔ Generator.nameReport? c = none := by
    rw [nameReport?_eq_none_iff, nameReport?_eq_none_iff]
    exact and_congr_right fun _ => iff_of_true howner' howner
  intro pass pass'
  cases h : Generator.nameReport? c with
  | some d =>
    obtain ⟨d', h'⟩ : ∃ d', Generator.nameReport? c' = some d' := by
      rw [← Option.ne_none_iff_exists', ne_eq, hname, h]
      exact Option.some_ne_none d
    have hpass : pass = (.ofDiagnostic d, state, []) := generateOne_of_nameReport g _ h _
    have hpass' : pass' = (.ofDiagnostic d', state', []) := generateOne_of_nameReport g' _ h' _
    rw [hpass, hpass']
    exact ⟨rfl, rfl, rfl⟩
  | none =>
    let asked := (candidates g (sink.files state) c).map Request.ofCandidate
    let asked' := (candidates g' (sink'.files state') c').map Request.ofCandidate
    have hasked : asked' = asked :=
      congrArg (List.map _) (candidates_congr c hroot hsame owner methods)
    have hresources : ∀ request ∈ asked, request.isResource = true := by
      intro request hrequest
      obtain ⟨candidate, -, rfl⟩ := List.mem_map.1 hrequest
      rfl
    obtain ⟨hblocks, hitems⟩ := lengths_congr g (sink.files state) c g' (sink'.files state') owner
      methods
    refine ⟨?_, ?_⟩
    · calc pass'.2.2.filter (·.1.isResource)
        _ = asked'.zip (replies sink' asked' state') :=
          trace_generateOne g' c' sink' state' (hname.2 h)
        _ = asked.zip (replies sink asked state) := by rw [hasked, halike asked hresources]
        _ = pass.2.2.filter (·.1.isResource) := (trace_generateOne g c sink state h).symm
    · rw [show pass = _ from generateOne_of_named g _ c _ h,
        show pass' = _ from generateOne_of_named g' _ c' _ (hname.2 h)]
      exact ⟨hblocks, hitems⟩

theorem generateOne_alike (g : Generator)
    (hsame : SameTemplates g c (sink.files state) (sink'.files state'))
    (halike : AnswerAlike (fun _ => true) sink state sink' state') :
    let pass := g.generateOne sink.traced c (state, [])
    let pass' := g.generateOne sink'.traced c (state', [])
    pass'.2.2 = pass.2.2 ∧ pass'.1 = pass.1 := by
  have hplan : g.plan (sink'.files state') c = g.plan (sink.files state) c :=
    (plan_eq_of_same g c hsame).symm
  have hanswers (steps : List Step) : answers sink' steps state' = answers sink steps state := by
    rw [answers_eq_replies, answers_eq_replies]
    exact (halike _ fun _ _ => rfl).symm
  have hfiles : sink.traced.files (state, []) = sink.files state := rfl
  have hfiles' : sink'.traced.files (state', []) = sink'.files state' := rfl
  simp only [Generator.generateOne, carryOut_traced, hfiles, hfiles', hplan, hanswers,
    carryOut_eq_of_answers sink' sink (hanswers _), and_self]

/-- The check of JSON is advice: without it a container does the same, and only some of the
warnings are missing. -/
theorem generateOne_quiet
    (hsame : SameTemplates g c (sink.files state) (sink'.files state'))
    (halike : AnswerAlike (fun _ => true) sink state sink' state') :
    let pass := (g.checking true).generateOne sink.traced c (state, [])
    let pass' := (g.checking false).generateOne sink'.traced c (state', [])
    pass'.2.2 = pass.2.2 ∧
      ∃ more, pass'.1.Besides more pass.1 ∧ ∀ d ∈ more, d.severity = .warning := by
  intro pass pass'
  obtain ⟨more, hstate, hreport, hmore⟩ := generateOne_checking g c sink.traced (state, [])
  obtain ⟨htrace, hsameReport⟩ := generateOne_alike (g.checking false) hsame halike
  refine ⟨htrace.trans (congrArg Prod.snd hstate).symm, more, ?_, hmore⟩
  rw [show pass'.1 = _ from hsameReport]
  exact hreport

end

def oreLayoutFiles : FileTree :=
  { oreFiles with nodes := oreFiles.nodes ++ [(["w", "blank"], .file (.text ""))] }

def blankSettings : Settings := { Settings.default with layoutFile := some "blank" }

/-- Of these settings only the root of templates is the same. -/
def otherSettings : Settings :=
  { resourceRoot := "res", sourceRoot := "java", templateRoot := none, suffix := "Glue"
    layoutFile := some "./blank", checksJson := false, types := ⟨"R", "I", "game.Item", "B"⟩ }

end Modforge
