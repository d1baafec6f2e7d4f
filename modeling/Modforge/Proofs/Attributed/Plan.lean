import Modforge.Proofs.Callback.Run
import Modforge.Proofs.Members
import Modforge.Proofs.Problem.Reports
import Modforge.Proofs.Rejected
import Modforge.Proofs.Repeated

/-! # What a plan reports about -/

namespace Modforge

/-! ## Subjects -/

def Container.IsSubject (c : Container) (subject : String) : Prop :=
  subject = c.owner ∨ (∃ field ∈ c.fields, subject = c.owner ++ "." ++ field.name) ∨
    ∃ method ∈ c.methods, subject = c.owner ++ "." ++ method.name ++ "()"

section

variable {c : Container}

theorem Container.isSubject_owner : c.IsSubject c.owner := .inl rfl

theorem Container.isSubject_field {name : String} (h : ∃ field ∈ c.fields, field.name = name) :
    c.IsSubject (c.fieldSubject name) := by
  obtain ⟨field, hfield, rfl⟩ := h
  exact .inr (.inl ⟨field, hfield, rfl⟩)

theorem Container.isSubject_method {method : Method} (h : method ∈ c.methods) :
    c.IsSubject (c.methodSubject method.name) := .inr (.inr ⟨method, h, rfl⟩)

end

/-- The error about a template of the container whose file cannot be read. -/
def Unreadable (g : Generator) (tree : FileTree) (c : Container) (d : Diagnostic) : Prop :=
  ∃ source ∈ c.templates, ∃ fault,
    Template.load tree g.templateRoot source.name source.kind source.file c.space = .error fault ∧
      d = .io c.owner
        ("cannot read " ++ source.kind.name ++ " template '" ++ source.name ++ "' from " ++
          Template.fileUnder g.templateRoot source.file ++ ": " ++ fault.message)

/-- A diagnostic about the container, of a kind that goes with its severity. Problems of files have
a cause. -/
structure Attributed (c : Container) (cause : Diagnostic → Prop) (d : Diagnostic) : Prop where
  subject : ∃ subject, d.subject = some subject ∧ c.IsSubject subject
  structural : d.concern = .structural → d.severity = .error
  warning : d.severity = .warning → d.concern = .configuration
  io : d.concern = .io → cause d

namespace Attributed

variable {c : Container} {cause : Diagnostic → Prop} {subject : String}

theorem ofConfiguration (h : c.IsSubject subject) (message : String) :
    Attributed c cause (.configuration subject message) := ⟨⟨subject, rfl, h⟩, nofun, nofun, nofun⟩

theorem ofStructural (h : c.IsSubject subject) (message : String) :
    Attributed c cause (.structural subject message) :=
  ⟨⟨subject, rfl, h⟩, fun _ => rfl, nofun, nofun⟩

theorem ofCaution (h : c.IsSubject subject) (message : String) :
    Attributed c cause (.caution subject message) := ⟨⟨subject, rfl, h⟩, nofun, fun _ => rfl, nofun⟩

theorem ofIo {message : String} (h : c.IsSubject subject) (hcause : cause (.io subject message)) :
    Attributed c cause (.io subject message) := ⟨⟨subject, rfl, h⟩, nofun, nofun, fun _ => hcause⟩

theorem ofProblem (h : c.IsSubject subject) (problem : Problem) (store : TemplateStore) :
    Attributed c cause (problem.report store subject) :=
  ⟨⟨subject, rfl, h⟩, nofun, fun _ => rfl, nofun⟩

theorem mono {cause' : Diagnostic → Prop} {d : Diagnostic} (h : Attributed c cause d)
    (hcause : cause d → cause' d) : Attributed c cause' d :=
  ⟨h.subject, h.structural, h.warning, fun hio => hcause (h.io hio)⟩

end Attributed

abbrev Planned (g : Generator) (tree : FileTree) (c : Container) : Diagnostic → Prop :=
  Attributed c (Unreadable g tree c)

/-! ## What is found -/

theorem Reported.exists_of_mem_foldlM {α β : Type} {step : β → α → Reported β} {items : List α}
    {start : β} {d : Diagnostic} (h : d ∈ (items.foldlM step start).reports) :
    ∃ item ∈ items, ∃ reached, d ∈ (step reached item).reports := by
  induction items generalizing start with
  | nil => cases h
  | cons item rest ih =>
    rw [List.foldlM_cons, Reported.reports_bind, List.mem_append] at h
    rcases h with h | h
    · exact ⟨item, List.mem_cons_self, start, h⟩
    · obtain ⟨later, hlater, reached, hd⟩ := ih h
      exact ⟨later, List.mem_cons_of_mem _ hlater, reached, hd⟩

section

variable {g : Generator} {tree : FileTree} {c : Container} {d : Diagnostic}

theorem planned_store (h : d ∈ (g.store tree c).reports) : Planned g tree c d := by
  obtain ⟨source, hsource, reached, hd⟩ := Reported.exists_of_mem_foldlM h
  unfold Generator.addTemplate at hd
  cases hload : Template.load tree g.templateRoot source.name source.kind source.file c.space with
  | error fault =>
    rw [hload] at hd
    obtain rfl := List.mem_singleton.1 hd
    exact .ofIo c.isSubject_owner ⟨source, hsource, fault, hload, rfl⟩
  | ok template =>
    simp only [hload, Option.mem_toList, Option.map_eq_some_iff] at hd
    obtain ⟨previous, -, rfl⟩ := hd
    exact .ofCaution c.isSubject_owner _

theorem planned_problems {problems : List Problem} {store : TemplateStore} {subject : String}
    (hsubject : c.IsSubject subject) (h : d ∈ problems.map (·.report store subject)) :
    Planned g tree c d := by
  obtain ⟨problem, -, rfl⟩ := List.mem_map.1 h
  exact .ofProblem hsubject problem store

/-! ## Members -/

theorem planned_complaints {α : Type} {field : Field} {settings : Option α} {type : MemberType}
    {mark subject : String} (hsubject : c.IsSubject subject)
    (h : d ∈ (field.marked settings type mark subject).reports) : Planned g tree c d := by
  rw [Field.marked_eq, Field.complaints] at h
  split at h
  · obtain ⟨demand, -, rfl⟩ := List.mem_map.1 h
    exact .ofStructural hsubject _
  · cases h

theorem exists_method_of_mem_reports {role : Role} {subject : String → String}
    {methods : List Method} (h : d ∈ role.reports subject methods) :
    ∃ method ∈ methods, ∃ message, d = .structural (subject method.name) message := by
  rcases List.mem_append.1 h with h | h
  · obtain ⟨method, hmethod, hd⟩ := List.mem_flatMap.1 h
    obtain ⟨demand, -, rfl⟩ := List.mem_map.1 hd
    exact ⟨method, hmethod, _, rfl⟩
  · -- among those that fit, the first is told of the second and the others of the first
    have hfit {method : Method} (hmethod : method ∈ role.fitting methods) : method ∈ methods :=
      (List.mem_filter.1 hmethod).1
    rcases hfitting : role.fitting methods with _ | ⟨first, _ | ⟨second, more⟩⟩ <;>
      rw [hfitting] at h hfit
    · cases h
    · cases h
    · rcases List.mem_cons.1 h with rfl | h
      · exact ⟨first, hfit List.mem_cons_self, _, rfl⟩
      · obtain ⟨method, hmethod, rfl⟩ := List.mem_map.1 h
        exact ⟨method, hfit (List.mem_cons_of_mem _ hmethod), _, rfl⟩

theorem planned_callbacks (h : d ∈ (Callbacks.find c).reports) : Planned g tree c d := by
  obtain ⟨-, hreports⟩ :=
    Callbacks.follows_foldlM (c := c) Callbacks.follows_start (Callbacks.declared c)
  have hfind : (Callbacks.find c).reports =
      ((Callbacks.declared c).foldlM (Callbacks.add c) (Callbacks.none, [])).reports :=
    List.append_nil _
  rw [hfind] at h
  obtain ⟨role, -, hd⟩ := List.mem_flatMap.1 (hreports.symm.subset h)
  rw [List.nil_append, methodsIn_declared] at hd
  obtain ⟨method, hmethod, message, rfl⟩ := exists_method_of_mem_reports hd
  obtain ⟨declared, hdeclared, hsame⟩ := List.mem_flatMap.1 hmethod
  obtain rfl := (List.mem_replicate.1 hsame).2
  exact .ofStructural (c.isSubject_method hdeclared) message

theorem planned_members (h : d ∈ c.members.reports) : Planned g tree c d := by
  rw [reports_members, List.mem_append, List.mem_flatMap] at h
  rcases h with ⟨field, hfield, hd⟩ | h
  · have hsubject := c.isSubject_field ⟨field, hfield, rfl⟩
    rcases List.mem_append.1 hd with hd | hd
    · exact planned_complaints hsubject hd
    · exact planned_complaints hsubject hd
  · exact planned_callbacks h

/-! ## Entities -/

theorem field_of_mark {α : Type} {settings : Field → Option α} {type : MemberType}
    {fields : List Field} {mark : Marked α} (h : mark ∈ fittingMarks settings type fields) :
    ∃ field ∈ fields, field.name = mark.field := by
  obtain ⟨field, hfield, hmark⟩ := List.mem_filterMap.1 h
  obtain ⟨found, -, rfl⟩ := Option.map_eq_some_iff.1 hmark
  exact ⟨field, (List.mem_filter.1 hfield).1, rfl⟩

theorem field_of_block {block : Marked BlockSettings} (h : block ∈ c.members.value.blocks) :
    ∃ field ∈ c.fields, field.name = block.field :=
  field_of_mark (blocks_members c ▸ h)

theorem field_of_item {item : Marked ItemSettings} (h : item ∈ c.members.value.items) :
    ∃ field ∈ c.fields, field.name = item.field :=
  field_of_mark (items_members c ▸ h)

theorem field_of_resolvedBlock {b : BlockEntity} (h : b ∈ (g.resolve tree c).value.blocks) :
    ∃ field ∈ c.fields, field.name = b.field := by
  rw [blocks_resolve, List.mem_map] at h
  obtain ⟨block, hblock, rfl⟩ := h
  rw [value_fill]
  exact field_of_block (List.mem_filter.1 hblock).1

theorem field_of_resolvedItem {i : ItemEntity} (h : i ∈ (g.resolve tree c).value.items) :
    ∃ field ∈ c.fields, field.name = i.field := by
  rw [items_resolve, List.mem_map] at h
  obtain ⟨item, hitem, rfl⟩ := h
  exact field_of_item (List.mem_filter.1 hitem).1

theorem field_of_registration {blocks : List BlockEntity} {items : List ItemEntity}
    {r : Registration} (hblocks : ∀ b ∈ blocks, ∃ field ∈ c.fields, field.name = b.field)
    (hitems : ∀ i ∈ items, ∃ field ∈ c.fields, field.name = i.field)
    (h : r ∈ Registration.all blocks items) : ∃ field ∈ c.fields, field.name = r.field := by
  rw [Registration.all, List.mem_append, List.mem_flatMap, List.mem_map] at h
  rcases h with ⟨b, hb, hr⟩ | ⟨i, hi, rfl⟩
  · have hfield : r.field = b.field := by
      unfold Registration.ofBlock at hr
      split at hr <;> simp at hr
      · rcases hr with rfl | rfl <;> rfl
      · rw [hr]
    rw [hfield]
    exact hblocks b hb
  · exact hitems i hi

theorem planned_resolve (h : d ∈ (g.resolve tree c).reports) : Planned g tree c d := by
  rw [reports_container] at h
  simp only [List.mem_append] at h
  rcases h with ((((h | h) | h) | h) | h) | h
  · exact planned_store h
  · exact planned_problems c.isSubject_owner h
  · exact planned_members h
  · obtain ⟨block, hblock, hd⟩ := List.mem_flatMap.1 h
    exact planned_problems (c.isSubject_field (field_of_block hblock)) hd
  · obtain ⟨item, hitem, hd⟩ := List.mem_flatMap.1 h
    exact planned_problems (c.isSubject_field (field_of_item hitem)) hd
  · obtain ⟨⟨r, first⟩, hr, rfl⟩ := List.mem_map.1 h
    exact .ofCaution (c.isSubject_field (field_of_registration
      (fun _ => field_of_resolvedBlock) (fun _ => field_of_resolvedItem)
      (Registration.mem_of_mem_repeated hr))) _

/-! ## Steps -/

def Step.IsPlanned (g : Generator) (tree : FileTree) (c : Container) : Step → Prop
  | .report d => Planned g tree c d
  | .store _ subject => c.IsSubject subject

theorem isPlanned_resourceSteps {id subject : String} {resource : Category × Chosen} {step : Step}
    (hsubject : c.IsSubject subject) (h : step ∈ g.resourceSteps c id subject resource) :
    step.IsPlanned g tree c := by
  rw [Generator.resourceSteps, List.mem_append] at h
  rcases h with h | h
  · obtain ⟨d, hd, rfl⟩ := List.mem_map.1 h
    unfold Artifact.render at hd
    split at hd
    · obtain rfl := List.mem_singleton.1 hd
      exact .ofConfiguration hsubject _
    · dsimp only at hd
      split at hd
      · unfold Artifact.jsonReports at hd
        split at hd
        · cases hd
        · obtain rfl := List.mem_singleton.1 hd
          exact .ofCaution hsubject _
      · cases hd
  · rw [Option.mem_toList, Option.map_eq_some_iff] at h
    obtain ⟨artifact, -, rfl⟩ := h
    exact hsubject

theorem isPlanned_registrarSteps {statements : List String} {step : Step}
    (h : step ∈ g.registrarSteps c statements) : step.IsPlanned g tree c := by
  unfold Generator.registrarSteps at h
  split at h
  · cases h
  · split at h
    · obtain rfl := List.mem_singleton.1 h
      exact c.isSubject_owner
    · obtain rfl := List.mem_singleton.1 h
      exact .ofConfiguration c.isSubject_owner _

theorem planned_nameReport (h : Generator.nameReport? c = some d) : Planned g tree c d := by
  unfold Generator.nameReport? at h
  split at h
  · obtain rfl := Option.some.inj h
    exact .ofConfiguration c.isSubject_owner _
  · split at h
    · obtain rfl := Option.some.inj h
      exact .ofStructural c.isSubject_owner _
    · cases h

theorem isPlanned_of_mem_plan {step : Step} (h : step ∈ (g.plan tree c).steps) :
    step.IsPlanned g tree c := by
  cases hname : Generator.nameReport? c with
  | some d =>
    rw [plan_of_nameReport g tree c hname] at h
    obtain rfl := List.mem_singleton.1 h
    exact planned_nameReport hname
  | none =>
    simp only [Generator.plan, hname, List.mem_append] at h
    rcases h with ((h | h) | h) | h
    · obtain ⟨d, hd, rfl⟩ := List.mem_map.1 h
      exact planned_resolve hd
    · obtain ⟨b, hb, hstep⟩ := List.mem_flatMap.1 h
      obtain ⟨resource, -, hstep⟩ := List.mem_flatMap.1 hstep
      exact isPlanned_resourceSteps (c.isSubject_field (field_of_resolvedBlock hb)) hstep
    · obtain ⟨i, hi, hstep⟩ := List.mem_flatMap.1 h
      obtain ⟨resource, -, hstep⟩ := List.mem_flatMap.1 hstep
      exact isPlanned_resourceSteps (c.isSubject_field (field_of_resolvedItem hi)) hstep
    · exact isPlanned_registrarSteps h

end

end Modforge
