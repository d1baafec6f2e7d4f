import Modforge.Proofs.Candidate.Memory

/-! # What a container asks of a sink -/

namespace Modforge

/-! ## Calls -/

def resourceCall (subject : String) (candidate : (String × String) × String) : Request × String :=
  (.resource candidate.1.1 candidate.1.2 candidate.2, subject)

def Request.ofCandidate (candidate : (String × String) × String) : Request :=
  .resource candidate.1.1 candidate.1.2 candidate.2

section

variable (g : Generator) (tree : FileTree) (c : Container)

def blockCalls : List (Request × String) :=
  (c.fields.filter (·.fits .block)).flatMap fun field =>
    (field.block.toList.filter fun s => Naming.isWordOf Naming.isIdChar s.id).flatMap fun s =>
      (blockCandidates g tree c s).map (resourceCall (c.owner ++ "." ++ field.name))

def itemCalls : List (Request × String) :=
  (c.fields.filter (·.fits .item)).flatMap fun field =>
    (field.item.toList.filter fun s => Naming.isWordOf Naming.isIdChar s.id).flatMap fun s =>
      (itemCandidates g tree c s).map (resourceCall (c.owner ++ "." ++ field.name))

/-- The registrar, if there is something to register and the layout can be rendered. -/
def registrarCall? : Option (Request × String) :=
  let statements := g.statements c (g.resolve tree c).value
  if statements = [] then none
  else (g.registrar.render c statements).toOption.map fun source =>
    (.source source.package source.typeName source.contents, c.owner)

/-- A container whose names are bad asks for nothing. -/
def calls : List (Request × String) :=
  if Generator.nameReport? c = none then
    blockCalls g tree c ++ itemCalls g tree c ++ (registrarCall? g tree c).toList
  else []

end

/-! ## Steps that store -/

def Step.call? : Step → Option (Request × String)
  | .report _ => none
  | .store request subject => some (request, subject)

def stores (steps : List Step) : List (Request × String) := steps.filterMap Step.call?

@[simp] theorem stores_report (d : Diagnostic) (rest : List Step) :
    stores (.report d :: rest) = stores rest := rfl

@[simp] theorem stores_store (request : Request) (subject : String) (rest : List Step) :
    stores (.store request subject :: rest) = (request, subject) :: stores rest := rfl

theorem stores_append (first second : List Step) :
    stores (first ++ second) = stores first ++ stores second :=
  List.filterMap_append

theorem stores_reports (ds : List Diagnostic) : stores (ds.map .report) = [] := by
  simp [stores, List.filterMap_map, Function.comp_def, Step.call?]

theorem stores_flatMap {α : Type} (steps : α → List Step) (items : List α) :
    stores (items.flatMap steps) = items.flatMap fun item => stores (steps item) := by
  induction items with
  | nil => rfl
  | cons item rest ih => simp [List.flatMap_cons, stores_append, ih]

theorem requests_eq_map_stores (steps : List Step) :
    requests steps = (stores steps).map Prod.fst := by
  rw [requests, stores, List.map_filterMap]
  congr 1
  funext step
  cases step <;> rfl

/-! ## Plans -/

section

variable (g : Generator) (tree : FileTree) (c : Container)

theorem stores_resourceSteps (id subject : String) (resource : Category × Chosen) :
    stores (g.resourceSteps c id subject resource) =
      (resources (g.resourceSteps c id subject resource)).map (resourceCall subject) := by
  unfold Generator.resourceSteps
  rw [stores_append, stores_reports, resources_append, resources_reports, List.nil_append,
    List.nil_append]
  cases (Artifact.render c.space g.settings.checksJson id resource.1 resource.2 subject).value <;>
    rfl

theorem stores_entitySteps (id subject : String) (own : List (Category × Chosen)) :
    stores (own.flatMap (g.resourceSteps c id subject)) =
      (resources (own.flatMap (g.resourceSteps c id subject))).map (resourceCall subject) := by
  rw [stores_flatMap, resources_flatMap, List.map_flatMap]
  simp only [stores_resourceSteps]

theorem stores_filledBlock (block : Marked BlockSettings) :
    stores (g.blockSteps c (BlockEntity.fill c.space block (resolvedDefaults g tree c)
        (g.store tree c).value (c.fieldSubject block.field)).value) =
      (blockCandidates g tree c block.settings).map
        (resourceCall (c.fieldSubject block.field)) := by
  rw [← resources_filledBlock g tree c block (c.fieldSubject block.field)]
  have hfield : (BlockEntity.fill c.space block (resolvedDefaults g tree c)
      (g.store tree c).value (c.fieldSubject block.field)).value.field = block.field := by
    rw [value_fill]
  unfold Generator.blockSteps
  rw [stores_entitySteps, hfield]

theorem stores_filledItem (item : Marked ItemSettings) :
    stores (g.itemSteps c (ItemEntity.fill item (resolvedDefaults g tree c)
        (g.store tree c).value (c.fieldSubject item.field))) =
      (itemCandidates g tree c item.settings).map (resourceCall (c.fieldSubject item.field)) := by
  rw [← resources_filledItem g tree c item (c.fieldSubject item.field)]
  exact stores_entitySteps g c _ _ _

theorem stores_registrarSteps :
    stores (g.registrarSteps c (g.statements c (g.resolve tree c).value)) =
      (registrarCall? g tree c).toList := by
  unfold Generator.registrarSteps registrarCall?
  split
  · next h => simp [h, stores]
  · next h =>
    simp only [h, if_false]
    cases g.registrar.render c (g.statements c (g.resolve tree c).value) <;> rfl

theorem flatMap_marked {α β : Type} (settings : Field → Option α) (keep : α → Bool)
    (make : Marked α → List β) (fields : List Field) :
    ((fields.filterMap fun field => (settings field).map (⟨field.name, ·⟩ : α → Marked α)).filter
        fun marked => keep marked.settings).flatMap make =
      fields.flatMap fun field =>
        ((settings field).toList.filter keep).flatMap fun s => make ⟨field.name, s⟩ := by
  rw [List.filterMap_eq_flatMap_toList, List.filter_flatMap, List.flatMap_assoc]
  congr 1
  funext field
  cases settings field with
  | none => rfl
  | some s => by_cases h : keep s <;> simp [h]

theorem flatMap_settings {α β : Type} (settings : Field → Option α) (keep : α → Bool)
    (make : α → List β) (fields : List Field) :
    ((fields.filterMap settings).filter keep).flatMap make =
      fields.flatMap fun field => ((settings field).toList.filter keep).flatMap make := by
  rw [List.filterMap_eq_flatMap_toList, List.filter_flatMap, List.flatMap_assoc]

theorem stores_blocks :
    stores ((g.resolve tree c).value.blocks.flatMap (g.blockSteps c)) = blockCalls g tree c := by
  rw [stores_flatMap, blocks_resolve, List.flatMap_map]
  simp only [stores_filledBlock]
  rw [blocks_members]
  exact flatMap_marked Field.block (fun s => Naming.isWordOf Naming.isIdChar s.id) _ _

theorem stores_items :
    stores ((g.resolve tree c).value.items.flatMap (g.itemSteps c)) = itemCalls g tree c := by
  rw [stores_flatMap, items_resolve, List.flatMap_map]
  simp only [stores_filledItem]
  rw [items_members]
  exact flatMap_marked Field.item (fun s => Naming.isWordOf Naming.isIdChar s.id) _ _

theorem stores_plan : stores (g.plan tree c).steps = calls g tree c := by
  unfold calls
  split
  · next h =>
    simp only [Generator.plan, h, stores_append, stores_reports, stores_blocks, stores_items,
      stores_registrarSteps, List.nil_append]
  · next h =>
    obtain ⟨d, hd⟩ := Option.ne_none_iff_exists'.1 h
    simp only [Generator.plan, hd]
    rfl

/-! ## Requests -/

theorem requests_plan (h : Generator.nameReport? c = none) :
    requests (g.plan tree c).steps =
      (candidates g tree c).map .ofCandidate ++
        ((registrarCall? g tree c).map Prod.fst).toList := by
  have hcall (subject : String) :
      Prod.fst ∘ resourceCall subject = Request.ofCandidate := rfl
  rw [requests_eq_map_stores, stores_plan, calls, if_pos h, candidates]
  simp only [blockCalls, itemCalls, flatMap_settings, List.map_append, List.map_flatMap,
    List.map_map, hcall]
  cases registrarCall? g tree c <;> rfl

def Container.Declares (id : String) : Prop :=
  ∃ field ∈ c.fields, (∃ s, field.block = some s ∧ s.id = id) ∨
    ∃ s, field.item = some s ∧ s.id = id

/-- A request that the container may make: a resource of one of its ids, or its registrar. -/
inductive MayAsk : Request → Prop
  | resource {category : Category} {id : String} (text : String) (hid : c.Declares id) :
    MayAsk (.resource (category.package c.space) (id ++ ".json") text)
  | registrar (text : String) : MayAsk (.source c.package (g.registrar.typeName c) text)

theorem key_of_candidate {space id : String} {category : Category} {template : Option Template}
    {args : Template → Option (List String)} {candidate : (String × String) × String}
    (h : candidate? space id category template args = some candidate) :
    candidate.1 = (category.package space, id ++ ".json") := by
  simp only [candidate?, Option.bind_eq_bind, Option.bind_eq_some_iff, Option.pure_def,
    Option.some.injEq] at h
  obtain ⟨_, _, _, _, _, _, rfl⟩ := h
  rfl

theorem key_of_blockCandidate {s : BlockSettings} {candidate : (String × String) × String}
    (h : candidate ∈ blockCandidates g tree c s) :
    ∃ category : Category, candidate.1 = (category.package c.space, s.id ++ ".json") := by
  simp only [blockCandidates, List.flatMap_cons, List.flatMap_nil, List.append_nil,
    List.mem_append, Option.mem_toList] at h
  rcases h with h | h | h | h
  · exact ⟨_, key_of_candidate h⟩
  · exact ⟨_, key_of_candidate h⟩
  · split at h
    · exact ⟨_, key_of_candidate h⟩
    · cases h
  · exact ⟨_, key_of_candidate h⟩

theorem key_of_itemCandidate {s : ItemSettings} {candidate : (String × String) × String}
    (h : candidate ∈ itemCandidates g tree c s) :
    ∃ category : Category, candidate.1 = (category.package c.space, s.id ++ ".json") := by
  simp only [itemCandidates, Option.mem_toList] at h
  exact ⟨_, key_of_candidate h⟩

theorem mayAsk_of_candidate {id : String} (hid : c.Declares id)
    {candidate : (String × String) × String} (subject : String)
    (h : ∃ category : Category, candidate.1 = (category.package c.space, id ++ ".json")) :
    MayAsk g c (resourceCall subject candidate).1 := by
  obtain ⟨category, hkey⟩ := h
  rw [resourceCall, hkey]
  exact .resource _ hid

theorem mayAsk_of_mem {request : Request} (h : request ∈ requests (g.plan tree c).steps) :
    Generator.nameReport? c = none ∧ MayAsk g c request := by
  rw [requests_eq_map_stores, stores_plan, calls] at h
  split at h
  · next hname =>
    refine ⟨hname, ?_⟩
    simp only [List.map_append, List.mem_append, List.mem_map] at h
    rcases h with (⟨call, hcall, rfl⟩ | ⟨call, hcall, rfl⟩) | ⟨call, hcall, rfl⟩
    · simp only [blockCalls, List.mem_flatMap, List.mem_filter, List.mem_map,
        Option.mem_toList] at hcall
      obtain ⟨field, ⟨hfield, _⟩, s, ⟨hs, _⟩, candidate, hcandidate, rfl⟩ := hcall
      exact mayAsk_of_candidate g c ⟨field, hfield, .inl ⟨s, hs, rfl⟩⟩ _
        (key_of_blockCandidate g tree c hcandidate)
    · simp only [itemCalls, List.mem_flatMap, List.mem_filter, List.mem_map,
        Option.mem_toList] at hcall
      obtain ⟨field, ⟨hfield, _⟩, s, ⟨hs, _⟩, candidate, hcandidate, rfl⟩ := hcall
      exact mayAsk_of_candidate g c ⟨field, hfield, .inr ⟨s, hs, rfl⟩⟩ _
        (key_of_itemCandidate g tree c hcandidate)
    · rw [Option.mem_toList, registrarCall?] at hcall
      split at hcall
      · cases hcall
      · obtain ⟨source, hsource, rfl⟩ := Option.map_eq_some_iff.1 hcall
        unfold Registrar.render at hsource
        cases hrender : g.registrar.layout.render (g.registrar.values c
            (g.statements c (g.resolve tree c).value)) with
        | error flaw =>
          rw [hrender] at hsource
          cases hsource
        | ok contents =>
          rw [hrender] at hsource
          cases hsource
          exact .registrar contents
  · simp at h

end

end Modforge
