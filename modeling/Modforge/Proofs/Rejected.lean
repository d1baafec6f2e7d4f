import Modforge.Proofs.Besides
import Modforge.Proofs.Candidate.Memory

/-! # What is rejected leaves no trace -/

namespace Modforge

/-! ## Fields -/

/-- Whether a container rejects a field: for each of its marks the field does not fit, or the id
is bad. A field without marks is rejected too. -/
structure Container.Rejects (c : Container) (field : Field) : Prop where
  block : ∀ s, field.block = some s →
    (field.check .block "register_block" (c.fieldSubject field.name)).value = false ∨
      Naming.checkId s.id ≠ .ok ()
  item : ∀ s, field.item = some s →
    (field.check .item "register_item" (c.fieldSubject field.name)).value = false ∨
      Naming.checkId s.id ≠ .ok ()

def Container.withField (c : Container) (before : List Field) (field : Field)
    (after : List Field) : Container :=
  { c with fields := before ++ field :: after }

def Diagnostic.IsErrorAbout (subject : String) (d : Diagnostic) : Prop :=
  d.severity = .error ∧ d.subject = some subject

/-! ## Marks -/

/-- The marks of one kind on the fields that fit it. -/
def fittingMarks {α : Type} (settings : Field → Option α) (type : MemberType)
    (fields : List Field) : List (Marked α) :=
  (fields.filter (·.fits type)).filterMap fun field => (settings field).map (⟨field.name, ·⟩)

section

variable {α : Type} (settings : Field → Option α) (type : MemberType)

theorem fittingMarks_append (before after : List Field) :
    fittingMarks settings type (before ++ after) =
      fittingMarks settings type before ++ fittingMarks settings type after := by
  rw [fittingMarks, List.filter_append, List.filterMap_append]
  rfl

theorem fittingMarks_insert (before : List Field) (field : Field) (after : List Field) :
    fittingMarks settings type (before ++ field :: after) =
      fittingMarks settings type before ++ fittingMarks settings type [field] ++
        fittingMarks settings type after := by
  rw [← List.singleton_append, fittingMarks_append, fittingMarks_append, List.append_assoc]

variable {settings type}

theorem mem_fittingMarks_singleton {field : Field} {mark : Marked α}
    (h : mark ∈ fittingMarks settings type [field]) :
    field.fits type = true ∧ settings field = some mark.settings ∧ mark.field = field.name := by
  simp only [fittingMarks, List.mem_filterMap, List.mem_filter, List.mem_singleton] at h
  obtain ⟨_, ⟨rfl, hfits⟩, hmark⟩ := h
  obtain ⟨s, hs, rfl⟩ := Option.map_eq_some_iff.1 hmark
  exact ⟨hfits, hs, rfl⟩

end

theorem isBad_of_mem_fittingMarks {α : Type} {settings : Field → Option α} {id : α → String}
    {type : MemberType} {field : Field} {mark subject : String}
    (h : ∀ s, settings field = some s →
      (field.check type mark subject).value = false ∨ Naming.checkId (id s) ≠ .ok ())
    {marked : Marked α} (hmarked : marked ∈ fittingMarks settings type [field]) :
    Naming.isWordOf Naming.isIdChar (id marked.settings) = false := by
  obtain ⟨hfits, hsettings, -⟩ := mem_fittingMarks_singleton hmarked
  rcases h _ hsettings with hcheck | hid
  · rw [Field.value_check, hfits] at hcheck
    cases hcheck
  · rw [← Bool.not_eq_true, ← checkId_eq_ok_iff]
    exact hid

theorem filter_fittingMarks_insert {α : Type} {settings : Field → Option α} {id : α → String}
    {type : MemberType} {field : Field}
    (h : ∀ marked ∈ fittingMarks settings type [field],
      Naming.isWordOf Naming.isIdChar (id marked.settings) = false) (before after : List Field) :
    ((fittingMarks settings type (before ++ field :: after)).filter fun marked =>
        Naming.isWordOf Naming.isIdChar (id marked.settings)) =
      (fittingMarks settings type (before ++ after)).filter fun marked =>
        Naming.isWordOf Naming.isIdChar (id marked.settings) := by
  have hnone : ((fittingMarks settings type [field]).filter fun marked =>
      Naming.isWordOf Naming.isIdChar (id marked.settings)) = [] :=
    List.filter_eq_nil_iff.2 fun marked hmarked => by simp [h marked hmarked]
  rw [fittingMarks_insert, fittingMarks_append, List.filter_append, List.filter_append, hnone,
    List.append_nil, List.filter_append]

/-! ## Reports -/

theorem eq_of_mem_check {ε : Type} {outcome : Except ε Unit} {diagnostic : ε → Diagnostic}
    {d : Diagnostic} (h : d ∈ (Reported.check outcome diagnostic).reports) :
    ∃ fault, d = diagnostic fault := by
  cases outcome with
  | ok _ => cases h
  | error fault => exact ⟨fault, List.mem_singleton.1 h⟩

theorem eq_of_mem_require {holds : Bool} {otherwise d : Diagnostic}
    (h : d ∈ (Reported.require holds otherwise).reports) : d = otherwise := by
  cases holds with
  | true => cases h
  | false => exact List.mem_singleton.1 h

section

variable {subject : String} {d : Diagnostic}

theorem isErrorAbout_check {field : Field} {type : MemberType} {mark : String}
    (h : d ∈ (field.check type mark subject).reports) : d.IsErrorAbout subject := by
  simp only [Field.check, Reported.all, List.flatMap_cons, List.flatMap_nil, List.append_nil,
    List.mem_append] at h
  rcases h with h | h | h | h
  · obtain ⟨flaw, rfl⟩ := eq_of_mem_check h
    exact ⟨rfl, rfl⟩
  all_goals
    obtain rfl := eq_of_mem_require h
    exact ⟨rfl, rfl⟩

theorem isErrorAbout_marked {α : Type} {field : Field} {settings : Option α} {type : MemberType}
    {mark : String} (h : d ∈ (field.marked settings type mark subject).reports) :
    d.IsErrorAbout subject := by
  rw [Field.reports_marked] at h
  split at h
  · exact isErrorAbout_check h
  · cases h

theorem isErrorAbout_checkEntityId {id : String} (h : d ∈ (checkEntityId id subject).reports) :
    d.IsErrorAbout subject := by
  obtain ⟨flaw, rfl⟩ := eq_of_mem_check h
  exact ⟨rfl, rfl⟩

theorem isErrorAbout_resolveBlock {space : String} {block : Marked BlockSettings}
    {below : ResolvedDefaults} {store : TemplateStore}
    (hid : Naming.isWordOf Naming.isIdChar block.settings.id = false)
    (h : d ∈ (BlockEntity.resolve space block below store subject).reports) :
    d.IsErrorAbout subject := by
  -- of a bad id nothing is looked at but the id
  rw [reports_resolveBlock, value_checkEntityId, hid, if_neg Bool.false_ne_true,
    List.append_nil] at h
  exact isErrorAbout_checkEntityId h

theorem isErrorAbout_resolveItem {item : Marked ItemSettings} {below : ResolvedDefaults}
    {store : TemplateStore} (hid : Naming.isWordOf Naming.isIdChar item.settings.id = false)
    (h : d ∈ (ItemEntity.resolve item below store subject).reports) :
    d.IsErrorAbout subject := by
  rw [reports_resolveItem, value_checkEntityId, hid, if_neg Bool.false_ne_true,
    List.append_nil] at h
  exact isErrorAbout_checkEntityId h

end

/-! ## Containers -/

section

variable (g : Generator) (tree : FileTree) {c : Container} {before after : List Field}
  {field : Field}

theorem Container.Rejects.isBad_block (h : c.Rejects field) :
    ∀ marked ∈ fittingMarks Field.block .block [field],
      Naming.isWordOf Naming.isIdChar marked.settings.id = false :=
  fun _ => isBad_of_mem_fittingMarks h.block

theorem Container.Rejects.isBad_item (h : c.Rejects field) :
    ∀ marked ∈ fittingMarks Field.item .item [field],
      Naming.isWordOf Naming.isIdChar marked.settings.id = false :=
  fun _ => isBad_of_mem_fittingMarks h.item

theorem value_resolve_withField (hfields : c.fields = before ++ after) (h : c.Rejects field) :
    (g.resolve tree (c.withField before field after)).value = (g.resolve tree c).value := by
  have hblocks : (g.resolve tree (c.withField before field after)).value.blocks =
      (g.resolve tree c).value.blocks := by
    rw [blocks_resolve, blocks_resolve, blocks_members, blocks_members, hfields]
    exact congrArg (List.map _) (filter_fittingMarks_insert h.isBad_block before after)
  have hitems : (g.resolve tree (c.withField before field after)).value.items =
      (g.resolve tree c).value.items := by
    rw [items_resolve, items_resolve, items_members, items_members, hfields]
    exact congrArg (List.map _) (filter_fittingMarks_insert h.isBad_item before after)
  have hcallbacks : (g.resolve tree (c.withField before field after)).value.callbacks =
      (g.resolve tree c).value.callbacks := rfl
  generalize (g.resolve tree (c.withField before field after)).value = new at *
  generalize (g.resolve tree c).value = old at *
  cases new
  cases old
  congr

theorem reports_members_withField (field : Field) (hfields : c.fields = before ++ after) :
    Interleaved c.members.reports
      ((field.marked field.block .block "register_block" (c.fieldSubject field.name)).reports ++
        (field.marked field.item .item "register_item" (c.fieldSubject field.name)).reports)
      (c.withField before field after).members.reports := by
  let reports (f : Field) : List Diagnostic :=
    (f.marked f.block .block "register_block" (c.fieldSubject f.name)).reports ++
      (f.marked f.item .item "register_item" (c.fieldSubject f.name)).reports
  have hinsert := (Interleaved.flatMap_insert reports before [field] after).append
    (.refl (Callbacks.find c).reports)
  rw [← hfields, List.flatMap_singleton, List.append_nil, List.append_assoc before] at hinsert
  rw [reports_members, reports_members (c.withField before field after)]
  exact hinsert

theorem reports_resolve_withField (hfields : c.fields = before ++ after) (h : c.Rejects field) :
    ∃ more, Interleaved (g.resolve tree c).reports more
        (g.resolve tree (c.withField before field after)).reports ∧
      ∀ d ∈ more, d.IsErrorAbout (c.fieldSubject field.name) := by
  let block (marked : Marked BlockSettings) : List Diagnostic :=
    (BlockEntity.resolve c.space marked (resolvedDefaults g tree c) (g.store tree c).value
      (c.fieldSubject marked.field)).reports
  let item (marked : Marked ItemSettings) : List Diagnostic :=
    (ItemEntity.resolve marked (resolvedDefaults g tree c) (g.store tree c).value
      (c.fieldSubject marked.field)).reports
  have hblocks := Interleaved.flatMap_insert block (fittingMarks Field.block .block before)
    (fittingMarks Field.block .block [field]) (fittingMarks Field.block .block after)
  have hitems := Interleaved.flatMap_insert item (fittingMarks Field.item .item before)
    (fittingMarks Field.item .item [field]) (fittingMarks Field.item .item after)
  rw [← fittingMarks_append, ← hfields, ← fittingMarks_insert] at hblocks hitems
  -- the phases of a container one after the other; the checks that come last see no difference
  have hall := ((((Interleaved.refl ((g.store tree c).reports ++
    (c.defaults.resolve (g.store tree c).value c.owner).reports)).append
      (reports_members_withField field hfields)).append hblocks).append hitems).append
        (.refl (duplicateReports c (g.resolve tree c).value.blocks (g.resolve tree c).value.items))
  rw [reports_resolve, reports_resolve, value_resolve_withField g tree hfields h,
    blocks_members, items_members, blocks_members, items_members]
  refine ⟨_, hall, fun d hd => ?_⟩
  simp only [List.nil_append, List.append_nil, List.mem_append, List.mem_flatMap] at hd
  rcases hd with ((hd | hd) | ⟨marked, hmarked, hd⟩) | ⟨marked, hmarked, hd⟩
  · exact isErrorAbout_marked hd
  · exact isErrorAbout_marked hd
  · rw [← (mem_fittingMarks_singleton hmarked).2.2]
    exact isErrorAbout_resolveBlock (h.isBad_block marked hmarked) hd
  · rw [← (mem_fittingMarks_singleton hmarked).2.2]
    exact isErrorAbout_resolveItem (h.isBad_item marked hmarked) hd

end

/-! ## Runs -/

section

variable {σ : Type} (g : Generator) (sink : Sink σ)

theorem generateOne_withField {c : Container} {before after : List Field} {field : Field}
    (hfields : c.fields = before ++ after) (h : c.Rejects field) (state : σ) :
    ∃ more, (g.generateOne sink (c.withField before field after) state).2 =
        (g.generateOne sink c state).2 ∧
      (g.generateOne sink c state).1.Besides more
        (g.generateOne sink (c.withField before field after) state).1 ∧
      ∀ d ∈ more, d.IsErrorAbout (c.fieldSubject field.name) := by
  have hname : Generator.nameReport? (c.withField before field after) =
      Generator.nameReport? c := rfl
  cases hc : Generator.nameReport? c with
  | some d =>
    have hplan (tree : FileTree) :
        g.plan tree (c.withField before field after) = g.plan tree c := by
      rw [plan_of_nameReport g tree c hc, plan_of_nameReport g tree _ (hname.trans hc)]
    rw [Generator.generateOne, Generator.generateOne, hplan]
    exact ⟨[], rfl, .refl _, fun d hd => absurd hd List.not_mem_nil⟩
  | none =>
    have hvalue := value_resolve_withField g (sink.files state) hfields h
    have hout (r : Generator.Resolved) :
        outputSteps g (c.withField before field after) r = outputSteps g c r := rfl
    obtain ⟨more, hreports, herrors⟩ :=
      reports_resolve_withField g (sink.files state) hfields h
    rw [generateOne_of_named g sink c state hc, generateOne_of_named g sink _ state
      (hname.trans hc)]
    simp only [hvalue, hout, true_and]
    refine ⟨more, ⟨rfl, rfl, rfl, rfl, rfl, ?_⟩, herrors⟩
    simpa using hreports.append (.refl _)

theorem isErrorAbout_nameReport {c : Container} {d : Diagnostic}
    (h : Generator.nameReport? c = some d) : d.IsErrorAbout c.owner := by
  unfold Generator.nameReport? at h
  split at h
  · obtain rfl := Option.some.inj h
    exact ⟨rfl, rfl⟩
  · split at h
    · obtain rfl := Option.some.inj h
      exact ⟨rfl, rfl⟩
    · cases h

end

def spoiltOre : Field :=
  { Field.ofBlock "SLAG" (.inheriting "no id") with item := some (.inheriting "slag") }

def spoiltOres : Container := { twoOres with space := "No" }

end Modforge
