import Modforge.Proofs.Inlined.Spec
import Modforge.Proofs.Resolved
import Modforge.Proofs.Run

/-!
# Inlining keeps the output

An entity finds the same templates, arguments and group in its own settings as it would inherit.
What it reports beyond that is a warning, or an error that the defaults were reported for too.
-/

namespace Modforge

/-! ## Added reports -/

/-- Reports are only added. Errors that are added need an excuse. -/
structure Adds (excused : Prop) (before after : List Diagnostic) : Prop where
  kept : before.Sublist after
  errors : Diagnostic.hasErrors after = true → Diagnostic.hasErrors before = true ∨ excused

theorem hasErrors_append (first second : List Diagnostic) :
    Diagnostic.hasErrors (first ++ second) =
      (Diagnostic.hasErrors first || Diagnostic.hasErrors second) :=
  List.any_append

namespace Adds

variable {excused : Prop} {before after before' after' : List Diagnostic}

theorem refl (ds : List Diagnostic) : Adds excused ds ds := ⟨.refl _, .inl⟩

theorem of_warnings (h : Diagnostic.hasErrors after = false) : Adds excused [] after :=
  ⟨List.nil_sublist _, fun herrors => by simp [h] at herrors⟩

theorem of_excused (h : Diagnostic.hasErrors after = true → excused) : Adds excused [] after :=
  ⟨List.nil_sublist _, fun herrors => .inr (h herrors)⟩

theorem excuse {excused' : Prop} (h : Adds excused before after) (he : excused → excused') :
    Adds excused' before after :=
  ⟨h.kept, fun herrors => (h.errors herrors).imp_right he⟩

theorem append (h : Adds excused before after) (h' : Adds excused before' after') :
    Adds excused (before ++ before') (after ++ after') := by
  refine ⟨h.kept.append h'.kept, fun herrors => ?_⟩
  rw [hasErrors_append, Bool.or_eq_true] at herrors ⊢
  rcases herrors with herrors | herrors
  · rcases h.errors herrors with hb | he
    · exact .inl (.inl hb)
    · exact .inr he
  · rcases h'.errors herrors with hb | he
    · exact .inl (.inr hb)
    · exact .inr he

theorem flatMap {α : Type} {f f' : α → List Diagnostic} (items : List α)
    (h : ∀ item, Adds excused (f item) (f' item)) :
    Adds excused (items.flatMap f) (items.flatMap f') := by
  induction items with
  | nil => exact refl []
  | cons item rest ih =>
    rw [List.flatMap_cons, List.flatMap_cons]
    exact (h item).append ih

theorem hasErrors_eq (h : Adds (Diagnostic.hasErrors before = true) before after) :
    Diagnostic.hasErrors after = Diagnostic.hasErrors before := by
  rw [Bool.eq_iff_iff]
  constructor
  · intro herrors
    rcases h.errors herrors with hb | hb <;> exact hb
  · intro herrors
    obtain ⟨d, hd, herror⟩ := List.any_eq_true.1 herrors
    exact List.any_eq_true.2 ⟨d, h.kept.subset hd, herror⟩

end Adds

/-! ## One setting -/

theorem chosenArgs_chosenArgs (own default : List String) :
    chosenArgs (chosenArgs own default) default = chosenArgs own default := by
  cases own with
  | nil => cases default <;> rfl
  | cons arg more => rfl

section

variable (category : Category) (own default : TemplateChoice) (args defaultArgs : List String)
  (store : TemplateStore) (owner subject : String)

theorem value_chooseFor_inlined :
    let below := (CategoryDefault.resolve category default defaultArgs store owner).value
    (chooseFor category (own.inlined default) (chosenArgs args defaultArgs) below store
        subject).value =
      (chooseFor category own args below store subject).value := by
  have hchoice : chosenTemplate (store.lookup category.kind) (own.inlined default) default =
      chosenTemplate (store.lookup category.kind) own default := by
    cases own <;> cases default <;> rfl
  intro below
  rw [value_chooseFor, value_chooseFor, hchoice, chosenArgs_chosenArgs]

theorem reports_chooseFor (below : CategoryDefault) :
    (chooseFor category own args below store subject).reports =
      (own.resolve none store category.kind subject).reports := by
  simp [chooseFor, TemplateChoice.resolve]

theorem hasErrors_resolve :
    Diagnostic.hasErrors (own.resolve none store category.kind subject).reports = true →
      Diagnostic.hasErrors
        (CategoryDefault.resolve category own defaultArgs store owner).reports = true := by
  cases own with
  | inherit => simp [TemplateChoice.resolve, Diagnostic.hasErrors]
  | none => simp [TemplateChoice.resolve, Diagnostic.hasErrors]
  | named name =>
    simp only [TemplateChoice.resolve, CategoryDefault.resolve]
    split <;> simp [*, Diagnostic.hasErrors, unknownTemplate, Diagnostic.configuration,
      Diagnostic.isError]

theorem reports_chooseFor_inlined (below : CategoryDefault) :
    Adds (Diagnostic.hasErrors
        (CategoryDefault.resolve category default defaultArgs store owner).reports = true)
      (chooseFor category own args below store subject).reports
      (chooseFor category (own.inlined default) (chosenArgs args defaultArgs) below store
        subject).reports := by
  rw [reports_chooseFor, reports_chooseFor]
  cases own with
  | inherit => exact .of_excused (hasErrors_resolve category default defaultArgs store owner _)
  | none => exact .refl _
  | named name => exact .refl _

end

theorem above_inlined (own : CompanionChoice) (default : Bool) :
    (own.inlined default).above default = own.above default := by
  cases own <;> cases default <;> rfl

theorem value_accepted (group : StaticField) (label label' subject subject' : String) :
    (group.accepted label subject).value = (group.accepted label' subject').value := by
  unfold StaticField.accepted Reported.check
  cases group.check <;> rfl

theorem hasErrors_accepted (group : StaticField) (label label' subject subject' : String) :
    Diagnostic.hasErrors (group.accepted label subject).reports =
      Diagnostic.hasErrors (group.accepted label' subject').reports := by
  unfold StaticField.accepted Reported.check
  cases group.check <;> rfl

theorem value_chooseGroup_inlined (own default : GroupChoice) (owner subject : String) :
    (chooseGroup (own.inlined default) (defaultGroup default owner).value subject).value =
      (chooseGroup own (defaultGroup default owner).value subject).value := by
  cases own with
  | inherit =>
    cases default with
    | inherit => rfl
    | void => rfl
    | field group => exact value_accepted group _ _ _ _
  | void => rfl
  | field group => rfl

theorem reports_chooseGroup_inlined (own default : GroupChoice) (below : Option StaticField)
    (owner subject : String) :
    Adds (Diagnostic.hasErrors (defaultGroup default owner).reports = true)
      (chooseGroup own below subject).reports
      (chooseGroup (own.inlined default) below subject).reports := by
  cases own with
  | inherit =>
    cases default with
    | inherit => exact .refl _
    | void => exact .refl _
    | field group =>
      refine .of_excused fun herrors => ?_
      rw [← herrors]
      exact hasErrors_accepted group _ _ _ _
  | void => exact .refl _
  | field group => exact .refl _

theorem reports_finishLoot (space subject : String) (s : BlockSettings) (chosen : Chosen) :
    (finishLoot space subject s chosen).reports =
      (if LootAction.ofTemplate chosen.template ≠ .custom ∧ s.lootArgs ≠ [] then
        [.caution subject ("loot_args are ignored by the built-in '" ++ chosen.template.name ++
          "' loot table")]
      else []) ++
      match (LootAction.ofTemplate chosen.template).arguments space s.id s.lootData chosen.args with
      | .ok _ => []
      | .error flaw => [.configuration subject flaw.message] := by
  simp only [finishLoot]
  generalize (LootAction.ofTemplate chosen.template).arguments space s.id s.lootData
    chosen.args = outcome
  by_cases h : LootAction.ofTemplate chosen.template ≠ .custom ∧ s.lootArgs ≠ []
  · rw [if_pos h, if_pos h]
    cases outcome <;> rfl
  · rw [if_neg h, if_neg h]
    cases outcome <;> rfl

theorem reports_finishLoot_inlined (excused : Prop) (space subject : String) (s : BlockSettings)
    (d : Defaults) (chosen : Chosen) :
    Adds excused (finishLoot space subject s chosen).reports
      (finishLoot space subject (s.inlined d) chosen).reports := by
  rw [reports_finishLoot, reports_finishLoot]
  refine .append ?_ (.refl _)
  cases h : s.lootArgs with
  | nil =>
    simp only [ne_eq, not_true_eq_false, and_false, if_false]
    apply Adds.of_warnings
    split <;> rfl
  | cons arg more =>
    simp only [BlockSettings.inlined, chosenArgs, h]
    exact .refl _

/-! ## Entities -/

def inlinedBlock (d : Defaults) (block : Marked BlockSettings) : Marked BlockSettings :=
  { block with settings := block.settings.inlined d }

def inlinedItem (d : Defaults) (item : Marked ItemSettings) : Marked ItemSettings :=
  { item with settings := item.settings.inlined d }

section

variable (space : String) (d : Defaults) (store : TemplateStore) (owner subject : String)

theorem hasErrors_defaults :
    Diagnostic.hasErrors (d.resolve store owner).reports = true ↔
      Diagnostic.hasErrors
          (CategoryDefault.resolve .blockModel d.block d.blockArgs store owner).reports = true ∨
      Diagnostic.hasErrors
          (CategoryDefault.resolve .blockState d.blockState d.blockStateArgs store owner).reports =
        true ∨
      Diagnostic.hasErrors
          (CategoryDefault.resolve .itemModel d.item d.itemArgs store owner).reports = true ∨
      Diagnostic.hasErrors
          (CategoryDefault.resolve .blockItem d.blockItem d.blockItemArgs store owner).reports =
        true ∨
      Diagnostic.hasErrors
          (CategoryDefault.resolve .lootTable d.loot d.lootArgs store owner).reports = true ∨
      Diagnostic.hasErrors (defaultGroup d.group owner).reports = true := by
  simp only [Defaults.resolve, Reported.reports_bind, Reported.reports_pure, List.append_nil,
    hasErrors_append, Bool.or_eq_true]

theorem value_fill_inlined (block : Marked BlockSettings) :
    let below := (d.resolve store owner).value
    (BlockEntity.fill space (inlinedBlock d block) below store subject).value =
      (BlockEntity.fill space block below store subject).value := by
  intro below
  rw [value_fill, value_fill]
  simp only [inlinedBlock, BlockSettings.inlined, below, Defaults.resolve, Reported.value_bind,
    Reported.value_pure, value_chooseFor_inlined, above_inlined, value_chooseGroup_inlined,
    value_finishLoot]

theorem reports_fill (block : Marked BlockSettings) (below : ResolvedDefaults) :
    (BlockEntity.fill space block below store subject).reports =
      let s := block.settings
      let table := chooseFor .lootTable s.loot s.lootArgs below.lootTable store subject
      (chooseFor .blockModel s.model s.modelArgs below.blockModel store subject).reports ++
      (chooseFor .blockState s.blockState s.blockStateArgs below.blockState store
        subject).reports ++
      (chooseFor .blockItem s.blockItem s.blockItemArgs below.blockItem store subject).reports ++
      table.reports ++
      (table.value.toList.flatMap fun chosen => (finishLoot space subject s chosen).reports) ++
      (chooseGroup s.group below.group subject).reports := by
  simp only [BlockEntity.fill, Reported.reports_bind, List.append_assoc]
  cases (chooseFor .lootTable block.settings.loot block.settings.lootArgs below.lootTable store
    subject).value <;> simp

theorem reports_fill_inlined (block : Marked BlockSettings) :
    let below := (d.resolve store owner).value
    Adds (Diagnostic.hasErrors (d.resolve store owner).reports = true)
      (BlockEntity.fill space block below store subject).reports
      (BlockEntity.fill space (inlinedBlock d block) below store subject).reports := by
  intro below
  have htable : (chooseFor .lootTable (block.settings.loot.inlined d.loot)
      (chosenArgs block.settings.lootArgs d.lootArgs) below.lootTable store subject).value =
      (chooseFor .lootTable block.settings.loot block.settings.lootArgs below.lootTable store
        subject).value := value_chooseFor_inlined _ _ _ _ _ _ owner _
  rw [reports_fill, reports_fill, hasErrors_defaults]
  refine .append (.append (.append (.append (.append ?_ ?_) ?_) ?_) ?_) ?_
  · exact (reports_chooseFor_inlined ..).excuse .inl
  · exact (reports_chooseFor_inlined ..).excuse (.inr ∘ .inl)
  · exact (reports_chooseFor_inlined ..).excuse (.inr ∘ .inr ∘ .inr ∘ .inl)
  · exact (reports_chooseFor_inlined ..).excuse (.inr ∘ .inr ∘ .inr ∘ .inr ∘ .inl)
  · simp only [inlinedBlock, BlockSettings.inlined, htable]
    exact .flatMap _ fun chosen => reports_finishLoot_inlined _ space subject _ d chosen
  · exact (reports_chooseGroup_inlined ..).excuse (.inr ∘ .inr ∘ .inr ∘ .inr ∘ .inr)

theorem reports_resolveBlock (block : Marked BlockSettings) (below : ResolvedDefaults) :
    (BlockEntity.resolve space block below store subject).reports =
      (checkEntityId block.settings.id subject).reports ++
        if (checkEntityId block.settings.id subject).value then
          (BlockEntity.fill space block below store subject).reports
        else [] := by
  simp only [BlockEntity.resolve, Reported.reports_bind]
  congr 1
  split
  · exact List.append_nil _
  · rfl

theorem reports_resolveBlock_inlined (block : Marked BlockSettings) :
    let below := (d.resolve store owner).value
    Adds (Diagnostic.hasErrors (d.resolve store owner).reports = true)
      (BlockEntity.resolve space block below store subject).reports
      (BlockEntity.resolve space (inlinedBlock d block) below store subject).reports := by
  intro below
  have hid : (inlinedBlock d block).settings.id = block.settings.id := rfl
  rw [reports_resolveBlock, reports_resolveBlock, hid]
  refine .append (.refl _) ?_
  split
  · exact reports_fill_inlined space d store owner subject block
  · exact .refl _

theorem fill_inlinedItem (item : Marked ItemSettings) :
    let below := (d.resolve store owner).value
    ItemEntity.fill (inlinedItem d item) below store subject =
      ItemEntity.fill item below store subject := by
  intro below
  simp only [ItemEntity.fill, inlinedItem, ItemSettings.inlined, below, Defaults.resolve,
    Reported.value_bind, Reported.value_pure, value_chooseFor_inlined]

theorem reports_resolveItem (item : Marked ItemSettings) (below : ResolvedDefaults) :
    (ItemEntity.resolve item below store subject).reports =
      (checkEntityId item.settings.id subject).reports ++
        if (checkEntityId item.settings.id subject).value then
          (chooseFor .itemModel item.settings.model item.settings.modelArgs below.itemModel store
            subject).reports
        else [] := by
  simp only [ItemEntity.resolve, Reported.reports_bind]
  congr 1
  split
  · simp
  · rfl

theorem reports_resolveItem_inlined (item : Marked ItemSettings) :
    let below := (d.resolve store owner).value
    Adds (Diagnostic.hasErrors (d.resolve store owner).reports = true)
      (ItemEntity.resolve item below store subject).reports
      (ItemEntity.resolve (inlinedItem d item) below store subject).reports := by
  intro below
  have hid : (inlinedItem d item).settings.id = item.settings.id := rfl
  rw [reports_resolveItem, reports_resolveItem, hid, hasErrors_defaults]
  refine .append (.refl _) ?_
  split
  · exact (reports_chooseFor_inlined ..).excuse (.inr ∘ .inr ∘ .inl)
  · exact .refl _

end

/-! ## Containers -/

section

variable (g : Generator) (tree : FileTree) (c : Container)

theorem Field.fits_inlined (field : Field) (d : Defaults) (type : MemberType) :
    (field.inlined d).fits type = field.fits type := rfl

theorem blocks_members_inlined :
    c.inlined.members.value.blocks = c.members.value.blocks.map (inlinedBlock c.defaults) := by
  rw [blocks_members, blocks_members, List.map_filterMap, Container.inlined, List.filter_map,
    List.filterMap_map]
  simp only [Function.comp_def, Field.fits_inlined]
  simp only [Field.inlined, Option.map_map, Function.comp_def, inlinedBlock]

theorem items_members_inlined :
    c.inlined.members.value.items = c.members.value.items.map (inlinedItem c.defaults) := by
  rw [items_members, items_members, List.map_filterMap, Container.inlined, List.filter_map,
    List.filterMap_map]
  simp only [Function.comp_def, Field.fits_inlined]
  simp only [Field.inlined, Option.map_map, Function.comp_def, inlinedItem]

theorem Field.reports_marked {α : Type} (field : Field) (settings : Option α) (type : MemberType)
    (mark subject : String) :
    (field.marked settings type mark subject).reports =
      if settings.isSome then (field.check type mark subject).reports else [] := by
  cases settings with
  | none => rfl
  | some settings => simp [Field.marked]

theorem reports_members :
    c.members.reports =
      (c.fields.flatMap fun field =>
        (field.marked field.block .block "register_block" (c.fieldSubject field.name)).reports ++
        (field.marked field.item .item "register_item" (c.fieldSubject field.name)).reports) ++
      (Callbacks.find c).reports := by
  simp [Container.members, Reported.forEach, List.flatMap_map]

theorem reports_members_inlined : c.inlined.members.reports = c.members.reports := by
  have hfind : Callbacks.find c.inlined = Callbacks.find c := rfl
  have hcheck (field : Field) : (field.inlined c.defaults).check = field.check := rfl
  rw [reports_members, reports_members, hfind, Container.inlined, List.flatMap_map]
  simp only [Field.reports_marked, hcheck]
  simp only [Field.inlined, Option.isSome_map, Container.fieldSubject]

theorem value_resolve_inlined : (g.resolve tree c.inlined).value = (g.resolve tree c).value := by
  have hstore : g.store tree c.inlined = g.store tree c := rfl
  have hdefaults : resolvedDefaults g tree c.inlined = resolvedDefaults g tree c := rfl
  have hblocks : (g.resolve tree c.inlined).value.blocks = (g.resolve tree c).value.blocks := by
    rw [blocks_resolve, blocks_resolve, blocks_members_inlined, List.filter_map, List.map_map,
      hstore, hdefaults]
    refine congrArg (List.map · _) (funext fun block => ?_)
    exact value_fill_inlined c.space c.defaults _ c.owner _ block
  have hitems : (g.resolve tree c.inlined).value.items = (g.resolve tree c).value.items := by
    rw [items_resolve, items_resolve, items_members_inlined, List.filter_map, List.map_map,
      hstore, hdefaults]
    refine congrArg (List.map · _) (funext fun item => ?_)
    exact fill_inlinedItem c.defaults _ c.owner _ item
  have hcallbacks :
      (g.resolve tree c.inlined).value.callbacks = (g.resolve tree c).value.callbacks := rfl
  generalize (g.resolve tree c.inlined).value = after at *
  generalize (g.resolve tree c).value = before at *
  cases after
  cases before
  congr

theorem reports_resolve :
    (g.resolve tree c).reports =
      (g.store tree c).reports ++
      (c.defaults.resolve (g.store tree c).value c.owner).reports ++ c.members.reports ++
      (c.members.value.blocks.flatMap fun block =>
        (BlockEntity.resolve c.space block (resolvedDefaults g tree c) (g.store tree c).value
          (c.fieldSubject block.field)).reports) ++
      (c.members.value.items.flatMap fun item =>
        (ItemEntity.resolve item (resolvedDefaults g tree c) (g.store tree c).value
          (c.fieldSubject item.field)).reports) ++
      duplicateReports c (g.resolve tree c).value.blocks (g.resolve tree c).value.items := by
  simp only [Generator.resolve, Reported.reports_bind, Reported.value_bind, Reported.forEach,
    List.flatMap_map, List.append_assoc, resolvedDefaults]

theorem reports_resolve_inlined :
    Adds (Diagnostic.hasErrors (g.resolve tree c).reports = true)
      (g.resolve tree c).reports (g.resolve tree c.inlined).reports := by
  have hstore : g.store tree c.inlined = g.store tree c := rfl
  have hdefaults : resolvedDefaults g tree c.inlined = resolvedDefaults g tree c := rfl
  have hexcuse :
      Diagnostic.hasErrors (c.defaults.resolve (g.store tree c).value c.owner).reports = true →
        Diagnostic.hasErrors (g.resolve tree c).reports = true := by
    intro h
    simp [reports_resolve, hasErrors_append, h]
  refine Adds.excuse ?_ hexcuse
  rw [reports_resolve, reports_resolve g tree c.inlined, value_resolve_inlined,
    reports_members_inlined, blocks_members_inlined, items_members_inlined, List.flatMap_map,
    List.flatMap_map, hstore, hdefaults]
  refine .append (.append (.append (.refl _) ?_) ?_) (.refl _)
  · exact .flatMap _ fun block => reports_resolveBlock_inlined c.space c.defaults _ c.owner _ block
  · exact .flatMap _ fun item => reports_resolveItem_inlined c.defaults _ c.owner _ item

def outputSteps (r : Generator.Resolved) : List Step :=
  r.blocks.flatMap (g.blockSteps c) ++ r.items.flatMap (g.itemSteps c) ++
    g.registrarSteps c (g.statements c r)

theorem outputSteps_inlined (r : Generator.Resolved) :
    outputSteps g c.inlined r = outputSteps g c r := rfl

theorem plan_of_nameReport {d : Diagnostic} (h : Generator.nameReport? c = some d) :
    g.plan tree c = ⟨0, 0, 0, [.report d]⟩ := by
  simp only [Generator.plan, h]

theorem plan_of_named (h : Generator.nameReport? c = none) :
    g.plan tree c =
      let r := (g.resolve tree c).value
      ⟨1, r.blocks.length, r.items.length,
        (g.resolve tree c).reports.map .report ++ outputSteps g c r⟩ := by
  simp only [Generator.plan, h, outputSteps, List.append_assoc]

end

/-! ## Runs -/

variable {σ : Type}

theorem generateOne_of_named (g : Generator) (sink : Sink σ) (c : Container) (state : σ)
    (h : Generator.nameReport? c = none) :
    g.generateOne sink c state =
      let resolved := g.resolve (sink.files state) c
      let r := resolved.value
      let out := carryOut sink (outputSteps g c r) state
      (⟨1, r.blocks.length, r.items.length, out.1.resources, out.1.sources,
        resolved.reports ++ out.1.diagnostics⟩, out.2) := by
  simp only [Generator.generateOne, plan_of_named g _ c h, carryOut_append, carryOut_reports,
    Report.append_def, Report.empty, Nat.zero_add]

end Modforge
