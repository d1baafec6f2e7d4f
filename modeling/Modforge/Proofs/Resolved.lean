import Modforge.Proofs.Candidate.Spec

/-! # What resolution finds, apart from what is reported -/

namespace Modforge

namespace Reported

theorem value_foldlM {α β : Type} (step : β → α → Reported β) (items : List α) (start : β) :
    (items.foldlM step start).value = items.foldl (fun b a => (step b a).value) start := by
  induction items generalizing start with
  | nil => rfl
  | cons item rest ih => simp [List.foldlM_cons, ih]

theorem reports_foldlM_concat {α β : Type} (step : β → α → Reported β) (items : List α)
    (item : α) (start : β) :
    ((items ++ [item]).foldlM step start).reports =
      (items.foldlM step start).reports ++
        (step (items.foldlM step start).value item).reports := by
  induction items generalizing start with
  | nil => simp
  | cons first rest ih => simp [List.foldlM_cons, ih]

end Reported

/-! ## The store -/

namespace TemplateStore

theorem lookup_register (store : TemplateStore) (template : Template) (kind : TemplateKind)
    (name : String) :
    (store.register template).lookup kind name =
      if isNamed kind name template then some template else store.lookup kind name := by
  split
  · next h =>
    have hkey : template.kind = kind ∧ template.name = name := by simpa [isNamed] using h
    rw [← hkey.1, ← hkey.2, lookup_register_self]
  · next h => exact lookup_register_of_ne store template (by simpa using h)

theorem lookup_foldl_register (templates : List Template) (store : TemplateStore)
    (kind : TemplateKind) (name : String) :
    (templates.foldl register store).lookup kind name =
      (templates.reverse.find? (isNamed kind name)).or (store.lookup kind name) := by
  induction templates generalizing store with
  | nil => rfl
  | cons template rest ih =>
    rw [List.foldl_cons, ih, lookup_register, List.reverse_cons, List.find?_append,
      Option.or_assoc]
    congr 1
    by_cases h : isNamed kind name template <;> simp [h]

end TemplateStore

theorem value_addTemplate (g : Generator) (tree : FileTree) (c : Container)
    (store : TemplateStore) (source : TemplateSource) :
    (g.addTemplate tree c store source).value =
      (Template.load tree g.templateRoot source.name source.kind source.file
        c.space).toOption.elim store store.register := by
  unfold Generator.addTemplate
  split <;> next h => simp [h, Except.toOption, TemplateStore.register]

theorem value_store (g : Generator) (tree : FileTree) (c : Container) :
    (g.store tree c).value = (c.templatesIn g tree).foldl .register .empty := by
  unfold Generator.store Container.templatesIn
  rw [Reported.value_foldlM, List.foldl_append, ← TemplateStore.withBundled]
  generalize TemplateStore.withBundled c.space = start
  induction c.templates generalizing start with
  | nil => rfl
  | cons source rest ih =>
    rw [List.foldl_cons, ih, value_addTemplate, List.filterMap_cons]
    cases (Template.load tree g.templateRoot source.name source.kind source.file
      c.space).toOption <;> rfl

theorem lookup_store (g : Generator) (tree : FileTree) (c : Container) (kind : TemplateKind)
    (name : String) :
    (g.store tree c).value.lookup kind name = templateNamed (c.templatesIn g tree) kind name := by
  rw [value_store, TemplateStore.lookup_foldl_register]
  exact Option.or_none

/-! ## Members -/

theorem value_check {ε : Type} (outcome : Except ε Unit) (diagnostic : ε → Diagnostic) :
    (Reported.check outcome diagnostic).value = true ↔ outcome = .ok () := by
  cases outcome <;> simp [Reported.check]

theorem Field.value_check (field : Field) (type : MemberType) (mark subject : String) :
    (field.check type mark subject).value = field.fits type := by
  have hname : (Reported.check (Naming.checkIdentifier field.name) fun flaw =>
      Diagnostic.structural subject flaw.message).value = Naming.isIdentifier field.name := by
    rw [Bool.eq_iff_iff, Modforge.value_check, Naming.checkIdentifier_eq_ok_iff]
  simp [Field.check, Reported.all, Reported.require, hname, Field.fits, Bool.and_assoc]

theorem Field.value_marked {α : Type} (field : Field) (settings : Option α) (type : MemberType)
    (mark subject : String) :
    (field.marked settings type mark subject).value =
      if field.fits type then settings.map (⟨field.name, ·⟩) else none := by
  cases settings with
  | none => simp [Field.marked]
  | some settings => simp [Field.marked, Field.value_check]

theorem blocks_members (c : Container) :
    c.members.value.blocks =
      (c.fields.filter (·.fits .block)).filterMap fun field =>
        field.block.map (⟨field.name, ·⟩) := by
  simp [Container.members, Reported.forEach, List.filterMap_map, List.filterMap_filter,
    Function.comp_def, Field.value_marked]

theorem items_members (c : Container) :
    c.members.value.items =
      (c.fields.filter (·.fits .item)).filterMap fun field =>
        field.item.map (⟨field.name, ·⟩) := by
  simp [Container.members, Reported.forEach, List.filterMap_map, List.filterMap_filter,
    Function.comp_def, Field.value_marked]

/-! ## Settings -/

theorem value_defaultOf (category : Category) (default : TemplateChoice)
    (args : List String) (store : TemplateStore) (owner : String) :
    (CategoryDefault.resolve category default args store owner).value =
      ⟨default.layer.above none (store.lookup category.kind), args⟩ := by
  unfold CategoryDefault.resolve
  split <;> rfl

theorem argsOver_eq_chosenArgs (own default : List String) :
    argsOver own default = chosenArgs own default := by
  cases own <;> rfl

theorem value_chooseFor (category : Category) (own default : TemplateChoice)
    (args defaultArgs : List String) (store : TemplateStore) (owner subject : String) :
    (chooseFor category own args
        (CategoryDefault.resolve category default defaultArgs store owner).value store
        subject).value =
      (chosenTemplate (store.lookup category.kind) own default).map
        (⟨·, chosenArgs args defaultArgs⟩) := by
  simp only [value_defaultOf, chooseFor, TemplateChoice.resolve, Reported.value_bind,
    Reported.value_pure, argsOver_eq_chosenArgs]
  cases own <;> cases default <;> rfl

theorem CompanionChoice.above_eq_true_iff (choice : CompanionChoice) (default : Bool) :
    choice.above default = true ↔ choice = .on ∨ (choice = .unset ∧ default = true) := by
  cases choice <;> simp [CompanionChoice.above]

theorem value_finishLoot (space subject : String) (s : BlockSettings) (chosen : Chosen) :
    (finishLoot space subject s chosen).value =
      (((LootAction.ofTemplate chosen.template).arguments space s.id s.lootData
        chosen.args).toOption).map (⟨chosen.template, ·⟩) := by
  simp only [finishLoot]
  cases (LootAction.ofTemplate chosen.template).arguments space s.id s.lootData chosen.args <;>
    split <;> rfl

theorem value_fill (space : String) (block : Marked BlockSettings) (below : ResolvedDefaults)
    (store : TemplateStore) (subject : String) :
    (BlockEntity.fill space block below store subject).value =
      let s := block.settings
      { field := block.field
        id := s.id
        model := (chooseFor .blockModel s.model s.modelArgs below.blockModel store subject).value
        blockState := (chooseFor .blockState s.blockState s.blockStateArgs below.blockState store
          subject).value
        blockItem := (chooseFor .blockItem s.blockItem s.blockItemArgs below.blockItem store
          subject).value
        loot := (chooseFor .lootTable s.loot s.lootArgs below.lootTable store subject).value.bind
          fun chosen => (finishLoot space subject s chosen).value
        companion := s.companion.above below.companion
        group := (chooseGroup s.group below.group subject).value } := by
  simp only [BlockEntity.fill, Reported.value_bind]
  cases (chooseFor .lootTable block.settings.loot block.settings.lootArgs below.lootTable store
    subject).value <;> rfl

theorem checkId_eq_ok_iff {id : String} :
    Naming.checkId id = .ok () ↔ Naming.isWordOf Naming.isIdChar id = true := by
  unfold Naming.checkId Naming.isWordOf
  by_cases h₁ : id.toList.isEmpty <;> by_cases h₂ : id.toList.all Naming.isIdChar <;>
    simp [h₁, h₂]
  split <;> simp

theorem value_checkEntityId (id subject : String) :
    (checkEntityId id subject).value = Naming.isWordOf Naming.isIdChar id := by
  rw [Bool.eq_iff_iff, checkEntityId, value_check, checkId_eq_ok_iff]

theorem value_resolveBlock (space : String) (block : Marked BlockSettings)
    (below : ResolvedDefaults) (store : TemplateStore) (subject : String) :
    (BlockEntity.resolve space block below store subject).value =
      if Naming.isWordOf Naming.isIdChar block.settings.id then
        some (BlockEntity.fill space block below store subject).value
      else none := by
  rw [← value_checkEntityId block.settings.id subject]
  simp only [BlockEntity.resolve, Reported.value_bind]
  split <;> rfl

def ItemEntity.fill (item : Marked ItemSettings) (below : ResolvedDefaults)
    (store : TemplateStore) (subject : String) : ItemEntity :=
  let s := item.settings
  ⟨item.field, s.id,
    (chooseFor .itemModel s.model s.modelArgs below.itemModel store subject).value⟩

theorem value_resolveItem (item : Marked ItemSettings) (below : ResolvedDefaults)
    (store : TemplateStore) (subject : String) :
    (ItemEntity.resolve item below store subject).value =
      if Naming.isWordOf Naming.isIdChar item.settings.id then
        some (ItemEntity.fill item below store subject)
      else none := by
  rw [← value_checkEntityId item.settings.id subject]
  simp only [ItemEntity.resolve, Reported.value_bind]
  split <;> rfl

/-! ## Containers -/

section

variable (g : Generator) (tree : FileTree) (c : Container)

def resolvedDefaults : ResolvedDefaults :=
  (c.defaults.resolve (g.store tree c).value c.owner).value

theorem filterMap_if {α β : Type} (p : α → Bool) (f : α → β) (items : List α) :
    (items.filterMap fun a => if p a then some (f a) else none) = (items.filter p).map f := by
  rw [← List.filterMap_eq_map, List.filterMap_filter]
  rfl

theorem blocks_resolve :
    (g.resolve tree c).value.blocks =
      (c.members.value.blocks.filter fun block =>
        Naming.isWordOf Naming.isIdChar block.settings.id).map fun block =>
          (BlockEntity.fill c.space block (resolvedDefaults g tree c) (g.store tree c).value
            (c.fieldSubject block.field)).value := by
  rw [← filterMap_if]
  simp [Generator.resolve, Reported.forEach, List.filterMap_map, Function.comp_def,
    value_resolveBlock, resolvedDefaults]

theorem items_resolve :
    (g.resolve tree c).value.items =
      (c.members.value.items.filter fun item =>
        Naming.isWordOf Naming.isIdChar item.settings.id).map fun item =>
          ItemEntity.fill item (resolvedDefaults g tree c) (g.store tree c).value
            (c.fieldSubject item.field) := by
  rw [← filterMap_if]
  simp [Generator.resolve, Reported.forEach, List.filterMap_map, Function.comp_def,
    value_resolveItem, resolvedDefaults]

end

end Modforge
