import Mathlib.Data.List.Nodup
import Modforge.Proofs.Inlined.Run
import Modforge.Proofs.Problem.Spec

/-!
# Each problem is reported once

Resolving the defaults of a container, and an entity over them, reports exactly the problems of
their settings. A problem of a default is not reported again for the entities that inherit it.
-/

namespace Modforge

/-! ## One setting -/

section

variable (store : TemplateStore) (category : Category) (choice : TemplateChoice)
  (subject : String)

theorem report_unknown (name : String) :
    (Problem.unknown category name).report store subject =
      unknownTemplate store category.kind name subject := by
  unfold Problem.report Problem.message unknownTemplate
  rfl

theorem reports_choice (below : Option Template) :
    (choice.resolve below store category.kind subject).reports =
      (choice.problem? store category).toList.map (·.report store subject) := by
  cases choice with
  | inherit => rfl
  | none => rfl
  | named name =>
    unfold TemplateChoice.resolve TemplateChoice.problem? TemplateStore.contains
    cases hfound : store.lookup category.kind name with
    | none => simp [hfound, report_unknown]
    | some template => simp [hfound]

theorem reports_default (args : List String) :
    (CategoryDefault.resolve category choice args store subject).reports =
      (choice.defaultProblem? store category).toList.map (·.report store subject) := by
  unfold CategoryDefault.resolve TemplateChoice.defaultProblem?
  by_cases h : choice = .inherit
  · subst h
    simp only [if_true, Reported.reports_bind, reports_choice, Reported.reports_pure]
    rfl
  · simp only [if_neg h, Reported.reports_bind, reports_choice, Reported.reports_pure]
    simp

theorem reports_accepted (group : StaticField) (label : String) :
    (group.accepted label subject).reports =
      (GroupChoice.field group).flaw?.toList.map fun flaw =>
        .configuration subject (label ++ ": " ++ flaw.message) := by
  unfold StaticField.accepted GroupChoice.flaw? Reported.check
  cases hcheck : group.check with
  | ok => simp [hcheck]
  | error flaw => simp [hcheck]

theorem reports_defaultGroup (choice : GroupChoice) :
    (defaultGroup choice subject).reports =
      choice.defaultProblem?.toList.map (·.report store subject) := by
  cases choice with
  | inherit => rfl
  | void => rfl
  | field group =>
    simp only [defaultGroup, reports_accepted, GroupChoice.defaultProblem?, reduceCtorEq, if_false,
      Option.toList_map, List.map_map]
    rfl

theorem reports_chooseGroup (choice : GroupChoice) (below : Option StaticField) :
    (chooseGroup choice below subject).reports =
      (choice.flaw?.map Problem.badGroup).toList.map (·.report store subject) := by
  cases choice with
  | inherit => rfl
  | void => rfl
  | field group =>
    simp only [chooseGroup, reports_accepted, Option.toList_map, List.map_map]
    rfl

end

/-! ## Loot -/

theorem ofTemplate_ne_custom_iff (template : Template) :
    LootAction.ofTemplate template ≠ .custom ↔
      template.origin = .builtin ∧ template.name ∈ actionNames := by
  unfold LootAction.ofTemplate Template.isBuiltin actionNames
  by_cases horigin : template.origin = .builtin
  · simp only [horigin, beq_self_eq_true, if_true, true_and, List.mem_cons, List.not_mem_nil,
      or_false]
    split_ifs with hself hsilk hother <;> simp [*]
  · simp [horigin]

theorem ofTemplate_eq_dropOther_iff (template : Template) :
    LootAction.ofTemplate template = .dropOther ↔
      template.origin = .builtin ∧ template.name = "drop_other" := by
  unfold LootAction.ofTemplate Template.isBuiltin
  by_cases horigin : template.origin = .builtin
  · simp only [horigin, beq_self_eq_true, if_true, true_and]
    split_ifs with hself hsilk hother <;> simp [*]
  · simp [horigin]

theorem arguments_eq_error_iff (action : LootAction) (space id drop : String)
    (args : List String) :
    action.arguments space id drop args = .error .noDrop ↔ action = .dropOther ∧ drop = "" := by
  unfold LootAction.arguments
  cases action <;> simp

theorem reports_lootProblems (space subject : String) (store : TemplateStore) (s : BlockSettings)
    (chosen : Chosen) :
    (finishLoot space subject s chosen).reports =
      (s.lootProblems chosen.template).map (·.report store subject) := by
  have hdrop := arguments_eq_error_iff (LootAction.ofTemplate chosen.template) space s.id
    s.lootData chosen.args
  rw [ofTemplate_eq_dropOther_iff, and_assoc] at hdrop
  rw [reports_finishLoot, BlockSettings.lootProblems, List.map_append]
  simp only [ofTemplate_ne_custom_iff, and_assoc]
  congr 1
  · split <;> rfl
  · cases harguments : (LootAction.ofTemplate chosen.template).arguments space s.id s.lootData
      chosen.args with
    | ok args =>
      rw [if_neg fun h => by simp [hdrop.2 h] at harguments]
      rfl
    | error flaw =>
      rw [if_pos (hdrop.1 harguments)]
      rfl

/-! ## Entities over the defaults -/

section

variable (space owner subject : String) (d : Defaults) (store : TemplateStore)

theorem reports_defaults :
    (d.resolve store owner).reports = (d.problems store).map (·.report store owner) := by
  unfold Defaults.resolve Defaults.problems Defaults.references
  simp only [Reported.reports_bind, Reported.reports_pure, reports_default,
    reports_defaultGroup store, List.filterMap_eq_flatMap_toList, List.flatMap_cons,
    List.flatMap_nil, List.append_assoc]
  simp

theorem reports_checkEntityId (id : String) :
    (checkEntityId id subject).reports =
      match Naming.checkId id with
      | .ok () => []
      | .error flaw => [(Problem.badId flaw).report store subject] := by
  unfold checkEntityId Reported.check
  cases Naming.checkId id <;> rfl

theorem reports_fillBlock (mark : Marked BlockSettings) :
    (BlockEntity.fill space mark (d.resolve store owner).value store subject).reports =
      ((mark.settings.references.filterMap fun (category, choice) =>
          choice.problem? store category) ++
        (chosenTemplate (store.lookup .loot) mark.settings.loot d.loot).toList.flatMap
          mark.settings.lootProblems ++
        (mark.settings.group.flaw?.map Problem.badGroup).toList).map
          (·.report store subject) := by
  have htable : (d.resolve store owner).value.lootTable =
      (CategoryDefault.resolve .lootTable d.loot d.lootArgs store owner).value := rfl
  rw [reports_fill, htable]
  simp only [value_chooseFor, reports_chooseFor, reports_choice, reports_chooseGroup store,
    reports_lootProblems space subject store, BlockSettings.references,
    List.filterMap_eq_flatMap_toList, List.flatMap_cons, List.flatMap_nil, List.append_nil,
    List.map_append, List.append_assoc, Option.toList_map, List.flatMap_map, List.map_flatMap]
  rfl

theorem reports_block (mark : Marked BlockSettings) :
    (BlockEntity.resolve space mark (d.resolve store owner).value store subject).reports =
      (mark.settings.problems d store).map (·.report store subject) := by
  rw [reports_resolveBlock, reports_checkEntityId subject store, BlockSettings.problems]
  unfold checkEntityId Reported.check
  cases Naming.checkId mark.settings.id with
  | ok => simpa using reports_fillBlock space owner subject d store mark
  | error flaw => simp

theorem reports_item (mark : Marked ItemSettings) (below : ResolvedDefaults) :
    (ItemEntity.resolve mark below store subject).reports =
      (mark.settings.problems store).map (·.report store subject) := by
  rw [reports_resolveItem, reports_checkEntityId subject store, ItemSettings.problems]
  unfold checkEntityId Reported.check
  cases Naming.checkId mark.settings.id with
  | ok => simp [reports_chooseFor, reports_choice]
  | error flaw => simp

theorem reports_entry (entry : Entry) :
    (entry.resolve space (d.resolve store owner).value store).reports =
      (entry.problems d store).map (·.report store entry.subject) := by
  cases entry with
  | block mark subject => simp [Entry.resolve, Entry.problems, Entry.subject, reports_block]
  | item mark subject => simp [Entry.resolve, Entry.problems, Entry.subject, reports_item]

theorem isSome_entry (entry : Entry) (below : ResolvedDefaults) :
    (entry.resolve space below store).value.isSome = (Naming.checkId entry.id).isOk := by
  have hid : (Naming.checkId entry.id).isOk = Naming.isWordOf Naming.isIdChar entry.id := by
    rw [Bool.eq_iff_iff, ← checkId_eq_ok_iff]
    cases Naming.checkId entry.id <;> simp [Except.isOk, Except.toBool]
  rw [hid]
  cases entry with
  | block mark subject =>
    simp only [Entry.resolve, Entry.id, Reported.value_bind, Reported.value_pure,
      value_resolveBlock]
    split <;> simp [*]
  | item mark subject =>
    simp only [Entry.resolve, Entry.id, Reported.value_bind, Reported.value_pure,
      value_resolveItem]
    split <;> simp [*]

end

/-! ## No problem twice -/

section

variable {store : TemplateStore} {category : Category} {choice : TemplateChoice} {problem : Problem}

theorem choice_of_problem (h : problem ∈ choice.problem? store category) :
    ∃ name, choice = .named name ∧ problem = .unknown category name := by
  cases choice with
  | inherit => simp [TemplateChoice.problem?] at h
  | none => simp [TemplateChoice.problem?] at h
  | named name =>
    simp only [TemplateChoice.problem?] at h
    split at h
    · exact ⟨name, rfl, by simpa using h.symm⟩
    · simp at h

theorem choice_of_defaultProblem (h : problem ∈ choice.defaultProblem? store category) :
    (choice = .inherit ∧ problem = .baseless category) ∨
      ∃ name, choice = .named name ∧ problem = .unknown category name := by
  unfold TemplateChoice.defaultProblem? at h
  split at h
  · next hinherit => exact .inl ⟨hinherit, by simpa using h.symm⟩
  · exact .inr (choice_of_problem h)

theorem nodup_problems {references : List (Category × TemplateChoice)} (h : references.Nodup) :
    (references.filterMap fun (category, choice) => choice.problem? store category).Nodup := by
  apply h.filterMap
  rintro ⟨category, choice⟩ ⟨category', choice'⟩ problem hproblem hproblem'
  obtain ⟨name, rfl, rfl⟩ := choice_of_problem hproblem
  obtain ⟨name', rfl, hsame⟩ := choice_of_problem hproblem'
  cases hsame
  rfl

theorem nodup_defaultProblems {references : List (Category × TemplateChoice)}
    (h : references.Nodup) :
    (references.filterMap fun (category, choice) =>
      choice.defaultProblem? store category).Nodup := by
  apply h.filterMap
  rintro ⟨category, choice⟩ ⟨category', choice'⟩ problem hproblem hproblem'
  rcases choice_of_defaultProblem hproblem with ⟨rfl, rfl⟩ | ⟨name, rfl, rfl⟩ <;>
    rcases choice_of_defaultProblem hproblem' with ⟨rfl, hsame⟩ | ⟨name', rfl, hsame⟩ <;>
    cases hsame <;> rfl

theorem eq_of_mem_problems {references : List (Category × TemplateChoice)}
    (h : problem ∈ references.filterMap fun (category, choice) => choice.problem? store category) :
    ∃ category name, problem = .unknown category name := by
  obtain ⟨⟨category, choice⟩, -, hproblem⟩ := List.mem_filterMap.1 h
  obtain ⟨name, -, rfl⟩ := choice_of_problem hproblem
  exact ⟨category, name, rfl⟩

theorem nodup_lootProblems (s : BlockSettings) (template : Template) :
    (s.lootProblems template).Nodup := by
  unfold BlockSettings.lootProblems
  split <;> split <;> simp

theorem eq_of_mem_lootProblems {s : BlockSettings} {template : Template}
    (h : problem ∈ s.lootProblems template) :
    problem = .ignoredArgs template.name ∨ problem = .noDrop := by
  rcases List.mem_append.1 h with hargs | hdrop
  · split at hargs
    · exact .inl (List.mem_singleton.1 hargs)
    · cases hargs
  · split at hdrop
    · exact .inr (List.mem_singleton.1 hdrop)
    · cases hdrop

end

variable (d : Defaults) (store : TemplateStore)

theorem nodup_defaults : (d.problems store).Nodup := by
  have hreferences : d.references.Nodup := by simp [Defaults.references]
  refine (nodup_defaultProblems hreferences).append (Option.toList_nodup _) ?_
  intro problem hreference hgroup
  obtain ⟨⟨category, choice⟩, -, h⟩ := List.mem_filterMap.1 hreference
  rcases choice_of_defaultProblem h with ⟨-, rfl⟩ | ⟨name, -, rfl⟩ <;>
    cases hchoice : d.group <;> simp [hchoice, GroupChoice.defaultProblem?] at hgroup

theorem nodup_block (s : BlockSettings) : (s.problems d store).Nodup := by
  have hreferences : s.references.Nodup := by simp [BlockSettings.references]
  unfold BlockSettings.problems
  cases Naming.checkId s.id with
  | error flaw => exact List.nodup_singleton _
  | ok =>
    refine ((nodup_problems hreferences).append ?_ ?_).append (Option.toList_nodup _) ?_
    · cases chosenTemplate (store.lookup .loot) s.loot d.loot with
      | none => exact List.nodup_nil
      | some template => simpa using nodup_lootProblems s template
    · intro problem hreference hloot
      obtain ⟨category, name, rfl⟩ := eq_of_mem_problems hreference
      obtain ⟨template, -, h⟩ := List.mem_flatMap.1 hloot
      rcases eq_of_mem_lootProblems h with h | h <;> cases h
    · intro problem hbefore hgroup
      obtain ⟨flaw, -, rfl⟩ : ∃ flaw, s.group.flaw? = some flaw ∧ .badGroup flaw = problem := by
        simpa using hgroup
      rcases List.mem_append.1 hbefore with hreference | hloot
      · obtain ⟨category, name, h⟩ := eq_of_mem_problems hreference
        cases h
      · obtain ⟨template, -, h⟩ := List.mem_flatMap.1 hloot
        rcases eq_of_mem_lootProblems h with h | h <;> cases h

theorem nodup_item (s : ItemSettings) : (s.problems store).Nodup := by
  unfold ItemSettings.problems
  split
  · exact List.nodup_singleton _
  · exact Option.toList_nodup _

theorem nodup_entry (entry : Entry) : (entry.problems d store).Nodup := by
  cases entry with
  | block mark subject => exact nodup_block d store mark.settings
  | item mark subject => exact nodup_item store mark.settings

/-! ## One entity after the other -/

/-- Each problem of the defaults, then each problem of an entity after the other, is reported
once. An entity is dropped exactly if its id is bad. -/
theorem resolution_reports (space owner : String) (entries : List Entry) :
    let found := resolveAll space owner d store entries
    (d.resolve store owner).reports = (d.problems store).map (·.report store owner) ∧
    found.reports = (d.resolve store owner).reports ++
      entries.flatMap (fun entry =>
        (entry.problems d store).map (·.report store entry.subject)) ∧
    found.value.map Option.isSome = entries.map (fun entry => (Naming.checkId entry.id).isOk) ∧
    (d.problems store).Nodup ∧ ∀ entry : Entry, (entry.problems d store).Nodup := by
  intro found
  refine ⟨reports_defaults owner d store, ?_, ?_, nodup_defaults d store, nodup_entry d store⟩
  · simp [found, resolveAll, Reported.forEach, reports_entry, List.flatMap_map]
  · simp [found, resolveAll, Reported.forEach, isSome_entry]

theorem reports_container (g : Generator) (tree : FileTree) (c : Container) :
    let store := (g.store tree c).value
    (g.resolve tree c).reports =
      (g.store tree c).reports ++
      (c.defaults.problems store).map (·.report store c.owner) ++ c.members.reports ++
      (c.members.value.blocks.flatMap fun block =>
        (block.settings.problems c.defaults store).map
          (·.report store (c.fieldSubject block.field))) ++
      (c.members.value.items.flatMap fun item =>
        (item.settings.problems store).map (·.report store (c.fieldSubject item.field))) ++
      duplicateReports c (g.resolve tree c).value.blocks (g.resolve tree c).value.items := by
  intro store
  rw [reports_resolve, reports_defaults]
  simp only [resolvedDefaults, reports_block, reports_item, store]

end Modforge
