import Mathlib.Data.List.Basic
import Modforge.Proofs.Resolved
import Modforge.Proofs.Run

/-! # A run stores the candidates -/

namespace Modforge

/-! ## One category -/

/-- The candidate of a template that is chosen already. -/
def candidateOf? (space id : String) (category : Category) (chosen : Chosen) :
    Option ((String × String) × String) :=
  (chosen.template.render id chosen.args).toOption.map fun text =>
    ((category.package space, id ++ ".json"), text)

theorem candidate?_eq_bind (space id : String) (category : Category) (template : Option Template)
    (args : Template → Option (List String)) :
    candidate? space id category template args =
      (template.bind fun t => (args t).map (⟨t, ·⟩)).bind (candidateOf? space id category) := by
  cases template with
  | none => rfl
  | some t =>
    cases h : args t with
    | none => simp [candidate?, h]
    | some a => cases hr : t.render id a <;> simp [candidate?, candidateOf?, h, hr, Except.toOption]

theorem resources_resourceSteps (g : Generator) (c : Container) (id subject : String)
    (category : Category) (chosen : Chosen) :
    resources (g.resourceSteps c id subject (category, chosen)) =
      (candidateOf? c.space id category chosen).toList := by
  unfold Generator.resourceSteps
  rw [resources_append, resources_reports, candidateOf?]
  cases h : chosen.template.render id chosen.args with
  | error missing => simp [Artifact.render, h, Except.toOption, resources, requests]
  | ok text =>
    simp only [Artifact.render, h, Except.toOption]
    rfl

/-! ## Entities -/

theorem resources_blockSteps (g : Generator) (c : Container) (b : BlockEntity) :
    resources (g.blockSteps c b) =
      [b.model.bind (candidateOf? c.space b.id .blockModel),
        b.blockState.bind (candidateOf? c.space b.id .blockState),
        (if b.companion then b.blockItem else none).bind (candidateOf? c.space b.id .blockItem),
        b.loot.bind (candidateOf? c.space b.id .lootTable)].flatMap Option.toList := by
  have hone (category : Category) (chosen : Option Chosen) :
      ((chosen.map fun chosen => (category, chosen)).toList.flatMap fun resource =>
        resources (g.resourceSteps c b.id (c.fieldSubject b.field) resource)) =
      (chosen.bind (candidateOf? c.space b.id category)).toList := by
    cases chosen with
    | none => rfl
    | some chosen => simp [resources_resourceSteps]
  rw [Generator.blockSteps, resources_flatMap, BlockEntity.resources,
    List.filterMap_eq_flatMap_toList, List.flatMap_assoc]
  simp only [List.flatMap_cons, List.flatMap_nil, hone]

theorem resources_itemSteps (g : Generator) (c : Container) (i : ItemEntity) :
    resources (g.itemSteps c i) =
      (i.model.bind (candidateOf? c.space i.id .itemModel)).toList := by
  rw [Generator.itemSteps, resources_flatMap, ItemEntity.resources]
  cases i.model with
  | none => rfl
  | some chosen => simp [resources_resourceSteps]

theorem value_lootChoice (space subject : String) (s : BlockSettings) (default : List String)
    (template : Template) :
    (finishLoot space subject s ⟨template, chosenArgs s.lootArgs default⟩).value =
      (lootArgs space s default template).map (⟨template, ·⟩) := by
  rw [value_finishLoot]
  unfold LootAction.ofTemplate lootArgs Template.isBuiltin
  congr 1
  by_cases hb : template.origin = .builtin
  · simp only [hb, beq_self_eq_true, if_true, ne_eq, not_true_eq_false, if_false]
    by_cases h₁ : template.name = "drop_self"
    · simp [h₁, LootAction.arguments, Except.toOption]
    · by_cases h₂ : template.name = "drop_self_silk"
      · simp [h₂, LootAction.arguments, Except.toOption]
      · by_cases h₃ : template.name = "drop_other"
        · by_cases h₄ : s.lootData = "" <;>
            simp [h₃, h₄, LootAction.arguments, Except.toOption]
        · simp [h₁, h₂, h₃, LootAction.arguments, Except.toOption]
  · simp [hb, LootAction.arguments, Except.toOption]

section

variable (g : Generator) (tree : FileTree) (c : Container)

theorem value_chooseFor_store (category : Category) (own default : TemplateChoice)
    (args defaultArgs : List String) (subject : String) :
    (chooseFor category own args
        (CategoryDefault.resolve category default defaultArgs (g.store tree c).value
          c.owner).value (g.store tree c).value subject).value =
      (templateFor g tree c category own default).map (⟨·, chosenArgs args defaultArgs⟩) := by
  rw [value_chooseFor, templateFor]
  congr 2
  funext name
  exact lookup_store g tree c category.kind name

theorem resources_filledBlock (block : Marked BlockSettings) (subject : String) :
    resources (g.blockSteps c (BlockEntity.fill c.space block (resolvedDefaults g tree c)
        (g.store tree c).value subject).value) = blockCandidates g tree c block.settings := by
  rw [resources_blockSteps, blockCandidates, value_fill]
  simp only [candidate?_eq_bind, resolvedDefaults, Defaults.resolve, Reported.value_bind,
    Reported.value_pure, value_chooseFor_store, Option.bind_map, Function.comp_def,
    value_lootChoice, Option.map_some, CompanionChoice.above_eq_true_iff]
  congr 1
  -- the companion decides for its item model before or after it is rendered
  split
  · simp only [Option.bind_assoc, Option.bind_some, Option.bind_map, Function.comp_def]
  · simp only [Option.bind_assoc, Option.bind_some, Option.bind_none]

theorem resources_filledItem (item : Marked ItemSettings) (subject : String) :
    resources (g.itemSteps c (ItemEntity.fill item (resolvedDefaults g tree c)
        (g.store tree c).value subject)) = itemCandidates g tree c item.settings := by
  rw [resources_itemSteps, itemCandidates, candidate?_eq_bind]
  simp only [ItemEntity.fill, resolvedDefaults, Defaults.resolve, Reported.value_bind,
    Reported.value_pure, value_chooseFor_store]
  simp only [Option.bind_assoc, Option.bind_some, Option.bind_map, Function.comp_def]

/-! ## Containers -/

theorem resources_registrarSteps (statements : List String) :
    resources (g.registrarSteps c statements) = [] := by
  unfold Generator.registrarSteps
  split
  · rfl
  · split <;> rfl

theorem settings_marked {α : Type} (settings : Field → Option α) (fields : List Field) :
    (fields.filterMap fun field =>
        (settings field).map fun s => (⟨field.name, s⟩ : Marked α)).map (·.settings) =
      fields.filterMap settings := by
  rw [List.map_filterMap]
  congr 1
  funext field
  cases settings field <;> rfl

theorem resources_plan (h : Generator.nameReport? c = none) :
    resources (g.plan tree c).steps = candidates g tree c := by
  simp only [Generator.plan, h, resources_append, resources_reports, resources_flatMap,
    resources_registrarSteps, List.nil_append, List.append_nil]
  rw [candidates, ← settings_marked Field.block, ← settings_marked Field.item,
    ← blocks_members, ← items_members, blocks_resolve, items_resolve]
  simp only [List.flatMap_map, List.filter_map, resources_filledBlock, resources_filledItem,
    Function.comp_def]

theorem nameReport?_eq_none_iff :
    Generator.nameReport? c = none ↔
      Naming.checkNamespace c.space = .ok () ∧ Naming.checkQualified c.owner = .ok () := by
  unfold Generator.nameReport?
  cases Naming.checkNamespace c.space with
  | error flaw => simp
  | ok _ => cases Naming.checkQualified c.owner <;> simp

end

/-- After a run into memory each key holds the last candidate for it, and what it held before if
there is none. As many resources are counted as there are candidates. -/
theorem generate_candidates (g : Generator) (tree : FileTree) (c : Container) (memory : Memory)
    (hspace : Naming.checkNamespace c.space = .ok ())
    (howner : Naming.checkQualified c.owner = .ok ()) :
    let run := g.generate (Memory.sink tree) [c] memory
    (∀ package name, run.2.resources.get? package name =
      ((candidates g tree c).reverse.lookup (package, name)).or
        (memory.resources.get? package name)) ∧
    run.1.resources = (candidates g tree c).length := by
  have hplan := resources_plan g tree c ((nameReport?_eq_none_iff c).2 ⟨hspace, howner⟩)
  rw [generate_singleton, Generator.generateOne, ← hplan]
  constructor
  · intro package name
    exact get?_carryOut tree _ memory package name
  · exact resources_carryOut tree _ memory

/-! ## Two blocks of one id -/

/-- The first names a bundled template, which the container replaces by one of its own. -/
def twoOres : Container :=
  { owner := "mod.Ores", space := "m"
    defaults := { Defaults.none with block := .named "basic", blockArgs := ["stone"] }
    templates := [⟨"basic", "own.json", .block⟩]
    fields :=
      [.ofBlock "TIN" { BlockSettings.inheriting "ore" with
          model := .named "basic", modelArgs := ["tin"] },
        .ofBlock "LODE" (.inheriting "ore")]
    methods := [] }

def oreFiles : FileTree :=
  ⟨["w"], [(["w"], .folder), (["w", "own.json"], .file (.text "[$\x7bid\x7d of %s]"))],
    some .usual⟩

/-- The default settings and registrars without text. -/
def blankGenerator : Generator := ⟨.default, ⟨⟨[], 0⟩, "Registrar"⟩⟩

/-- No warnings of resources that are no JSON. -/
def uncheckedGenerator : Generator :=
  { blankGenerator with settings := { Settings.default with checksJson := false } }

theorem candidates_twoOres :
    candidates blankGenerator oreFiles twoOres =
      [(("assets.m.models.block", "ore.json"), "[ore of tin]"),
        (("assets.m.models.block", "ore.json"), "[ore of stone]")] := by
  decide +kernel

theorem generate_candidates_twoOres :
    Naming.checkNamespace twoOres.space = .ok () ∧
      Naming.checkQualified twoOres.owner = .ok () ∧
      let run := blankGenerator.generate (Memory.sink oreFiles) [twoOres]
        ⟨[(("assets.m.models.block", "tin.json"), "old")], []⟩
      run.2.resources.get? "assets.m.models.block" "ore.json" = some "[ore of stone]" ∧
        run.2.resources.get? "assets.m.models.block" "tin.json" = some "old" ∧
        run.1.resources = 2 := by
  have hspace : Naming.checkNamespace twoOres.space = .ok () := by decide
  have howner : Naming.checkQualified twoOres.owner = .ok () := by decide
  obtain ⟨hkeys, hcount⟩ := generate_candidates blankGenerator oreFiles twoOres
    ⟨[(("assets.m.models.block", "tin.json"), "old")], []⟩ hspace howner
  rw [candidates_twoOres] at hcount
  refine ⟨hspace, howner, ?_, ?_, hcount⟩
  · rw [hkeys, candidates_twoOres]
    decide
  · rw [hkeys, candidates_twoOres]
    decide

end Modforge
