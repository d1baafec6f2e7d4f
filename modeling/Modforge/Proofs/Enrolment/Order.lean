import Modforge.Proofs.Callback.Run
import Modforge.Proofs.Enrolment.Run
import Modforge.Proofs.Rejected
import Modforge.Proofs.Statement.Run

/-! # What a registrar does, in order -/

namespace Modforge

/-! ## Marks and methods -/

namespace Container

variable (c : Container)

/-- The method that is called in a role: of those declared in it, the first that fits. -/
def called (role : Role) : Option String :=
  (role.fitting (c.declaredIn role)).head?.map Method.name

/-- The blocks with a good id on the fields that fit, in order. -/
def goodBlocks : List (Marked BlockSettings) :=
  (fittingMarks Field.block .block c.fields).filter fun block =>
    Naming.isWordOf Naming.isIdChar block.settings.id

def goodItems : List (Marked ItemSettings) :=
  (fittingMarks Field.item .item c.fields).filter fun item =>
    Naming.isWordOf Naming.isIdChar item.settings.id

/-- Whether a block has a companion: as its flag says, or that of the container if it is not
set. -/
def hasCompanion (block : Marked BlockSettings) : Bool :=
  block.settings.companion = .on ||
    (block.settings.companion = .unset && c.defaults.companion)

end Container

namespace Enrolment

def ofBlock (block : Marked BlockSettings) : Enrolment := .block block.settings.id block.field

def ofCompanion (c : Container) (block : Marked BlockSettings) : Enrolment :=
  .companion block.settings.id block.field (groupFor block.settings.group c.defaults.group)

def ofItem (item : Marked ItemSettings) : Enrolment := .item item.settings.id item.field

def arguments (types : GameTypes) (c : Container) (e : Enrolment) : String :=
  "new " ++ types.identifier ++ "(\"" ++ c.space ++ "\", \"" ++ e.id ++ "\"), " ++
    e.value types c.owner

end Enrolment

def Registry.gameCall (types : GameTypes) (registry : Registry) : String :=
  types.registry ++ ".register(" ++ types.registry ++ "." ++ registry.constant ++ ", "

/-! ## Entries -/

section

variable (c : Container)

theorem get_callbacks (role : Role) : c.members.value.callbacks.get role = c.called role := by
  obtain ⟨hstate, -⟩ :=
    Callbacks.follows_foldlM (c := c) Callbacks.follows_start (Callbacks.declared c)
  rw [List.nil_append] at hstate
  rw [Container.called, ← methodsIn_declared]
  exact hstate.called role

theorem lastCall_eq :
    c.lastCall c.members.value.callbacks =
      (c.called .postRegister).toList.map fun method => c.owner ++ "." ++ method ++ "()" := by
  have hcalled : c.members.value.callbacks.postRegister = c.called .postRegister :=
    get_callbacks c .postRegister
  rw [Container.lastCall, hcalled, Option.toList_map]

theorem enrolments_eq :
    c.enrolments =
      c.goodBlocks.flatMap (fun block => .ofBlock block ::
        if c.hasCompanion block then [.ofCompanion c block] else []) ++
      c.goodItems.map .ofItem := by
  have hblock : c.blockEnrolments = fun field s => .ofBlock ⟨field, s⟩ ::
      if c.hasCompanion ⟨field, s⟩ then [.ofCompanion c ⟨field, s⟩] else [] := by
    funext field s
    simp [Container.blockEnrolments, Container.hasCompanion, Enrolment.ofBlock,
      Enrolment.ofCompanion]
  have hblocks := flatMap_marked Field.block (fun s => Naming.isWordOf Naming.isIdChar s.id)
    (fun block => Enrolment.ofBlock block ::
      if c.hasCompanion block then [Enrolment.ofCompanion c block] else [])
    (c.fields.filter (·.fits .block))
  have hitems := flatMap_marked Field.item (fun s => Naming.isWordOf Naming.isIdChar s.id)
    (fun item => [Enrolment.ofItem item]) (c.fields.filter (·.fits .item))
  rw [Container.goodBlocks, Container.goodItems, List.map_eq_flatMap, fittingMarks, fittingMarks,
    hblocks, hitems, Container.enrolments, hblock]
  rfl

theorem map_enrolments {α : Type} (f : Enrolment → α) :
    c.enrolments.map f =
      c.goodBlocks.flatMap (fun block => f (.ofBlock block) ::
        if c.hasCompanion block then [f (.ofCompanion c block)] else []) ++
      c.goodItems.map (fun item => f (.ofItem item)) := by
  rw [enrolments_eq, List.map_append, List.map_flatMap, List.map_map]
  simp only [List.map_cons, apply_ite (List.map f), List.map_nil]
  rfl

end

/-! ## Calls of the game -/

theorem Enrolment.statement_eq (types : GameTypes) (c : Container) (callbacks : Callbacks)
    (e : Enrolment) :
    e.statement types c callbacks =
      (match callbacks.get e.registry.role with
        | some method => c.owner ++ "." ++ method ++ "("
        | none => e.registry.gameCall types) ++ e.arguments types c ++ ")" := by
  apply String.toList_injective
  unfold Enrolment.statement Enrolment.arguments Registry.gameCall
  cases callbacks.get e.registry.role <;> simp

theorem prefix_of_cons_prefix {a : Char} {first second rest rest' : List Char} (hfirst : a ∉ first)
    (hsecond : a ∉ second) (h : first ++ a :: rest <+: second ++ a :: rest') :
    first = second ∧ rest <+: rest' := by
  induction first generalizing second with
  | nil =>
    cases second with
    | nil => exact ⟨rfl, (List.cons_prefix_cons.1 h).2⟩
    | cons d more => exact absurd (List.cons_prefix_cons.1 h).1 (by simp_all)
  | cons d more ih =>
    cases second with
    | nil => exact absurd (List.cons_prefix_cons.1 h).1.symm (by simp_all)
    | cons d' more' =>
      obtain ⟨rfl, hmore⟩ := List.cons_prefix_cons.1 h
      rw [List.mem_cons, not_or] at hfirst hsecond
      obtain ⟨rfl, hrest⟩ := ih hfirst.2 hsecond.2 hmore
      exact ⟨rfl, hrest⟩

theorem not_gameCall_of_member {types : GameTypes} (registry : Registry) {name rest : String}
    (hname : IsName name) (hparen : '(' ∉ types.registry.toList)
    (hrest : rest = ")" ∨ ∃ more, rest = "new " ++ more) :
    ¬ (registry.gameCall types).toList <+: (name ++ "(" ++ rest).toList := by
  intro h
  have hopen : '(' ∉ name.toList := fun hc => by
    rcases hname.char hc with hc | hc <;> cases hc
  have hblank : ' ' ∉ name.toList := fun hc => by
    rcases hname.char hc with hc | hc <;> cases hc
  have hcall : (registry.gameCall types).toList = (types.registry ++ ".register").toList ++
      '(' :: ((types.registry ++ "." ++ registry.constant).toList ++ [',', ' ']) := by
    simp [Registry.gameCall]
  have htext : (name ++ "(" ++ rest).toList = name.toList ++ '(' :: rest.toList := by simp
  rw [hcall, htext] at h
  obtain ⟨hsame, tail, hprefix⟩ := prefix_of_cons_prefix (by simp [hparen]) hopen h
  have hregistry : ' ' ∉ types.registry.toList := fun hc => hblank (by simp [← hsame, hc])
  have hfront : ' ' ∉ (types.registry ++ "." ++ registry.constant).toList := by
    cases registry <;> simp [Registry.constant, hregistry]
  have hlength : 5 ≤ (types.registry ++ "." ++ registry.constant).toList.length := by
    cases registry <;> simp [Registry.constant]
  generalize (types.registry ++ "." ++ registry.constant).toList = front at *
  rcases hrest with rfl | ⟨more, rfl⟩
  · have htotal : front.length + (tail.length + 1 + 1) = 1 := by
      simpa using congrArg List.length hprefix
    omega
  · -- the blank behind `new` would stand in the name of the registry
    have hfour := congrArg (·[3]?) hprefix
    simp only [List.append_assoc] at hfour
    rw [List.getElem?_append_left (by omega)] at hfour
    exact hfront (List.mem_of_getElem? (hfour.trans (by simp)))

theorem registry_eq_of_gameCall {types : GameTypes} {registry registry' : Registry}
    {rest : List Char}
    (h : (registry.gameCall types).toList <+: (registry'.gameCall types).toList ++ rest) :
    registry = registry' := by
  simp only [Registry.gameCall, String.toList_append, List.append_assoc,
    List.prefix_append_right_inj] at h
  cases registry <;> cases registry' <;> simp_all [Registry.constant]

/-! ## Statements in order -/

section

variable (g : Generator) (tree : FileTree) (c : Container)

theorem not_gameCall_of_called {registry : Registry}
    (howner : Naming.checkQualified c.owner = .ok ())
    (hcalled : c.called registry.role ≠ none)
    (hparen : '(' ∉ g.settings.types.registry.toList) {text : String}
    (h : text ∈ g.statements c (g.resolve tree c).value) :
    ¬ (registry.gameCall g.settings.types).toList <+: text.toList := by
  have hmember {role : Role} {method : String} (hmethod : c.called role = some method) :
      IsName (c.owner ++ "." ++ method) :=
    (isMember_of_checked howner
      (areIdentifiers_find c role method (by rw [← hmethod]; exact get_callbacks c role))).1
  rw [statements_resolve, List.mem_append, List.mem_map] at h
  rcases h with ⟨e, -, rfl⟩ | h
  · rw [Enrolment.statement_eq, get_callbacks]
    cases hmethod : c.called e.registry.role with
    | some method =>
      have hrest : e.arguments g.settings.types c ++ ")" = ")" ∨
          ∃ more, e.arguments g.settings.types c ++ ")" = "new " ++ more :=
        .inr ⟨_, by simp only [Enrolment.arguments, String.append_assoc]; rfl⟩
      have hnot := not_gameCall_of_member registry (hmember hmethod) hparen hrest
      simpa only [String.append_assoc] using hnot
    | none =>
      have hne : e.registry ≠ registry := fun he => hcalled (he ▸ hmethod)
      exact fun hprefix => hne (registry_eq_of_gameCall (by simpa using hprefix)).symm
  · rw [lastCall_eq, List.mem_map] at h
    obtain ⟨method, hmethod, rfl⟩ := h
    have hnot := not_gameCall_of_member registry (hmember (Option.mem_toList.1 hmethod)) hparen
      (.inl rfl)
    rwa [String.append_assoc] at hnot

theorem length_goodMarks :
    (g.resolve tree c).value.blocks.length = c.goodBlocks.length ∧
      (g.resolve tree c).value.items.length = c.goodItems.length := by
  rw [blocks_resolve, items_resolve, List.length_map, List.length_map, blocks_members,
    items_members]
  exact ⟨rfl, rfl⟩

end

theorem length_flatMap_cons_if {α β : Type} (first second : α → β) (holds : α → Bool)
    (items : List α) :
    (items.flatMap fun a => first a :: if holds a then [second a] else []).length =
      items.length + (items.filter holds).length := by
  induction items with
  | nil => rfl
  | cons a rest ih =>
    rw [List.flatMap_cons, List.length_append, ih, List.filter_cons]
    cases holds a <;> simp <;> omega

theorem groupFor_eq_some_iff {own default : GroupChoice} {group : StaticField} :
    groupFor own default = some group ↔
      group.isGood = true ∧ (own = .field group ∨ own = .inherit ∧ default = .field group) := by
  have hfield (f : StaticField) : (if f.isGood then some f else none) = some group ↔
      group.isGood = true ∧ f = group := by
    constructor
    · intro h
      split at h
      · next hgood =>
        obtain rfl := Option.some.inj h
        exact ⟨hgood, rfl⟩
      · cases h
    · rintro ⟨hgood, rfl⟩
      exact if_pos hgood
  cases own <;> cases default <;> simp [groupFor, hfield]

/-- A container that is processed has its statements in the order of its declaration. Each block
with a good id is registered once and, just if it has a companion, that item next; then each item
once; then there is one call of the method for it, if there is one. Where a method is called in
the role of a registry, all entries of the registry go by it and none by the registry of the game;
otherwise all go by the registry of the game. The registrar is stored once, after all resources,
if there are statements and it can be rendered. -/
theorem generateOne_registers {σ : Type} (g : Generator) (sink : Sink σ) (c : Container)
    (state : σ) (hname : Generator.nameReport? c = none) :
    let pass := g.generateOne sink.logged c (state, [])
    let types := g.settings.types
    let statements := g.statements c (g.resolve (sink.files state) c).value
    let statement := Enrolment.statement types c c.members.value.callbacks
    statements =
      c.goodBlocks.flatMap (fun block => statement (.ofBlock block) ::
        if c.hasCompanion block then [statement (.ofCompanion c block)] else []) ++
      c.goodItems.map (fun item => statement (.ofItem item)) ++
      (c.called .postRegister).toList.map (fun method => c.owner ++ "." ++ method ++ "()") ∧
    (pass.1.blocks = c.goodBlocks.length ∧ pass.1.items = c.goodItems.length ∧
      statements.length = pass.1.blocks + (c.goodBlocks.filter c.hasCompanion).length +
        pass.1.items + if c.called .postRegister = none then 0 else 1) ∧
    (∀ e : Enrolment,
      (∀ method, c.called e.registry.role = some method →
        statement e = c.owner ++ "." ++ method ++ "(" ++ e.arguments types c ++ ")") ∧
      (c.called e.registry.role = none →
        statement e = e.registry.gameCall types ++ e.arguments types c ++ ")")) ∧
    (∀ registry, c.called registry.role ≠ none → '(' ∉ types.registry.toList →
      ∀ text ∈ statements, ¬ (Registry.gameCall types registry).toList <+: text.toList) ∧
    (∀ block group, Enrolment.ofCompanion c block =
        .companion block.settings.id block.field (some group) ↔
      group.isGood = true ∧ (block.settings.group = .field group ∨
        block.settings.group = .inherit ∧ c.defaults.group = .field group)) ∧
    pass.2.2 = (candidates g (sink.files state) c).map Request.ofCandidate ++
      if statements = [] then []
      else ((g.registrar.render c statements).toOption.map fun source =>
        .source source.package source.typeName source.contents).toList := by
  intro pass types statements statement
  have hstatements : statements = c.enrolments.map statement ++
      c.lastCall c.members.value.callbacks := statements_resolve g (sink.files state) c
  have hpass : pass = _ := generateOne_of_named g sink.logged c (state, []) hname
  obtain ⟨hblocks, hitems⟩ := length_goodMarks g (sink.files state) c
  rw [map_enrolments, lastCall_eq] at hstatements
  have hsources : pass.2.2 = _ := log_generateOne g sink c state
  rw [requests_plan g _ c hname] at hsources
  have hcounts : pass.1.blocks = c.goodBlocks.length ∧ pass.1.items = c.goodItems.length :=
    ⟨hpass ▸ hblocks, hpass ▸ hitems⟩
  refine ⟨hstatements, ⟨hcounts.1, hcounts.2, ?_⟩, fun e => ⟨?_, ?_⟩, ?_, ?_, ?_⟩
  · have hlast : (c.called .postRegister).toList.length =
        if c.called .postRegister = none then 0 else 1 := by
      cases c.called .postRegister <;> rfl
    rw [hstatements, hcounts.1, hcounts.2, ← hlast]
    simp only [List.length_append, List.length_map, length_flatMap_cons_if]
  · intro method hmethod
    rw [← get_callbacks] at hmethod
    simp only [statement, Enrolment.statement_eq, hmethod]
  · intro hnone
    rw [← get_callbacks] at hnone
    simp only [statement, Enrolment.statement_eq, hnone]
  · intro registry hcalled hparen text htext
    exact not_gameCall_of_called g (sink.files state) c ((nameReport?_eq_none_iff c).1 hname).2
      hcalled hparen htext
  · intro block group
    simp [Enrolment.ofCompanion, groupFor_eq_some_iff]
  · rw [hsources, registrarCall?]
    split
    · rfl
    · rw [Option.map_map]
      rfl

/-- A block with an item in a group and one without, another item, and methods for items and for
the end. -/
def oresByMethod : Container :=
  { Container.empty "mod.Ores" "m" with
    fields :=
      [.ofBlock "TIN" { BlockSettings.inheriting "tin" with
          companion := .on, group := .field ⟨"mod.Tabs", "ORES"⟩ },
        .ofItem "GEM" (.inheriting "gem"), .ofBlock "ZINC" (.inheriting "zinc")]
    methods := [.ofRole "onItem" .itemRegistry, .ofRole "done" .postRegister] }

theorem generateOne_registers_oresByMethod :
    Generator.nameReport? oresByMethod = none ∧
      oresByMethod.called .itemRegistry ≠ none ∧
      let types := blankGenerator.settings.types
      let statements := blankGenerator.statements oresByMethod
        (blankGenerator.resolve oreFiles oresByMethod).value
      '(' ∉ types.registry.toList ∧
      statements =
        ["net.minecraft.util.registry.Registry.register(" ++
            "net.minecraft.util.registry.Registry.BLOCK, " ++
            "new net.minecraft.util.Identifier(\"m\", \"tin\"), mod.Ores.TIN)",
          "mod.Ores.onItem(new net.minecraft.util.Identifier(\"m\", \"tin\"), " ++
            "new net.minecraft.item.BlockItem(mod.Ores.TIN, " ++
            "new net.minecraft.item.Item.Settings().group(mod.Tabs.ORES)))",
          "net.minecraft.util.registry.Registry.register(" ++
            "net.minecraft.util.registry.Registry.BLOCK, " ++
            "new net.minecraft.util.Identifier(\"m\", \"zinc\"), mod.Ores.ZINC)",
          "mod.Ores.onItem(new net.minecraft.util.Identifier(\"m\", \"gem\"), mod.Ores.GEM)",
          "mod.Ores.done()"] ∧
      ∀ text ∈ statements, ¬ (Registry.gameCall types .item).toList <+: text.toList := by
  have hname : Generator.nameReport? oresByMethod = none := by decide
  have hcalled : oresByMethod.called .itemRegistry ≠ none := by decide
  have hparen : '(' ∉ blankGenerator.settings.types.registry.toList := by decide
  obtain ⟨horder, -, -, hgame, -⟩ := generateOne_registers blankGenerator (Memory.sink oreFiles)
    oresByMethod .empty hname
  exact ⟨hname, hcalled, hparen, horder.trans (by decide +kernel), hgame .item hcalled hparen⟩

end Modforge
