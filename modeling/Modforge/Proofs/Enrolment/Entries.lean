import Mathlib.Data.List.Perm.Subperm
import Modforge.Proofs.Candidate.Calls
import Modforge.Proofs.Enrolment.Spec

/-! # Entries of the registries -/

namespace Modforge

/-! ## Entities -/

def BlockEntity.enrolments (b : BlockEntity) : List Enrolment :=
  .block b.id b.field :: if b.companion then [.companion b.id b.field b.group] else []

def ItemEntity.enrolment (i : ItemEntity) : Enrolment := .item i.id i.field

theorem StaticField.check_eq_ok_iff (f : StaticField) : f.check = .ok () ↔ f.isGood = true := by
  unfold StaticField.check StaticField.isGood
  rw [Bool.and_eq_true, ← Naming.checkQualified_eq_ok_iff, ← Naming.checkIdentifier_eq_ok_iff]
  cases Naming.checkQualified f.owner <;> simp

theorem StaticField.value_accepted (f : StaticField) (label subject : String) :
    (f.accepted label subject).value = if f.isGood then some f else none := by
  have hvalid := (value_check f.check fun flaw =>
    Diagnostic.configuration subject (label ++ ": " ++ flaw.message)).trans f.check_eq_ok_iff
  simp only [StaticField.accepted, Reported.value_bind, Reported.value_pure, hvalid]

theorem value_chooseGroup (own default : GroupChoice) (owner subject : String) :
    (chooseGroup own (defaultGroup default owner).value subject).value = groupFor own default := by
  cases own with
  | inherit =>
    cases default with
    | inherit => rfl
    | void => rfl
    | field group => exact group.value_accepted _ _
  | void => cases default <;> rfl
  | field group => exact group.value_accepted _ _

section

variable (g : Generator) (tree : FileTree) (c : Container)

theorem enrolments_fill (block : Marked BlockSettings) (subject : String) :
    (BlockEntity.fill c.space block (resolvedDefaults g tree c) (g.store tree c).value
      subject).value.enrolments = c.blockEnrolments block.field block.settings := by
  have hgroup : (resolvedDefaults g tree c).group = (defaultGroup c.defaults.group c.owner).value :=
    rfl
  have hcompanion : (resolvedDefaults g tree c).companion = c.defaults.companion := rfl
  rw [value_fill]
  simp only [BlockEntity.enrolments, Container.blockEnrolments, hgroup, hcompanion,
    value_chooseGroup, CompanionChoice.above_eq_true_iff]

theorem enrolments_blocks :
    (g.resolve tree c).value.blocks.flatMap BlockEntity.enrolments =
      (c.fields.filter (·.fits .block)).flatMap fun field =>
        (field.block.toList.filter fun s => Naming.isWordOf Naming.isIdChar s.id).flatMap
          (c.blockEnrolments field.name) := by
  rw [blocks_resolve, blocks_members, List.flatMap_map]
  simp only [enrolments_fill]
  exact flatMap_marked Field.block (fun s => Naming.isWordOf Naming.isIdChar s.id) _ _

theorem enrolments_items :
    (g.resolve tree c).value.items.map ItemEntity.enrolment =
      (c.fields.filter (·.fits .item)).flatMap fun field =>
        (field.item.toList.filter fun s => Naming.isWordOf Naming.isIdChar s.id).flatMap
          fun s => [.item s.id field.name] := by
  rw [items_resolve, items_members, List.map_map, List.map_eq_flatMap]
  exact flatMap_marked Field.item (fun s => Naming.isWordOf Naming.isIdChar s.id)
    (fun item => [Enrolment.item item.settings.id item.field]) _

theorem enrolments_resolve :
    (g.resolve tree c).value.blocks.flatMap BlockEntity.enrolments ++
      (g.resolve tree c).value.items.map ItemEntity.enrolment = c.enrolments := by
  rw [enrolments_blocks, enrolments_items]
  rfl

end

/-! ## Statements -/

section

variable (s : StatementContext)

theorem register_eq_statement (e : Enrolment) {value : String}
    (h : value = e.value s.types s.container.owner) :
    s.register (s.callbacks.get e.registry.role) e.registry.constant e.id value =
      e.statement s.types s.container s.callbacks := by
  subst h
  unfold StatementContext.register Enrolment.statement
  cases s.callbacks.get e.registry.role <;> rfl

theorem companion_eq_value (b : BlockEntity) :
    s.companion b =
      (Enrolment.companion b.id b.field b.group).value s.types s.container.owner := by
  unfold StatementContext.companion Enrolment.value
  cases b.group with
  | none =>
    apply String.toList_injective
    simp [StatementContext.member]
  | some group =>
    apply String.toList_injective
    simp [StatementContext.member, StaticField.shown]

theorem ofBlock_eq_map (b : BlockEntity) :
    s.ofBlock b = b.enrolments.map (Enrolment.statement s.types s.container s.callbacks) := by
  have hblock := register_eq_statement s (.block b.id b.field) rfl
  have hcompanion := register_eq_statement s (.companion b.id b.field b.group)
    (companion_eq_value s b)
  rw [BlockEntity.enrolments, List.map_cons, ← hblock, StatementContext.ofBlock]
  split
  · rw [List.map_singleton, ← hcompanion]
    rfl
  · rfl

theorem all_eq_map (blocks : List BlockEntity) (items : List ItemEntity) :
    s.all blocks items =
      (blocks.flatMap BlockEntity.enrolments ++ items.map ItemEntity.enrolment).map
        (Enrolment.statement s.types s.container s.callbacks) ++
      s.container.lastCall s.callbacks := by
  have hblock : s.ofBlock = fun b =>
      b.enrolments.map (Enrolment.statement s.types s.container s.callbacks) :=
    funext (ofBlock_eq_map s)
  have hitem : s.ofItem = Enrolment.statement s.types s.container s.callbacks ∘
      ItemEntity.enrolment :=
    funext fun i => register_eq_statement s i.enrolment rfl
  rw [StatementContext.all, List.map_append, List.map_flatMap, List.map_map, hblock, hitem]
  rfl

end

theorem statements_resolve (g : Generator) (tree : FileTree) (c : Container) :
    g.statements c (g.resolve tree c).value =
      c.enrolments.map (Enrolment.statement g.settings.types c c.members.value.callbacks) ++
        c.lastCall c.members.value.callbacks := by
  have hcallbacks : (g.resolve tree c).value.callbacks = c.members.value.callbacks := rfl
  rw [Generator.statements, all_eq_map, enrolments_resolve, hcallbacks]

/-! ## Registrations -/

def Enrolment.registration (e : Enrolment) : Registration := ⟨e.registry.name, e.id, e.field⟩

theorem registrations_resolve (g : Generator) (tree : FileTree) (c : Container) :
    Registration.all (g.resolve tree c).value.blocks (g.resolve tree c).value.items =
      c.enrolments.map Enrolment.registration := by
  have hblock : Registration.ofBlock = fun b => b.enrolments.map Enrolment.registration := by
    funext b
    rw [BlockEntity.enrolments, Registration.ofBlock]
    split <;> rfl
  rw [← enrolments_resolve g tree, List.map_append, List.map_flatMap, List.map_map,
    Registration.all, hblock]
  rfl

/-! ## Resources -/

theorem registry_eq_of_mem_packages {registry registry' : Registry} {space package : String}
    (h : package ∈ registry.packages space) (h' : package ∈ registry'.packages space) :
    registry = registry' := by
  cases registry <;> cases registry' <;>
    simp_all [Registry.packages, ← String.toList_inj]

theorem subperm_flatMap {α β : Type} {f g : α → List β} (items : List α)
    (h : ∀ a ∈ items, (f a).Subperm (g a)) : (items.flatMap f).Subperm (items.flatMap g) := by
  induction items with
  | nil => exact .refl _
  | cons a rest ih =>
    obtain ⟨ha, hrest⟩ := List.forall_mem_cons.1 h
    exact ha.append (ih hrest)

theorem key_sublist {space id : String} {category : Category} {template : Option Template}
    {args : Template → Option (List String)} :
    ((candidate? space id category template args).toList.map Prod.fst).Sublist
      [(category.package space, id ++ ".json")] := by
  cases h : candidate? space id category template args with
  | none => exact List.nil_sublist _
  | some candidate =>
    rw [Option.toList_some, List.map_singleton, key_of_candidate h]

section

variable (g : Generator) (tree : FileTree) (c : Container)

theorem keys_blockCandidates (field : String) (s : BlockSettings) :
    ((blockCandidates g tree c s).map Prod.fst).Subperm
      ((c.blockEnrolments field s).flatMap (Enrolment.keys c.space)) := by
  simp only [blockCandidates, Container.blockEnrolments, List.flatMap_cons, List.flatMap_nil,
    List.append_nil, List.map_append]
  split
  · -- the loot table, which is a block's, comes after the model of the companion
    have hswap : ((Enrolment.block s.id field).keys c.space ++
        (Enrolment.companion s.id field (groupFor s.group c.defaults.group)).keys c.space).Perm
        ([(Category.blockModel.package c.space, s.id ++ ".json")] ++
          ([(Category.blockState.package c.space, s.id ++ ".json")] ++
            ([(Category.blockItem.package c.space, s.id ++ ".json")] ++
              [(Category.lootTable.package c.space, s.id ++ ".json")]))) :=
      ((List.Perm.swap _ _ []).cons _).cons _
    rw [List.flatMap_singleton]
    refine List.Subperm.trans (List.Sublist.subperm ?_) hswap.symm.subperm
    exact key_sublist.append (key_sublist.append (key_sublist.append key_sublist))
  · refine List.Sublist.subperm ?_
    exact key_sublist.append (key_sublist.append key_sublist)

theorem keys_itemCandidates (field : String) (s : ItemSettings) :
    ((itemCandidates g tree c s).map Prod.fst).Subperm
      ((Enrolment.item s.id field).keys c.space) :=
  key_sublist.subperm

theorem keys_candidates :
    ((candidates g tree c).map Prod.fst).Subperm
      (c.enrolments.flatMap (Enrolment.keys c.space)) := by
  rw [candidates, Container.enrolments, List.map_append, List.flatMap_append]
  simp only [flatMap_settings, List.map_flatMap, List.flatMap_assoc]
  refine List.Subperm.append ?_ ?_
  · refine subperm_flatMap _ fun field _ => subperm_flatMap _ fun s _ => ?_
    exact keys_blockCandidates g tree c field.name s
  · refine subperm_flatMap _ fun field _ => subperm_flatMap _ fun s _ => ?_
    rw [List.flatMap_singleton]
    exact keys_itemCandidates g tree c field.name s

end

/-- A block with an item, and another item in the same package. -/
def oreAndGem : Container :=
  { Container.empty "mod.Ores" "m" with
    defaults := { Defaults.none with
      block := .named "own", blockArgs := ["stone"], companion := true
      blockItem := .named "own", blockItemArgs := ["stone"], item := .named "own"
      itemArgs := ["dust"] }
    templates := [⟨"own", "own.json", .block⟩, ⟨"own", "own.json", .item⟩]
    fields := [.ofBlock "ORE" (.inheriting "ore"), .ofItem "GEM" (.inheriting "gem")] }

end Modforge
