import Mathlib.Data.List.Nodup
import Modforge.Proofs.Enrolment.Entries
import Modforge.Proofs.Inlined.Run
import Modforge.Proofs.Repeated

/-! # No resource takes the place of another -/

namespace Modforge

/-! ## Entries that come second -/

theorem nodup_enrolments (g : Generator) (tree : FileTree) (c : Container)
    (h : ∀ r first : Registration, r.report c first ∉ (g.resolve tree c).reports) :
    (c.enrolments.map fun e => (e.registry, e.id)).Nodup := by
  have hnone : Registration.repeated [] (c.enrolments.map Enrolment.registration) = [] := by
    rw [← registrations_resolve g tree, List.eq_nil_iff_forall_not_mem]
    rintro ⟨r, first⟩ hmem
    refine h r first ?_
    rw [reports_resolve]
    exact List.mem_append_right _ (List.mem_map.2 ⟨(r, first), hmem, rfl⟩)
  rw [Registration.repeated_eq_nil_iff, List.map_map] at hnone
  have hkey : Registration.key ∘ Enrolment.registration =
      (fun k : Registry × String => (k.1.name, k.2)) ∘ fun e => (e.registry, e.id) := rfl
  rw [hkey, ← List.map_map] at hnone
  exact hnone.of_map _

theorem nodup_idsIn {c : Container} (h : (c.enrolments.map fun e => (e.registry, e.id)).Nodup)
    (registry : Registry) : (c.idsIn registry).Nodup := by
  have hpair : ((c.idsIn registry).map fun id => (registry, id)) =
      (c.enrolments.filter (·.registry = registry)).map fun e => (e.registry, e.id) := by
    rw [Container.idsIn, List.map_map]
    refine List.map_congr_left fun e he => ?_
    have hregistry : e.registry = registry := by simpa using (List.mem_filter.1 he).2
    rw [hregistry]
    rfl
  refine List.Nodup.of_map (fun id => (registry, id)) ?_
  rw [hpair]
  exact h.sublist (List.filter_sublist.map _)

/-! ## Keys -/

theorem nodup_packages (registry : Registry) (space : String) :
    (registry.packages space).Nodup := by
  cases registry <;> simp [Registry.packages, ← String.toList_inj]

theorem nodup_flatMap_keys {entries : List Enrolment} (space : String)
    (h : (entries.map fun e => (e.registry, e.id)).Nodup) :
    (entries.flatMap (Enrolment.keys space)).Nodup := by
  rw [List.nodup_flatMap]
  constructor
  · intro e _
    refine (nodup_packages e.registry space).map ?_
    intro package package' heq
    exact congrArg Prod.fst heq
  · refine (List.pairwise_map.1 h).imp fun {e e'} hne key hkey hkey' => hne ?_
    obtain ⟨package, hpackage, rfl⟩ := List.mem_map.1 hkey
    obtain ⟨package', hpackage', hsame⟩ := List.mem_map.1 hkey'
    obtain ⟨rfl, hfile⟩ := Prod.mk.inj hsame
    have hregistry := registry_eq_of_mem_packages hpackage hpackage'
    have hid : e'.id = e.id := (String.append_left_inj _).1 hfile
    rw [hregistry, hid]

/-! ## Memory -/

theorem resources_put_of_fresh {memory : Memory} {package name : String} (contents : String)
    (h : (package, name) ∉ memory.resources.map Prod.fst) :
    (memory.put (.resource package name contents)).resources =
      ((package, name), contents) :: memory.resources := by
  refine congrArg (List.cons _) (List.filter_eq_self.2 fun entry hentry => ?_)
  exact bne_iff_ne.2 fun heq => h (heq ▸ List.mem_map_of_mem hentry)

theorem length_resources_carryOut (tree : FileTree) (steps : List Step) (memory : Memory)
    (h : ((resources steps).map Prod.fst ++ memory.resources.map Prod.fst).Nodup) :
    (carryOut (Memory.sink tree) steps memory).2.resources.length =
      (resources steps).length + memory.resources.length := by
  induction steps generalizing memory with
  | nil => simp [carryOut, resources, requests]
  | cons step rest ih =>
    cases step with
    | report d => exact ih memory h
    | store request subject =>
      cases request with
      | source package name contents => exact ih _ h
      | resource package name contents =>
        let next := memory.put (.resource package name contents)
        -- the key moves from the resources to come into the memory
        have hkeys : ((package, name) ::
            ((resources rest).map Prod.fst ++ memory.resources.map Prod.fst)).Nodup := h
        obtain ⟨hnew, -⟩ := List.nodup_cons.1 hkeys
        have hput : next.resources = ((package, name), contents) :: memory.resources :=
          resources_put_of_fresh contents fun hold => hnew (List.mem_append_right _ hold)
        have hnext : ((resources rest).map Prod.fst ++ next.resources.map Prod.fst).Nodup := by
          rw [hput, List.map_cons, List.nodup_middle]
          exact hkeys
        calc (carryOut (Memory.sink tree) rest next).2.resources.length
          _ = (resources rest).length + next.resources.length := ih next hnext
          _ = (resources rest).length + 1 + memory.resources.length := by
            rw [hput, List.length_cons]
            omega

theorem resources_generateOne_memory (g : Generator) (tree : FileTree) (c : Container)
    (h : ((resources (g.plan tree c).steps).map Prod.fst).Nodup) :
    (g.generateOne (Memory.sink tree) c .empty).1.resources =
      (g.generateOne (Memory.sink tree) c .empty).2.resources.length := by
  have hlength := length_resources_carryOut tree (g.plan tree c).steps .empty
    (show (_ ++ []).Nodup by rwa [List.append_nil])
  rw [Generator.generateOne]
  exact (resources_carryOut tree _ .empty).trans hlength.symm

/-! ## Containers -/

variable {σ : Type}

/-- If a container is processed and no entry is reported to come second, its resources have keys
of their own, so a memory that was empty keeps all of them. The statements for its registrar
then enter no id of a registry twice. -/
theorem generateOne_distinct (g : Generator) (sink : Sink σ) (c : Container) (state : σ)
    (hname : Generator.nameReport? c = none) :
    let pass := g.generateOne sink.logged c (state, [])
    let r := (g.resolve (sink.files state) c).value
    (∀ second first : Registration, second.report c first ∉ pass.1.diagnostics) →
      ((pass.2.2.filterMap Request.resource?).map Prod.fst).Nodup ∧
      (∀ tree, (g.generateOne (Memory.sink tree) c .empty).1.resources =
        (g.generateOne (Memory.sink tree) c .empty).2.resources.length) ∧
      g.statements c r =
        c.enrolments.map (Enrolment.statement g.settings.types c r.callbacks) ++
          c.lastCall r.callbacks ∧
      ∀ registry, (c.idsIn registry).Nodup := by
  intro pass r h
  have hids : (c.enrolments.map fun e => (e.registry, e.id)).Nodup := by
    refine nodup_enrolments g (sink.files state) c fun r first hmem => h r first ?_
    rw [show pass = _ from generateOne_of_named g sink.logged c (state, []) hname]
    exact List.mem_append_left _ hmem
  have hkeys (tree : FileTree) : ((resources (g.plan tree c).steps).map Prod.fst).Nodup := by
    rw [resources_plan g tree c hname]
    obtain ⟨keys, hperm, hsublist⟩ := keys_candidates g tree c
    exact hperm.nodup_iff.1 ((nodup_flatMap_keys c.space hids).sublist hsublist)
  refine ⟨?_, fun tree => resources_generateOne_memory g tree c (hkeys tree),
    statements_resolve g (sink.files state) c, nodup_idsIn hids⟩
  rw [show pass.2.2 = _ from log_generateOne g sink c state]
  exact hkeys (sink.files state)

theorem generateOne_distinct_oreAndGem :
    Generator.nameReport? oreAndGem = none ∧
      let pass := uncheckedGenerator.generateOne (Memory.sink oreFiles).logged oreAndGem
        (.empty, [])
      (∀ second first : Registration, second.report oreAndGem first ∉ pass.1.diagnostics) ∧
        ((pass.2.2.filterMap Request.resource?).map Prod.fst).Nodup ∧
        (uncheckedGenerator.generateOne (Memory.sink oreFiles) oreAndGem
          .empty).2.resources.length = 3 ∧
        (oreAndGem.idsIn .item).Nodup ∧ oreAndGem.idsIn .item = ["ore", "gem"] := by
  have hname : Generator.nameReport? oreAndGem = none := by decide
  have hquiet : (uncheckedGenerator.generateOne (Memory.sink oreFiles).logged oreAndGem
      (.empty, [])).1.diagnostics = [] := by
    decide +kernel
  have hnone (second first : Registration) : second.report oreAndGem first ∉
      (uncheckedGenerator.generateOne (Memory.sink oreFiles).logged oreAndGem
        (.empty, [])).1.diagnostics := by
    rw [hquiet]
    exact List.not_mem_nil
  obtain ⟨hkeys, hcount, -, hids⟩ := generateOne_distinct uncheckedGenerator
    (Memory.sink oreFiles) oreAndGem .empty hname hnone
  refine ⟨hname, hnone, hkeys, ?_, hids .item, by decide +kernel⟩
  rw [← hcount oreFiles]
  decide +kernel

end Modforge
