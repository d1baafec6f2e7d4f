import Mathlib.Data.Finset.Card
import Mathlib.Data.List.Dedup
import Modforge.Entity.Duplicate
import Modforge.Proofs.Enrolment.Spec
import Modforge.Proofs.Preceded

/-! # Ids that are reported as repeated -/

namespace Modforge

/-! ## What is said of a registry -/

/-- The ids that are entered into a registry with their fields, in order. -/
def Registry.entries (blocks : List BlockEntity) (items : List ItemEntity) :
    Registry → List (String × String)
  | .block => blocks.map fun b => (b.id, b.field)
  | .item =>
    ((blocks.filter (·.companion)).map fun b => (b.id, b.field)) ++
      items.map fun i => (i.id, i.field)

/-- The id and the field of each entry whose id stands before it, and the first field of the id. -/
def latecomers (entries : List (String × String)) : List (String × String × String) :=
  (preceded entries).filterMap fun (before, id, field) =>
    (before.lookup id).map fun first => (id, field, first)

def Registry.notice (c : Container) (registry : Registry) :
    String × String × String → Diagnostic
  | (id, field, first) =>
    { severity := .warning
      concern := .configuration
      subject := some (c.owner ++ "." ++ field)
      message := registry.name ++ " id '" ++ c.space ++ ":" ++ id ++ "' is also registered by " ++
        first }

/-! ## One more entry -/

theorem latecomers_concat (entries : List (String × String)) (id field : String) :
    latecomers (entries ++ [(id, field)]) =
      latecomers entries ++ ((entries.lookup id).map fun first => (id, field, first)).toList := by
  rw [latecomers, preceded_concat, List.filterMap_append]
  rfl

example : latecomers [("tin", "A"), ("tin", "B"), ("zinc", "C"), ("tin", "D")] =
    [("tin", "B", "A"), ("tin", "D", "A")] := by decide

theorem length_latecomers (entries : List (String × String)) :
    (latecomers entries).length + (entries.map Prod.fst).dedup.length = entries.length := by
  simp only [← List.card_toFinset]
  induction entries using List.reverseRecOn with
  | nil => rfl
  | append_singleton entries entry ih =>
    obtain ⟨id, field⟩ := entry
    have hids : ((entries ++ [(id, field)]).map Prod.fst).toFinset =
        insert id (entries.map Prod.fst).toFinset := by
      ext other
      simp
    have hmem : (entries.lookup id).isSome = true ↔ id ∈ (entries.map Prod.fst).toFinset := by
      rw [Keyed.isSome_lookup_iff, List.mem_toFinset]
    rw [latecomers_concat, hids, List.length_append, List.length_append, List.length_singleton]
    cases h : entries.lookup id with
    | none =>
      have hnew : id ∉ (entries.map Prod.fst).toFinset := by simp [← hmem, h]
      rw [Finset.card_insert_of_notMem hnew, Option.map_none, Option.toList_none, List.length_nil]
      omega
    | some first =>
      have hold : id ∈ (entries.map Prod.fst).toFinset := by simp [← hmem, h]
      rw [Finset.insert_eq_of_mem hold, Option.map_some, Option.toList_some, List.length_singleton]
      omega

theorem latecomers_eq_nil_iff {entries : List (String × String)} :
    latecomers entries = [] ↔ (entries.map Prod.fst).Nodup := by
  have hlength := length_latecomers entries
  rw [← List.length_eq_zero_iff]
  constructor
  · intro hnone
    have hsame : (entries.map Prod.fst).dedup = entries.map Prod.fst :=
      (List.dedup_sublist _).eq_of_length (by rw [List.length_map]; omega)
    rw [← hsame]
    exact List.nodup_dedup _
  · intro hnodup
    rw [hnodup.dedup, List.length_map] at hlength
    omega

namespace Registration

/-! ## The pass over all entries -/

def noted (seen : List ((String × String) × Registration)) (rs : List Registration) :
    List ((String × String) × Registration) :=
  rs.foldl (fun seen r => (note seen r).2) seen

theorem repeated_append (seen : List ((String × String) × Registration))
    (rs more : List Registration) :
    repeated seen (rs ++ more) = repeated seen rs ++ repeated (noted seen rs) more := by
  induction rs generalizing seen with
  | nil => rfl
  | cons r rest ih => simp [repeated, noted, ih]

theorem lookup_noted (rs : List Registration) (key : String × String) :
    (noted [] rs).lookup key = rs.find? (·.key = key) := by
  induction rs using List.reverseRecOn with
  | nil => rfl
  | append_singleton rs r ih =>
    have hstep : noted [] (rs ++ [r]) = (note (noted [] rs) r).2 := by
      simp [noted]
    rw [hstep, note, List.find?_append, ← ih]
    cases hr : (noted [] rs).lookup r.key with
    | some first =>
      by_cases hkey : r.key = key
      · subst hkey; simp [hr]
      · simp [hkey]
    | none =>
      by_cases hkey : r.key = key
      · subst hkey; simp [hr]
      · have hother : (key == r.key) = false := by simp [Ne.symm hkey]
        simp [hkey, List.lookup_cons, hother]

theorem repeated_concat (rs : List Registration) (r : Registration) :
    repeated [] (rs ++ [r]) =
      repeated [] rs ++ ((rs.find? (·.key = r.key)).map fun first => (r, first)).toList := by
  rw [repeated_append, ← lookup_noted]
  congr 1
  unfold repeated note
  cases (noted [] rs).lookup r.key <;> rfl

theorem repeated_eq_nil_iff (rs : List Registration) :
    repeated [] rs = [] ↔ (rs.map key).Nodup := by
  induction rs using List.reverseRecOn with
  | nil => simp [repeated]
  | append_singleton rs r ih =>
    have hfirst : rs.find? (·.key = r.key) = none ↔ r.key ∉ rs.map key := by
      simp [List.find?_eq_none]
    rw [repeated_concat, List.append_eq_nil_iff, ih, List.map_append, List.map_singleton,
      List.nodup_append_comm, List.singleton_append, List.nodup_cons, ← hfirst]
    cases rs.find? (·.key = r.key) <;> simp

/-! ## One registry -/

def idsWithFields (registry : String) (rs : List Registration) : List (String × String) :=
  (rs.filter (·.registry = registry)).map fun r => (r.id, r.field)

theorem lookup_idsWithFields (rs : List Registration) (registry id : String) :
    (idsWithFields registry rs).lookup id =
      (rs.find? (·.key = (registry, id))).map (·.field) := by
  induction rs with
  | nil => rfl
  | cons r rest ih =>
    rw [idsWithFields, List.filter_cons]
    by_cases hregistry : r.registry = registry
    · by_cases hid : id = r.id
      · simp [hregistry, hid, key]
      · have hother : (id == r.id) = false := by simp [hid]
        have hkey : ¬r.key = (registry, id) := fun h => hid (Prod.mk.inj h).2.symm
        rw [if_pos (by simpa using hregistry), List.map_cons, List.lookup_cons, hother,
          List.find?_cons_of_neg (by simpa using hkey)]
        exact ih
    · have hkey : ¬r.key = (registry, id) := fun h => hregistry (Prod.mk.inj h).1
      rw [if_neg (by simpa using hregistry), List.find?_cons_of_neg (by simpa using hkey)]
      exact ih

theorem repeated_in (registry : String) (rs : List Registration) :
    ((repeated [] rs).filter (·.1.registry = registry)).map
        (fun (r, first) => (r.id, r.field, first.field)) =
      latecomers (idsWithFields registry rs) := by
  induction rs using List.reverseRecOn with
  | nil => rfl
  | append_singleton rs r ih =>
    rw [repeated_concat, List.filter_append, List.map_append, ih]
    by_cases hregistry : r.registry = registry
    · have hids : idsWithFields registry (rs ++ [r]) =
          idsWithFields registry rs ++ [(r.id, r.field)] := by
        simp [idsWithFields, hregistry]
      have hkey : r.key = (registry, r.id) := by rw [key, hregistry]
      rw [hids, latecomers_concat, lookup_idsWithFields, hkey]
      cases rs.find? (·.key = (registry, r.id)) <;> simp [hregistry]
    · have hids : idsWithFields registry (rs ++ [r]) = idsWithFields registry rs := by
        simp [idsWithFields, hregistry]
      rw [hids]
      cases rs.find? (·.key = r.key) <;> simp [hregistry]

theorem idsWithFields_append (registry : String) (rs more : List Registration) :
    idsWithFields registry (rs ++ more) =
      idsWithFields registry rs ++ idsWithFields registry more := by
  rw [idsWithFields, List.filter_append, List.map_append]
  rfl

theorem idsWithFields_blocks (blocks : List BlockEntity) :
    idsWithFields "block" (blocks.flatMap ofBlock) = blocks.map fun b => (b.id, b.field) := by
  induction blocks with
  | nil => rfl
  | cons b rest ih =>
    have hone : idsWithFields "block" (ofBlock b) = [(b.id, b.field)] := by
      unfold ofBlock
      split <;> rfl
    rw [List.flatMap_cons, idsWithFields_append, ih, hone, List.singleton_append, List.map_cons]

theorem idsWithFields_companions (blocks : List BlockEntity) :
    idsWithFields "item" (blocks.flatMap ofBlock) =
      (blocks.filter (·.companion)).map fun b => (b.id, b.field) := by
  induction blocks with
  | nil => rfl
  | cons b rest ih =>
    have hone : idsWithFields "item" (ofBlock b) =
        if b.companion then [(b.id, b.field)] else [] := by
      unfold ofBlock
      split <;> rfl
    rw [List.flatMap_cons, idsWithFields_append, ih, hone, List.filter_cons]
    split <;> rfl

theorem idsWithFields_all (registry : Registry) (blocks : List BlockEntity)
    (items : List ItemEntity) :
    idsWithFields registry.name (all blocks items) = registry.entries blocks items := by
  rw [all, idsWithFields_append]
  cases registry with
  | block =>
    have hitems : idsWithFields "block" (items.map ofItem) = [] := by
      simp [idsWithFields, ofItem]
    rw [Registry.name, idsWithFields_blocks, hitems, List.append_nil, Registry.entries]
  | item =>
    have hitems : idsWithFields "item" (items.map ofItem) = items.map fun i => (i.id, i.field) := by
      simp [idsWithFields, ofItem, List.filter_map, Function.comp_def]
    rw [Registry.name, idsWithFields_companions, hitems, Registry.entries]

theorem registry_of_mem_all {r : Registration} {blocks : List BlockEntity}
    {items : List ItemEntity} (h : r ∈ all blocks items) :
    r.registry = "block" ∨ r.registry = "item" := by
  rw [all, List.mem_append, List.mem_flatMap, List.mem_map] at h
  rcases h with ⟨b, -, hr⟩ | ⟨i, -, rfl⟩
  · unfold ofBlock at hr
    split at hr <;> simp at hr
    · rcases hr with rfl | rfl
      · exact .inl rfl
      · exact .inr rfl
    · exact .inl (by rw [hr])
  · exact .inr rfl

theorem mem_of_mem_repeated {rs : List Registration} {p : Registration × Registration}
    (h : p ∈ repeated [] rs) : p.1 ∈ rs := by
  induction rs using List.reverseRecOn with
  | nil => simp [repeated] at h
  | append_singleton rs r ih =>
    rw [repeated_concat, List.mem_append] at h
    rcases h with h | h
    · exact List.mem_append_left _ (ih h)
    · cases hfirst : rs.find? (·.key = r.key) <;> simp [hfirst] at h
      simp [h]

end Registration

/-! ## Reports -/

section

variable (c : Container) (blocks : List BlockEntity) (items : List ItemEntity)

/-- What is said of a registry, in the order of its entries. -/
def Registry.notices (registry : Registry) : List Diagnostic :=
  (latecomers (registry.entries blocks items)).map (registry.notice c)

theorem notices_eq (registry : Registry) :
    registry.notices c blocks items =
      ((Registration.repeated [] (Registration.all blocks items)).filter
        (·.1.registry = registry.name)).map fun (r, first) => r.report c first := by
  rw [Registry.notices, ← Registration.idsWithFields_all, ← Registration.repeated_in,
    List.map_map]
  refine List.map_congr_left fun (r, first) h => ?_
  have hregistry : r.registry = registry.name := by simpa using (List.mem_filter.1 h).2
  simp only [Function.comp_apply, Registry.notice, Registration.report, hregistry]
  rfl

theorem length_notices (registry : Registry) :
    (registry.notices c blocks items).length =
      (registry.entries blocks items).length -
        ((registry.entries blocks items).map Prod.fst).dedup.length := by
  rw [Registry.notices, List.length_map]
  exact Nat.eq_sub_of_add_eq (length_latecomers _)

/-- What is reported of ids that are entered again is what is said of the two registries, each
judged by itself and in the order of its entries: one warning for each entry whose id stands before
it, with the field of the first entry of the id. So their number is that of the entries less that of
the ids, and nothing is reported if and only if no id occurs twice in one registry. -/
theorem duplicates_reported :
    let reports := duplicateReports c blocks items
    let entered (registry : Registry) := (registry.entries blocks items).map Prod.fst
    reports.Perm
      (Registry.block.notices c blocks items ++ Registry.item.notices c blocks items) ∧
    (∀ registry, (Registry.notices c blocks items registry).Sublist reports) ∧
    reports.length =
      ((entered .block).length - (entered .block).dedup.length) +
        ((entered .item).length - (entered .item).dedup.length) ∧
    (reports = [] ↔ ∀ registry, (entered registry).Nodup) := by
  intro reports entered
  let found := Registration.repeated [] (Registration.all blocks items)
  have hperm : reports.Perm
      (Registry.block.notices c blocks items ++ Registry.item.notices c blocks items) := by
    -- what is not entered as a block is entered as an item
    have hrest : found.filter (fun p => !decide (p.1.registry = Registry.block.name)) =
        found.filter (·.1.registry = Registry.item.name) := by
      refine List.filter_congr fun p hp => ?_
      rcases Registration.registry_of_mem_all (Registration.mem_of_mem_repeated hp) with h | h <;>
        rw [h] <;> rfl
    rw [notices_eq, notices_eq, ← List.map_append, ← hrest]
    exact ((List.filter_append_perm _ found).map _).symm
  have hlength (registry : Registry) : (entered registry).length =
      (registry.entries blocks items).length := List.length_map _
  refine ⟨hperm, fun registry => ?_, ?_, ?_⟩
  · rw [notices_eq]
    exact List.filter_sublist.map _
  · rw [hperm.length_eq, List.length_append, length_notices, length_notices, hlength, hlength]
  · have hnone (registry : Registry) :
        Registry.notices c blocks items registry = [] ↔ (entered registry).Nodup := by
      rw [Registry.notices, List.map_eq_nil_iff, latecomers_eq_nil_iff]
    have hboth : reports = [] ↔ Registry.block.notices c blocks items = [] ∧
        Registry.item.notices c blocks items = [] := by
      rw [← List.append_eq_nil_iff, ← List.length_eq_zero_iff, ← List.length_eq_zero_iff,
        hperm.length_eq]
    rw [hboth, hnone, hnone]
    exact ⟨fun ⟨hblock, hitem⟩ registry => by cases registry <;> assumption,
      fun h => ⟨h .block, h .item⟩⟩

end

end Modforge
