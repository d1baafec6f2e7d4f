/-! # Entries by key -/

namespace Modforge.Keyed

def put {κ α : Type} [BEq κ] (key : κ) (value : α) (entries : List (κ × α)) : List (κ × α) :=
  (key, value) :: entries.filter (·.1 != key)

/-- Puts an entry where the one of its key stands, or at the end, and gives back the value that it
takes the place of. -/
def exchange {κ α : Type} [BEq κ] (key : κ) (value : α) :
    List (κ × α) → Option α × List (κ × α)
  | [] => (none, [(key, value)])
  | (k, old) :: rest =>
    if key == k then (some old, (key, value) :: rest)
    else
      let (previous, rest) := exchange key value rest
      (previous, (k, old) :: rest)

variable {κ α : Type} [BEq κ]

theorem previous_exchange (key : κ) (value : α) (entries : List (κ × α)) :
    (exchange key value entries).1 = entries.lookup key := by
  induction entries with
  | nil => rfl
  | cons entry rest ih =>
    obtain ⟨k, old⟩ := entry
    rw [exchange, List.lookup_cons]
    cases key == k with
    | true => rfl
    | false => exact ih

theorem eq_or_mem_of_mem_exchange {key : κ} {value : α} {entries : List (κ × α)} {entry : κ × α}
    (h : entry ∈ (exchange key value entries).2) : entry = (key, value) ∨ entry ∈ entries := by
  induction entries with
  | nil => exact .inl (List.mem_singleton.1 h)
  | cons other rest ih =>
    obtain ⟨k, old⟩ := other
    rw [exchange] at h
    split at h
    · rcases List.mem_cons.1 h with rfl | h
      · exact .inl rfl
      · exact .inr (List.mem_cons_of_mem _ h)
    · rcases List.mem_cons.1 h with rfl | h
      · exact .inr List.mem_cons_self
      · exact (ih h).imp_right (List.mem_cons_of_mem _)

variable [LawfulBEq κ]

theorem lookup_filter_of_ne {key other : κ} (h : other ≠ key)
    (entries : List (κ × α)) :
    (entries.filter (·.1 != key)).lookup other = entries.lookup other := by
  induction entries with
  | nil => rfl
  | cons entry rest ih =>
    obtain ⟨k, value⟩ := entry
    by_cases hk : k = key
    · have hb : (k != key) = false := by simp [hk]
      have ho : (other == k) = false := by simp [hk, h]
      rw [List.filter_cons, hb, List.lookup_cons, ho]
      exact ih
    · have hb : (k != key) = true := by simp [hk]
      rw [List.filter_cons, hb]
      simp only [ite_true, List.lookup_cons, ih]

theorem isSome_lookup_iff {key : κ} {entries : List (κ × α)} :
    (entries.lookup key).isSome = true ↔ key ∈ entries.map Prod.fst := by
  induction entries with
  | nil => simp
  | cons entry rest ih =>
    obtain ⟨k, value⟩ := entry
    rw [List.lookup_cons, List.map_cons, List.mem_cons, ← ih]
    cases hk : key == k with
    | true => simp [eq_of_beq hk]
    | false => simp [ne_of_beq_false hk]

theorem mem_of_lookup_eq_some {key : κ} {value : α} {entries : List (κ × α)}
    (h : entries.lookup key = some value) : (key, value) ∈ entries := by
  obtain ⟨before, after, rfl, -⟩ := List.lookup_eq_some_iff.1 h
  exact List.mem_append_right before List.mem_cons_self

theorem lookup_eq_some_of_mem {key : κ} {value : α} {entries : List (κ × α)}
    (hkeys : (entries.map Prod.fst).Nodup) (h : (key, value) ∈ entries) :
    entries.lookup key = some value := by
  obtain ⟨before, after, rfl⟩ := List.append_of_mem h
  rw [List.map_append] at hkeys
  have hbefore := (List.nodup_append.1 hkeys).2.2
  refine List.lookup_eq_some_iff.2 ⟨before, after, rfl, fun entry hentry => ?_⟩
  have hne := hbefore entry.1 (List.mem_map_of_mem hentry) key List.mem_cons_self
  exact bne_iff_ne.2 (Ne.symm hne)

@[simp] theorem lookup_put_self (key : κ) (value : α) (entries : List (κ × α)) :
    (put key value entries).lookup key = some value := by
  simp [put]

theorem lookup_put_of_ne {key other : κ} (h : other ≠ key) (value : α)
    (entries : List (κ × α)) : (put key value entries).lookup other = entries.lookup other := by
  have ho : (other == key) = false := by simp [h]
  simp only [put, List.lookup_cons, ho]
  exact lookup_filter_of_ne h entries

@[simp] theorem lookup_exchange_self (key : κ) (value : α) (entries : List (κ × α)) :
    (exchange key value entries).2.lookup key = some value := by
  induction entries with
  | nil => simp [exchange]
  | cons entry rest ih =>
    obtain ⟨k, old⟩ := entry
    rw [exchange]
    cases hk : key == k with
    | true => simp
    | false => simpa [List.lookup_cons, hk] using ih

theorem lookup_exchange_of_ne {key other : κ} (h : other ≠ key) (value : α)
    (entries : List (κ × α)) :
    (exchange key value entries).2.lookup other = entries.lookup other := by
  have ho : (other == key) = false := by simp [h]
  induction entries with
  | nil => simp [exchange, List.lookup_cons, ho]
  | cons entry rest ih =>
    obtain ⟨k, old⟩ := entry
    rw [exchange, List.lookup_cons]
    cases hk : key == k with
    | true =>
      have hother : (other == k) = false := by
        rw [← eq_of_beq hk]
        exact ho
      simp [List.lookup_cons, ho, hother]
    | false =>
      show ((k, old) :: (exchange key value rest).2).lookup other = _
      rw [List.lookup_cons, ih]

theorem keys_exchange (key : κ) (value : α) (entries : List (κ × α)) :
    (exchange key value entries).2.map Prod.fst =
      entries.map Prod.fst ++ if (entries.lookup key).isSome then [] else [key] := by
  induction entries with
  | nil => rfl
  | cons entry rest ih =>
    obtain ⟨k, old⟩ := entry
    rw [exchange, List.lookup_cons]
    cases hk : key == k with
    | true => simp [eq_of_beq hk]
    | false => simpa [-List.lookup_isSome_iff] using ih

theorem nodup_keys_exchange {entries : List (κ × α)} (h : (entries.map Prod.fst).Nodup)
    (key : κ) (value : α) : ((exchange key value entries).2.map Prod.fst).Nodup := by
  rw [keys_exchange]
  split
  · rwa [List.append_nil]
  · next hnew =>
    rw [isSome_lookup_iff] at hnew
    refine List.nodup_append.2 ⟨h, List.pairwise_singleton _ key, fun other hother k hk => ?_⟩
    rintro rfl
    exact hnew (List.mem_singleton.1 hk ▸ hother)

end Modforge.Keyed
