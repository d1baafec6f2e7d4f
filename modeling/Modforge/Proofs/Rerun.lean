import Mathlib.Data.List.Induction
import Modforge.Proofs.Apart
import Modforge.Proofs.Refused.Run

/-!
# A run made again

What stands under a key after a run into memory is the last text that the run stored there, and
the steps of a run into memory do not depend on what the memory holds. So the same run made again
puts everything back where it is.
-/

/-! ## Entries put one after another -/

namespace Modforge.Keyed

variable {κ α : Type} [BEq κ]

def putAll (entries start : List (κ × α)) : List (κ × α) :=
  entries.foldl (fun now entry => put entry.1 entry.2 now) start

theorem put_append (key : κ) (value : α) (first second : List (κ × α)) :
    put key value (first ++ second) =
      put key value first ++ second.filter (·.1 != key) := by
  simp only [put, List.filter_append, List.cons_append]

theorem keys_put_subset {key other : κ} {value : α} {entries : List (κ × α)}
    (h : other ∈ (put key value entries).map Prod.fst) :
    other = key ∨ other ∈ entries.map Prod.fst := by
  rw [put, List.map_cons, List.mem_cons] at h
  refine h.imp_right fun hrest => ?_
  obtain ⟨entry, hentry, rfl⟩ := List.mem_map.1 hrest
  exact List.mem_map_of_mem (List.mem_of_mem_filter hentry)

theorem putAll_eq_append (entries start : List (κ × α)) :
    putAll entries start =
      putAll entries [] ++ start.filter fun old => !(entries.map Prod.fst).contains old.1 := by
  -- the last entry decides what stands under its key
  induction entries using List.reverseRecOn with
  | nil => simp [putAll]
  | append_singleton before entry ih =>
    have hlast (now : List (κ × α)) : putAll (before ++ [entry]) now =
        put entry.1 entry.2 (putAll before now) := List.foldl_concat ..
    rw [hlast, hlast, ih, put_append, List.filter_filter]
    congr 2
    funext old
    rw [List.map_append, List.contains_append, Bool.not_or, Bool.and_comm]
    simp only [List.map_cons, List.map_nil, List.contains_cons, List.contains_nil, Bool.or_false,
      bne]

theorem keys_putAll_subset {key : κ} {entries start : List (κ × α)}
    (h : key ∈ (putAll entries start).map Prod.fst) :
    key ∈ entries.map Prod.fst ∨ key ∈ start.map Prod.fst := by
  induction entries generalizing start with
  | nil => exact .inr h
  | cons entry rest ih =>
    rw [List.map_cons, List.mem_cons]
    rcases ih h with hrest | hnow
    · exact .inl (.inr hrest)
    · exact (keys_put_subset hnow).imp .inl id

variable [LawfulBEq κ]

theorem putAll_putAll (entries start : List (κ × α)) :
    putAll entries (putAll entries start) = putAll entries start := by
  have hown : (putAll entries []).filter
      (fun old => !(entries.map Prod.fst).contains old.1) = [] := by
    rw [List.filter_eq_nil_iff]
    intro old hold
    have hkey := keys_putAll_subset (List.mem_map_of_mem hold)
    simpa using hkey
  rw [putAll_eq_append entries (putAll entries start), putAll_eq_append entries start,
    List.filter_append, hown, List.nil_append, List.filter_filter]
  simp only [Bool.and_self]

end Modforge.Keyed

namespace Modforge

/-! ## Memory -/

def Request.source? : Request → Option ((String × String) × String)
  | .resource .. => none
  | .source package name contents => some ((package, name), contents)

theorem carryOut_memory (tree : FileTree) (steps : List Step) (memory : Memory) :
    (carryOut (Memory.sink tree) steps memory).2 =
      ⟨Keyed.putAll ((requests steps).filterMap Request.resource?) memory.resources,
        Keyed.putAll ((requests steps).filterMap Request.source?) memory.sources⟩ := by
  induction steps generalizing memory with
  | nil => rfl
  | cons step rest ih =>
    cases step with
    | report d => exact ih memory
    | store request subject => cases request <;> exact ih _

/-! ## Runs -/

theorem text?_carryOut_of_not_mem (tree : FileTree) (steps : List Step) (memory : Memory)
    {key : Bool × String × String} (h : key ∉ (requests steps).map (·.entry.1)) :
    (carryOut (Memory.sink tree) steps memory).2.text? key = memory.text? key := by
  have hnone : ((requests steps).map Request.entry).reverse.lookup key = none := by
    rw [List.lookup_eq_none_iff]
    intro entry hentry
    rw [List.mem_reverse, List.mem_map] at hentry
    obtain ⟨request, hrequest, rfl⟩ := hentry
    rw [bne_iff_ne]
    rintro rfl
    exact h (List.mem_map_of_mem hrequest)
  rw [text?_carryOut, hnone, Option.none_or]

end Modforge
