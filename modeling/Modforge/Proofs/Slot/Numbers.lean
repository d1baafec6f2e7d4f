import Modforge.Proofs.Slot.Scanned

/-! # Slots that go by a number -/

namespace Modforge

namespace Slot

def NumbersFit (parts : List (Char ⊕ Slot)) : Prop :=
  ∀ n : ℕ+, .inr ⟨some n, .argument⟩ ∈ parts → (n : Nat) < numberLimit

/-! ## Numbers along a text -/

section

variable (index : Slot → Option Nat)

theorem numbered_append (used : Nat) (before after : List (Char ⊕ Slot)) :
    numbered index used (before ++ after) =
      numbered index used before ++ numbered index (used + turns index before) after := by
  induction before generalizing used with
  | nil => rfl
  | cons part rest ih =>
    rw [List.cons_append, numbered_cons, ih, numbered_cons, List.cons_append,
      turns_cons index part rest, Nat.add_assoc]

theorem numbers_append (used : Nat) (before after : List (Char ⊕ Slot)) :
    numbers index used (before ++ after) =
      numbers index used before ++ numbers index (used + turns index before) after := by
  rw [numbers, numbered_append, List.filterMap_append]
  rfl

theorem numbered_congr {index index' : Slot → Option Nat} {parts : List (Char ⊕ Slot)}
    (h : ∀ slot, .inr slot ∈ parts → slot.kind = .argument → index slot = index' slot)
    (used : Nat) : numbered index used parts = numbered index' used parts := by
  induction parts generalizing used with
  | nil => rfl
  | cons part rest ih =>
    have hrest := ih fun slot hslot => h slot (List.mem_cons_of_mem _ hslot)
    have hpart : asked? index used part = asked? index' used part ∧
        turns index [part] = turns index' [part] := by
      rcases part with c | slot
      · exact ⟨rfl, rfl⟩
      · by_cases hkind : slot.kind = .argument
        · have hslot := h slot List.mem_cons_self hkind
          simp [asked?, turns, takesTurn, hkind, hslot]
        · cases hcase : slot.kind with
          | argument => exact absurd hcase hkind
          | newline => simp [asked?, turns, takesTurn, hcase]
          | percent => simp [asked?, turns, takesTurn, hcase]
    rw [numbered_cons, numbered_cons, hpart.1, hpart.2, hrest]

theorem outcome_congr {index index' : Slot → Option Nat} {parts : List (Char ⊕ Slot)}
    (h : ∀ slot, .inr slot ∈ parts → slot.kind = .argument → index slot = index' slot)
    (name : String) (args : List String) :
    outcome index name args parts = outcome index' name args parts := by
  simp only [outcome, numbers, shown, numbered_congr h 0]

end

/-! ## Numbers that fit -/

theorem counted_eq_own {slot : Slot} (h : ∀ n, slot.number = some n → (n : Nat) < numberLimit) :
    slot.counted = slot.own := by
  obtain ⟨number, kind⟩ := slot
  cases number with
  | none => rfl
  | some n => simp [counted, own, h n rfl]

theorem NumbersFit.counted_eq_own {parts : List (Char ⊕ Slot)} (h : NumbersFit parts)
    {slot : Slot} (hslot : .inr slot ∈ parts) (hkind : slot.kind = .argument) :
    slot.counted = slot.own := by
  obtain ⟨number, kind⟩ := slot
  obtain rfl : kind = .argument := hkind
  refine Slot.counted_eq_own fun n hn => h n ?_
  obtain rfl : number = some n := hn
  exact hslot

theorem numbers_own_append (before after : List (Char ⊕ Slot)) (n : ℕ+) :
    numbers own 0 (before ++ .inr ⟨some n, .argument⟩ :: after) =
      numbers own 0 before ++ (n : Nat) :: numbers own (turns own before) after := by
  have hasked (used : Nat) : asked? own used (.inr ⟨some n, .argument⟩) = some (n : Nat) := rfl
  have hturns : turns own [.inr ⟨some n, .argument⟩] = 0 := rfl
  rw [numbers_append, numbers_cons, hasked, hturns, Nat.zero_add, Nat.add_zero]
  rfl

theorem lt_of_mem_numbers {parts : List (Char ⊕ Slot)} {used n : Nat}
    (hsize : used + parts.length < numberLimit) (h : n ∈ numbers counted used parts) :
    n < numberLimit := by
  induction parts generalizing used with
  | nil => cases h
  | cons part rest ih =>
    rw [List.length_cons] at hsize
    have hturns : turns counted [part] ≤ 1 := List.countP_le_length
    rw [numbers_cons, List.mem_append, Option.mem_toList] at h
    rcases h with h | h
    · rcases part with c | slot
      · cases h
      · simp only [asked?] at h
        split at h
        · cases hcounted : slot.counted with
          | none =>
            rw [hcounted] at h
            obtain rfl : used + 1 = n := Option.some.inj h
            omega
          | some m =>
            rw [hcounted] at h
            obtain rfl : m = n := Option.some.inj h
            simpa using (Option.filter_eq_some_iff.1 hcounted).2
        · cases h
        · cases h
    · exact ih (by omega) h

theorem length_parts_le (parts : List (Char ⊕ Slot)) :
    parts.length ≤ (spellOut written parts).length := by
  induction parts with
  | nil => rfl
  | cons part rest ih =>
    rcases part with c | slot <;> simp [written] <;> omega

theorem exists_missing_own {parts : List (Char ⊕ Slot)} {n : ℕ+}
    (h : .inr ⟨some n, .argument⟩ ∈ parts) {size : Nat} (hsize : size < n) :
    ∃ m, (numbers own 0 parts).find? (size < ·) = some m := by
  obtain ⟨before, after, rfl⟩ := List.append_of_mem h
  rw [← Option.ne_none_iff_exists', ne_eq, List.find?_eq_none, numbers_own_append]
  intro hnone
  have hle := hnone n (List.mem_append_right _ List.mem_cons_self)
  exact hle (decide_eq_true hsize)

end Slot

/-! ## Rendering -/

section

variable {template : Template} {id : String} {marks : List (Char ⊕ Unit)}
  {parts : List (Char ⊕ Slot)}

theorem render_of_fit (hmarks : ReadAs idMarks template.body.toList marks)
    (hparts : ReadAs Slot.written (withId id marks) parts) (hfit : Slot.NumbersFit parts)
    (args : List String) :
    template.render id args = Slot.outcome Slot.own template.name args parts := by
  rw [render_of_read hmarks hparts, Slot.outcome_congr fun slot => hfit.counted_eq_own]

theorem render_ok_iff (hmarks : ReadAs idMarks template.body.toList marks)
    (hparts : ReadAs Slot.written (withId id marks) parts) (args : List String) :
    (∃ text, template.render id args = .ok text) ↔
      ∀ n ∈ Slot.numbers Slot.counted 0 parts, n ≤ args.length := by
  have hall : (∀ n ∈ Slot.numbers Slot.counted 0 parts, n ≤ args.length) ↔
      (Slot.numbers Slot.counted 0 parts).find? (args.length < ·) = none := by
    simp [List.find?_eq_none]
  rw [render_of_read hmarks hparts, hall, Slot.outcome]
  cases (Slot.numbers Slot.counted 0 parts).find? (args.length < ·) <;> simp

theorem render_missing (hmarks : ReadAs idMarks template.body.toList marks)
    (hparts : ReadAs Slot.written (withId id marks) parts) (hfit : Slot.NumbersFit parts)
    {n : ℕ+} (hn : .inr ⟨some n, .argument⟩ ∈ parts) {args : List String}
    (hargs : args.length < n) :
    ∃ m, template.render id args = .error ⟨template.name, m, args.length⟩ := by
  obtain ⟨m, hm⟩ := Slot.exists_missing_own hn hargs
  exact ⟨m, by rw [render_of_fit hmarks hparts hfit, Slot.outcome, hm]⟩

theorem exists_render_of_large (hmarks : ReadAs idMarks template.body.toList marks)
    (hparts : ReadAs Slot.written (withId id marks) parts)
    (hsize : (withId id marks).length < Slot.numberLimit) {n : Nat}
    (hlarge : Slot.numberLimit ≤ n) :
    ∃ args text, args.length < n ∧ template.render id args = .ok text := by
  let args := List.replicate (Slot.numberLimit - 1) ""
  have hargs : args.length = Slot.numberLimit - 1 := List.length_replicate
  have henough : ∀ m ∈ Slot.numbers Slot.counted 0 parts, m ≤ args.length := by
    intro m hm
    have hcount := Slot.length_parts_le parts
    rw [hparts.spellOut_eq] at hcount
    have hlt := Slot.lt_of_mem_numbers (by omega) hm
    omega
  obtain ⟨text, htext⟩ := (render_ok_iff hmarks hparts args).2 henough
  exact ⟨args, text, by omega, htext⟩

/-- Where the numbers of all slots for arguments fit a word, each slot goes by its own number: it
fails without that argument and leaves the other slots alone. A slot with a larger number may be
rendered although its argument is missing. -/
theorem numbers_kept (hmarks : ReadAs idMarks template.body.toList marks)
    (hparts : ReadAs Slot.written (withId id marks) parts) :
    (Slot.NumbersFit parts →
      (∀ (n : ℕ+) (args : List String), .inr ⟨some n, .argument⟩ ∈ parts → args.length < n →
        ∃ m, template.render id args = .error ⟨template.name, m, args.length⟩) ∧
      ∀ args, template.render id args = Slot.outcome Slot.own template.name args parts) ∧
    (∀ before (n : ℕ+) after, parts = before ++ .inr ⟨some n, .argument⟩ :: after →
      Slot.numbers Slot.own 0 parts =
        Slot.numbers Slot.own 0 before ++
          (n : Nat) :: Slot.numbers Slot.own (Slot.turns Slot.own before) after) ∧
    ((withId id marks).length < Slot.numberLimit →
      ∀ n : ℕ+, .inr ⟨some n, .argument⟩ ∈ parts → Slot.numberLimit ≤ n →
        ∃ args text, args.length < (n : Nat) ∧ template.render id args = .ok text) := by
  refine ⟨fun hfit => ⟨fun n args hn => render_missing hmarks hparts hfit hn,
    render_of_fit hmarks hparts hfit⟩, ?_, ?_⟩
  · rintro before n after rfl
    exact Slot.numbers_own_append before after n
  · intro hsize n _ hlarge
    exact exists_render_of_large hmarks hparts hsize hlarge

end

theorem numbers_kept_crosswise :
    let parts : List (Char ⊕ Slot) := [.inr ⟨some 2, .argument⟩, .inr ⟨none, .argument⟩]
    ReadAs idMarks "%2$s%s".toList ("%2$s%s".toList.map .inl) ∧
      ReadAs Slot.written (withId "x" ("%2$s%s".toList.map .inl)) parts ∧
      Slot.NumbersFit parts ∧ Slot.numbers Slot.own 0 parts = [2, 1] ∧
      ∃ m, Template.render ⟨"t", .block, "%2$s%s", .builtin⟩ "x" ["a"] = .error ⟨"t", m, 1⟩ := by
  have hmarks : ReadAs idMarks "%2$s%s".toList ("%2$s%s".toList.map .inl) :=
    .of_absent fun () => ⟨'\x7b', by decide, by decide⟩
  have hparts : ReadAs Slot.written (withId "x" ("%2$s%s".toList.map .inl))
      [.inr ⟨some 2, .argument⟩, .inr ⟨none, .argument⟩] :=
    .form (Slot.mk (some 2) .argument) (.form (Slot.mk none .argument) .nil)
  have hfit : Slot.NumbersFit [.inr ⟨some 2, .argument⟩, .inr ⟨none, .argument⟩] := by
    intro n hn
    obtain rfl : n = 2 := by simpa using hn
    decide
  obtain ⟨hkept, hnumbers, -⟩ :=
    @numbers_kept ⟨"t", .block, "%2$s%s", .builtin⟩ "x" _ _ hmarks hparts
  exact ⟨hmarks, hparts, hfit, hnumbers [] 2 _ rfl,
    (hkept hfit).1 2 ["a"] List.mem_cons_self (by decide)⟩

/-- A number of twenty digits is overlooked, and its slot takes the first argument. -/
theorem render_overlooks_number :
    ReadAs idMarks "%18446744073709551616$s".toList
        ("%18446744073709551616$s".toList.map .inl) ∧
      ReadAs Slot.written (withId "x" ("%18446744073709551616$s".toList.map .inl))
        [.inr ⟨some 18446744073709551616, .argument⟩] ∧
      ["a"].length < ((18446744073709551616 : ℕ+) : Nat) ∧
      Template.render ⟨"t", .block, "%18446744073709551616$s", .builtin⟩ "x" ["a"] = .ok "a" ∧
      Template.render ⟨"t", .block, "%18446744073709551616$s%s", .builtin⟩ "x" ["a", "b"] =
        .ok "ab" := by
  refine ⟨.of_absent fun () => ⟨'\x7b', by decide, by decide⟩, ?_, by decide, by decide +kernel,
    by decide +kernel⟩
  exact .form (Slot.mk (some 18446744073709551616) .argument) .nil

end Modforge
