import Modforge.Proofs.Placeholder.Stages
import Modforge.Proofs.Slot.Numbers

/-!
# Slots stay where they are written

A text with names in it is read slot by slot as the text without them, unless a name completes a
slot. Names that do so are found for every text that may let them.
-/

namespace Modforge

/-! ## Slots in a text with places for names -/

theorem prefixFree_plain : PrefixFree Slot.plain :=
  Slot.prefixFree_written.map Sum.inl_injective

section

variable (names : Names)

theorem flatMap_spell_letters (letters : List Char) :
    (letters.map .inl).flatMap names.spell = letters := by
  rw [List.flatMap_map]
  exact List.flatMap_singleton' letters

theorem eq_of_mem_spell {c : Char} (hc : Naming.isIdChar c = false) (mark : Mark)
    (h : c ∈ names.spell mark) : mark = .inl c := by
  rcases mark with d | p
  · rw [List.mem_singleton.1 h]
  · exact absurd h (names.not_mem_name hc)

theorem readAs_spell_iff {marks : List Mark} {parts : List (Mark ⊕ Slot)}
    (hparts : ReadAs Slot.plain marks parts) :
    ReadAs Slot.written (marks.flatMap names.spell) (respell names.spell parts) ↔
      ∀ before after, parts = before ++ .inl (.inl '%') :: after →
        ∀ slot, ¬ Slot.written slot <+: '%' :: (spellOut Slot.plain after).flatMap names.spell := by
  have hforms (slot : Slot) : slot.plain.flatMap names.spell = slot.written :=
    flatMap_spell_letters names slot.written
  rw [hparts.spelled_iff hforms]
  constructor
  · intro h before after hsplit
    exact h before (.inl '%') after hsplit [] '%' [] rfl
  · intro h before mark after hsplit s c s' hmark slot hslot
    obtain rfl : '%' = c := (List.cons_prefix_cons.1 hslot).1
    have hmem : '%' ∈ names.spell mark := by simp [hmark]
    obtain rfl := eq_of_mem_spell names (by decide) mark hmem
    cases s with
    | nil =>
      obtain ⟨-, rfl⟩ := List.cons.inj hmark
      exact h before after hsplit slot hslot
    | cons d s => simp [Names.spell] at hmark

end

/-! ## Names that complete a slot -/

theorem IsRun.isNumeral {run : List Mark} (hrun : IsRun run) {names : Names}
    (hnames : ∀ p, .inr p ∈ run → Text.IsNumeral (names.name p)) :
    Text.IsNumeral (run.flatMap names.spell) where
  ne_nil := by
    obtain ⟨mark, hmark⟩ := List.exists_mem_of_ne_nil _ hrun.ne_nil
    rw [ne_eq, List.flatMap_eq_nil_iff]
    intro hnil
    rcases mark with c | p
    · cases hnil _ hmark
    · exact names.name_ne_nil p (hnil _ hmark)
  head := by
    have hne := hrun.ne_nil
    have hhead := hrun.head
    rcases run with _ | ⟨c | p, rest⟩
    · exact absurd rfl hne
    · simpa [Names.spell] using hhead
    · obtain ⟨hne, hhead, -⟩ := hnames p List.mem_cons_self
      rw [List.flatMap_cons, Names.spell, Sum.elim_inr, List.head?_append_of_ne_nil _ hne]
      exact hhead
  digit c hc := by
    obtain ⟨mark, hmark, hc⟩ := List.mem_flatMap.1 hc
    rcases mark with d | p
    · obtain rfl := List.mem_singleton.1 hc
      exact hrun.digit c hmark
    · exact (hnames p hmark).digit c hc

theorem isNumeral_one : Text.IsNumeral ['1'] :=
  ⟨by decide, by decide, List.forall_mem_singleton.2 (by decide)⟩

/-- The name at one place closes slots, and the name at the other one is a number. -/
def Names.closing : Placeholder → Names
  | .space => ⟨"s", "1", rfl, rfl⟩
  | .id => ⟨"1", "s", rfl, rfl⟩

theorem Names.closing_name_self (p : Placeholder) : (closing p).name p = ['s'] := by
  cases p <;> rfl

theorem Names.isNumeral_closing {p q : Placeholder} (h : q ≠ p) :
    Text.IsNumeral ((closing p).name q) := by
  have hname : (closing p).name q = ['1'] := by
    cases p <;> cases q <;> first | exact absurd rfl h | rfl
  exact hname ▸ isNumeral_one

def Names.ones : Names := ⟨"1", "1", rfl, rfl⟩

theorem Names.isNumeral_ones (p : Placeholder) : Text.IsNumeral (ones.name p) := by
  have hname : ones.name p = ['1'] := by cases p <;> rfl
  exact hname ▸ isNumeral_one

theorem written_prefix_of_isNumeral {digits rest : List Char} (h : Text.IsNumeral digits)
    (kind : SlotKind) :
    ∃ slot, Slot.written slot <+: '%' :: (digits ++ '$' :: Slot.letter kind :: rest) := by
  obtain ⟨n, hn, rfl⟩ := h.exists_toDigits
  lift n to ℕ+ using hn
  exact ⟨⟨some n, kind⟩, rest, by simp [Slot.written, Slot.numberText]⟩

theorem MayOpen.exists_written {rest : List Mark} (h : MayOpen rest) :
    ∃ (names : Names) (slot : Slot), slot.written <+: '%' :: rest.flatMap names.spell := by
  cases h with
  | atOnce p rest =>
    refine ⟨.closing p, ⟨none, .argument⟩, rest.flatMap (Names.closing p).spell, ?_⟩
    rw [List.flatMap_cons, Names.spell, Sum.elim_inr, Names.closing_name_self]
    rfl
  | inNumber hrun hp kind rest =>
    obtain ⟨slot, hslot⟩ := written_prefix_of_isNumeral
      (hrun.isNumeral fun p _ => Names.isNumeral_ones p) kind
    refine ⟨.ones, slot, ?_⟩
    rw [List.flatMap_append]
    exact hslot
  | @afterNumber run hrun p hp rest =>
    have hnumeral := hrun.isNumeral fun q (hq : .inr q ∈ run) =>
      Names.isNumeral_closing fun (heq : q = p) => hp (heq ▸ hq)
    obtain ⟨slot, hslot⟩ := written_prefix_of_isNumeral hnumeral .argument
    refine ⟨.closing p, slot, ?_⟩
    rw [List.flatMap_append, List.flatMap_cons, List.flatMap_cons, Names.spell, Sum.elim_inr,
      Names.closing_name_self]
    exact hslot

theorem mayOpen_of_written {rest : List Mark} {names : Names} {slot : Slot}
    (hplain : ∀ slot, ¬ Slot.plain slot <+: .inl '%' :: rest)
    (h : slot.written <+: '%' :: rest.flatMap names.spell) : MayOpen rest := by
  obtain ⟨number, kind⟩ := slot
  obtain ⟨-, h⟩ := List.cons_prefix_cons.1 h
  cases number with
  | none =>
    rcases rest with _ | ⟨c | p, rest⟩
    · cases List.prefix_nil.1 h
    · obtain ⟨rfl, -⟩ := List.cons_prefix_cons.1 h
      exact absurd ⟨rest, rfl⟩ (hplain ⟨none, kind⟩)
    · exact .atOnce p rest
  | some n =>
    obtain ⟨after, h⟩ := h
    simp only [Slot.numberText, List.append_assoc, List.singleton_append] at h
    -- no name holds a dollar sign, so the one of the slot stands in the text
    obtain ⟨run, rest, rfl, hrun, hrest⟩ := exists_split_of_only (x := (.inl '$' : Mark)) rfl
      (eq_of_mem_spell names (by decide)) h.symm
    have hdigits := Text.isNumeral_toDigits n.pos
    rw [← hrun] at hdigits
    have hdigit {mark : Mark} (hmark : mark ∈ run) :
        ∀ c ∈ names.spell mark, Text.isDigit c = true :=
      fun c hc => hdigits.digit c (List.mem_flatMap.2 ⟨mark, hmark, hc⟩)
    have hnumber : IsRun run := by
      refine ⟨?_, ?_, fun c hc => hdigit hc c (List.mem_singleton_self c)⟩
      · rintro rfl
        exact hdigits.ne_nil rfl
      · intro hzero
        obtain ⟨more, rfl⟩ := List.head?_eq_some_iff.1 hzero
        exact hdigits.head rfl
    rcases rest with _ | ⟨c | p, rest⟩
    · cases hrest
    · obtain ⟨rfl, -⟩ := List.cons.inj hrest
      by_cases hplace : ∃ p, .inr p ∈ run
      · obtain ⟨p, hp⟩ := hplace
        exact .inNumber hnumber hp kind rest
      · obtain ⟨letters, rfl⟩ := exists_letters fun p hp => hplace ⟨p, hp⟩
        rw [flatMap_spell_letters] at hrun
        refine absurd ⟨rest, ?_⟩ (hplain ⟨some n, kind⟩)
        simp [Slot.plain, Slot.written, Slot.numberText, hrun]
    · refine .afterNumber hnumber (fun hp => ?_) rest
      obtain ⟨c, more, hname⟩ := List.exists_cons_of_ne_nil (names.name_ne_nil p)
      rw [List.flatMap_cons, Names.spell, Sum.elim_inr, hname] at hrest
      obtain ⟨rfl, -⟩ := List.cons.inj hrest
      have hletter := hdigit hp _ (hname ▸ List.mem_cons_self : _ ∈ names.name p)
      rw [Slot.not_isDigit_letter] at hletter
      cases hletter

end Modforge
