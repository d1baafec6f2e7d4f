import Modforge.Proofs.Slot.Pattern
import Modforge.Proofs.Slot.Scanned

/-!
# The pattern finds the slots of a text

Where a slot is written the pattern takes all of it, and elsewhere it takes nothing. So replacing
the matches one after another is filling the slots of the text.
-/

namespace Modforge

namespace Pattern

/-! ## What a pattern takes -/

/-- A text that a pattern can take as a whole. -/
def Takes : Pattern → List Char → Prop
  | one isIn, text => ∃ c, isIn c = true ∧ text = [c]
  | many isIn, text => ∀ c ∈ text, isIn c = true
  | next first second, text => ∃ front back, first.Takes front ∧ second.Takes back ∧
    text = front ++ back
  | maybe inner, text => text = [] ∨ inner.Takes text
  | group inner, text => inner.Takes text

theorem takes_of_mem_manyWays {isIn : Char → Bool} {text : List Char} {way : Way}
    (h : way ∈ manyWays isIn text) :
    text = way.taken ++ way.rest ∧ ∀ c ∈ way.taken, isIn c = true := by
  induction text generalizing way with
  | nil =>
    obtain rfl := List.mem_singleton.1 h
    exact ⟨rfl, by simp⟩
  | cons c rest ih =>
    rw [manyWays, List.mem_append, List.mem_singleton] at h
    rcases h with h | rfl
    · split at h
      · next hc =>
        obtain ⟨way, hway, rfl⟩ := List.mem_map.1 h
        obtain ⟨hrest, htaken⟩ := ih hway
        exact ⟨congrArg (c :: ·) hrest, List.forall_mem_cons.2 ⟨hc, htaken⟩⟩
      · cases h
    · exact ⟨rfl, by simp⟩

theorem takes_of_mem_ways {pattern : Pattern} {text : List Char} {way : Way}
    (h : way ∈ pattern.ways text) : text = way.taken ++ way.rest ∧ pattern.Takes way.taken := by
  induction pattern generalizing text way with
  | one isIn =>
    cases text with
    | nil => cases h
    | cons c rest =>
      rw [ways] at h
      split at h
      · next hc =>
        obtain rfl := List.mem_singleton.1 h
        exact ⟨rfl, c, hc, rfl⟩
      · cases h
  | many isIn => exact takes_of_mem_manyWays h
  | next first second ihFirst ihSecond =>
    obtain ⟨way, hway, h⟩ := List.mem_flatMap.1 h
    obtain ⟨more, hmore, rfl⟩ := List.mem_map.1 h
    obtain ⟨htext, hfront⟩ := ihFirst hway
    obtain ⟨hrest, hback⟩ := ihSecond hmore
    refine ⟨?_, _, _, hfront, hback, rfl⟩
    rw [htext, hrest, List.append_assoc]
  | maybe inner ih =>
    rw [ways, List.mem_append, List.mem_singleton] at h
    rcases h with h | rfl
    · exact (ih h).imp_right .inr
    · exact ⟨rfl, .inl rfl⟩
  | group inner ih =>
    obtain ⟨way, hway, rfl⟩ := List.mem_map.1 h
    obtain ⟨htext, htaken⟩ := ih hway
    exact ⟨htext, htaken⟩

/-! ## The way that is taken -/

theorem head?_manyWays {isIn : Char → Bool} {letters rest : List Char}
    (hletters : ∀ c ∈ letters, isIn c = true) (hstop : ∀ c ∈ rest.head?, isIn c = false) :
    (manyWays isIn (letters ++ rest)).head? = some ⟨letters, [], rest⟩ := by
  induction letters with
  | nil =>
    cases rest with
    | nil => rfl
    | cons c more =>
      have hc := hstop c rfl
      simp [manyWays, hc]
  | cons c more ih =>
    obtain ⟨hc, hmore⟩ := List.forall_mem_cons.1 hletters
    rw [List.cons_append, manyWays, if_pos hc, List.head?_append, List.head?_map, ih hmore]
    rfl

theorem head?_ways_next {first second : Pattern} {text : List Char} {way more : Way}
    (hfirst : (first.ways text).head? = some way)
    (hsecond : (second.ways way.rest).head? = some more) :
    ((next first second).ways text).head? =
      some ⟨way.taken ++ more.taken, way.groups ++ more.groups, more.rest⟩ := by
  obtain ⟨others, hways⟩ := List.head?_eq_some_iff.1 hfirst
  rw [ways, hways, List.flatMap_cons, List.head?_append, List.head?_map, hsecond]
  rfl

theorem head?_ways_maybe {inner : Pattern} {text : List Char} {way : Way}
    (h : (inner.ways text).head? = some way) : ((maybe inner).ways text).head? = some way := by
  rw [ways, List.head?_append, h]
  rfl

theorem head?_ways_group {inner : Pattern} {text : List Char} {way : Way}
    (h : (inner.ways text).head? = some way) :
    ((group inner).ways text).head? = some { way with groups := some way.taken :: way.groups } := by
  rw [ways, List.head?_map, h]
  rfl

theorem head?_ways_one {isIn : Char → Bool} {c : Char} (h : isIn c = true) (rest : List Char) :
    ((one isIn).ways (c :: rest)).head? = some ⟨[c], [], rest⟩ := by
  rw [ways, if_pos h]
  rfl

theorem replaceAll_length {σ : Type} (pattern : Pattern) (replace : Way → σ → List Char × σ)
    (letters rest : List Char) (state : σ) :
    pattern.replaceAll replace letters.length (letters ++ rest) state =
      pattern.replaceAll replace 0 rest state := by
  induction letters with
  | nil => rfl
  | cons c more ih => exact ih

end Pattern

open Pattern

/-! ## Slots -/

namespace Slot

theorem head?_ways_numberText (number : Option ℕ+) (kind : SlotKind) (rest : List Char) :
    ((maybe numberPattern).ways (numberText number ++ letter kind :: rest)).head? =
      some ⟨numberText number, [digits? number], letter kind :: rest⟩ := by
  cases number with
  | none =>
    have hletter := not_isDigit_letter kind
    simp [ways, numberPattern, numberText, digits?, hletter, groupCount]
  | some n =>
    have hnumeral := Text.isNumeral_toDigits n.pos
    simp only [numberText, digits?, Option.map_some, List.append_assoc]
    generalize Nat.toDigits 10 n = digits at hnumeral
    obtain ⟨first, more, rfl⟩ := List.exists_cons_of_ne_nil hnumeral.ne_nil
    obtain ⟨hfirst, hmore⟩ := List.forall_mem_cons.1 hnumeral.digit
    have hnonzero : first ≠ '0' := fun h => hnumeral.head (congrArg some h)
    have hopen : (Text.isDigit first && first != '0') = true := by simp [hfirst, hnonzero]
    have hstop : ∀ c ∈ ('$' :: letter kind :: rest).head?, Text.isDigit c = false := by
      intro c hc
      obtain rfl := Option.some.inj hc
      decide
    let after := '$' :: letter kind :: rest
    have hfront : ((one fun c => Text.isDigit c && c != '0').ways
        (first :: (more ++ after))).head? = some ⟨[first], [], more ++ after⟩ :=
      head?_ways_one hopen _
    have hback : ((many Text.isDigit).ways (more ++ after)).head? = some ⟨more, [], after⟩ :=
      head?_manyWays hmore hstop
    have hdollar : ((one (· == '$')).ways after).head? = some ⟨['$'], [], letter kind :: rest⟩ :=
      head?_ways_one rfl _
    exact head?_ways_maybe (head?_ways_next (head?_ways_group (head?_ways_next hfront hback))
      hdollar)

theorem head?_ways_written (slot : Slot) (rest : List Char) :
    (slotPattern.ways (written slot ++ rest)).head? =
      some ⟨written slot, [digits? slot.number, some [letter slot.kind]], rest⟩ := by
  obtain ⟨number, kind⟩ := slot
  have hletter : (['s', 'n', '%'].contains (letter kind)) = true := by cases kind <;> rfl
  have hclosed := head?_ways_group (head?_ways_one hletter rest)
  have hnumber := head?_ways_next (head?_ways_numberText number kind rest) hclosed
  have hopened := head?_ways_next
    (head?_ways_one (by decide : ('%' == '%') = true) (numberText number ++ letter kind :: rest))
    hnumber
  rw [written, List.cons_append, List.append_assoc]
  exact hopened

theorem exists_written_of_takes {text : List Char} (h : slotPattern.Takes text) :
    ∃ slot, text = written slot := by
  -- a percent sign, what may be a number with its dollar sign, and the closing letter
  obtain ⟨-, -, ⟨c, hc, rfl⟩, ⟨number, -, hnumber, ⟨d, hd, rfl⟩, rfl⟩, rfl⟩ := h
  obtain rfl : c = '%' := by simpa using hc
  obtain ⟨kind, rfl⟩ : ∃ kind, letter kind = d := by
    have hd : d = 's' ∨ d = 'n' ∨ d = '%' := by simpa using hd
    rcases hd with rfl | rfl | rfl
    · exact ⟨.argument, rfl⟩
    · exact ⟨.newline, rfl⟩
    · exact ⟨.percent, rfl⟩
  rcases hnumber with rfl |
    ⟨-, -, ⟨-, digits, ⟨first, hfirst, rfl⟩, hdigits, rfl⟩, ⟨e, he, rfl⟩, rfl⟩
  · exact ⟨⟨none, kind⟩, rfl⟩
  · obtain rfl : e = '$' := by simpa using he
    rw [Bool.and_eq_true, bne_iff_ne] at hfirst
    have hnumeral : Text.IsNumeral ([first] ++ digits) :=
      ⟨List.cons_ne_nil _ _, by simpa using hfirst.2,
        List.forall_mem_cons.2 ⟨hfirst.1, hdigits⟩⟩
    obtain ⟨n, hn, hdigits⟩ := hnumeral.exists_toDigits
    lift n to ℕ+ using hn
    exact ⟨⟨some n, kind⟩, by rw [hdigits]; rfl⟩

theorem head?_ways_eq_none {text : List Char} (h : ∀ slot, ¬ written slot <+: text) :
    (slotPattern.ways text).head? = none := by
  by_contra hsome
  obtain ⟨way, hway⟩ := Option.ne_none_iff_exists'.1 hsome
  obtain ⟨htext, htakes⟩ := takes_of_mem_ways (List.mem_of_head? hway)
  obtain ⟨slot, hslot⟩ := exists_written_of_takes htakes
  exact h slot ⟨way.rest, by rw [← hslot, ← htext]⟩

/-! ## Replacing matches -/

theorem bind_wordOf? (slot : Slot) : (digits? slot.number).bind wordOf? = slot.counted := by
  obtain ⟨number, kind⟩ := slot
  cases number with
  | none => rfl
  | some n =>
    rw [digits?, Option.map_some, Option.bind_some, wordOf?, Text.valueOfDigits_toDigits]
    rfl

theorem fillArgument_eq (args : List String) (number : Option Nat) (filling : Filling)
    (hpos : ∀ n ∈ number, 0 < n) :
    fillArgument args number filling =
      ((args[number.getD (filling.used + 1) - 1]?.getD "").toList,
        ⟨filling.used + if number.isSome then 0 else 1, filling.missing.or
          ((some (number.getD (filling.used + 1))).filter (args.length < ·))⟩) := by
  have hindex : 0 < number.getD (filling.used + 1) := by
    cases number with
    | none => exact Nat.succ_pos _
    | some n => exact hpos n rfl
  have hused : (if number.isSome then filling.used else filling.used + 1) =
      filling.used + if number.isSome then 0 else 1 := by
    split <;> rfl
  unfold fillArgument
  rw [hused]
  generalize number.getD (filling.used + 1) = index at hindex
  by_cases hmissing : args.length < index
  · have hnone : args[index - 1]? = none := List.getElem?_eq_none (by omega)
    simp [hnone, hmissing, Option.filter_some]
  · have hsome : args[index - 1]? = some args[index - 1] := List.getElem?_eq_getElem (by omega)
    simp [hsome, hmissing, Option.filter_some]

theorem fillMatch_slot (args : List String) (slot : Slot) (taken rest : List Char)
    (filling : Filling) :
    fillMatch args ⟨taken, [digits? slot.number, some [letter slot.kind]], rest⟩ filling =
      (shownAs args (asked? counted filling.used (.inr slot)) (.inr slot),
        ⟨filling.used + turns counted [.inr slot], filling.missing.or
          ((asked? counted filling.used (.inr slot)).filter (args.length < ·))⟩) := by
  cases hkind : slot.kind with
  | newline => simp [fillMatch, letter, shownAs, asked?, turns, takesTurn, hkind]
  | percent => simp [fillMatch, letter, shownAs, asked?, turns, takesTurn, hkind]
  | argument =>
    have hturns : turns counted [.inr slot] = if slot.counted.isSome then 0 else 1 := by
      cases hcounted : slot.counted <;> simp [turns, takesTurn, hkind, hcounted]
    have hfill := fillArgument_eq args slot.counted filling fun _ => pos_of_counted
    rw [hturns]
    simp only [fillMatch, letter, bind_wordOf?, shownAs, asked?, hkind, Option.bind_some, hfill]
    rfl

theorem replaceAll_eq {text : List Char} {parts : List (Char ⊕ Slot)}
    (h : ReadAs written text parts) (args : List String) (filling : Filling) :
    slotPattern.replaceAll (fillMatch args) 0 text filling =
      (shown counted args filling.used parts,
        ⟨filling.used + turns counted parts,
          filling.missing.or
            ((numbers counted filling.used parts).find? (args.length < ·))⟩) := by
  induction h generalizing filling with
  | nil => simp [replaceAll, shown, numbers, numbered, turns]
  | @form slot rest parts _ ih =>
    have hhead := head?_ways_written slot rest
    have hfirst (number : Option Nat) (more : List Nat) :
        (filling.missing.or (number.filter (args.length < ·))).or
            (more.find? (args.length < ·)) =
          filling.missing.or ((number.toList ++ more).find? (args.length < ·)) := by
      rw [List.find?_append, Option.or_assoc]
      cases number with
      | none => rfl
      | some n => rw [Option.toList_some, List.find?_singleton, Option.filter_some]
    rw [written, List.cons_append] at hhead ⊢
    rw [replaceAll, hhead]
    simp only [List.length_cons, Nat.add_sub_cancel, replaceAll_length, fillMatch_slot, ih]
    rw [shown_cons, numbers_cons, turns_cons counted (.inr slot) parts, hfirst, Nat.add_assoc]
  | @letter c rest parts hnone _ ih =>
    have hturns : turns counted [.inl c] = 0 := rfl
    rw [replaceAll, head?_ways_eq_none hnone, ih, shown_cons, numbers_cons,
      turns_cons counted (.inl c) parts, hturns, Nat.zero_add]
    rfl

end Slot

/-! ## Rendering -/

theorem replaced_of_read {template : Template} {id : String} {marks : List (Char ⊕ Unit)}
    {parts : List (Char ⊕ Slot)} (hmarks : ReadAs idMarks template.body.toList marks)
    (hparts : ReadAs Slot.written (withId id marks) parts) (args : List String) :
    template.replaced id args = Slot.outcome Slot.counted template.name args parts := by
  have hreplaced := Slot.replaceAll_eq hparts args Filling.start
  unfold Template.replaced Slot.outcome
  rw [replace_idMark_toList hmarks, hreplaced]
  cases hmissing : (Slot.numbers Slot.counted 0 parts).find? (args.length < ·) with
  | none => simp only [Filling.start, Option.none_or, hmissing]
  | some n => simp only [Filling.start, Option.none_or, hmissing]

/-- A template is rendered as its slots say. Its body, with the id in the place of each mark, is
read from the left in the only way there is. If all arguments that are asked for are there, they
are put in as they are, and otherwise the first one that is not is reported. Numbers of arguments
are counted from one. Replacing all matches of the pattern for slots gives the same. -/
theorem render_eq_outcome (template : Template) (id : String) :
    ∃ marks parts,
      (∀ other, ReadAs idMarks template.body.toList other ↔ other = marks) ∧
      (∀ other, ReadAs Slot.written (withId id marks) other ↔ other = parts) ∧
      (∀ n ∈ Slot.numbers Slot.counted 0 parts, 0 < n) ∧
      ∀ args, template.render id args = Slot.outcome Slot.counted template.name args parts ∧
        template.replaced id args = template.render id args := by
  obtain ⟨marks, hmarks⟩ :=
    ReadAs.exists_parts prefixFree_idMarks.ne_nil template.body.toList
  obtain ⟨parts, hparts⟩ :=
    ReadAs.exists_parts Slot.prefixFree_written.ne_nil (withId id marks)
  refine ⟨marks, parts, hmarks.iff_eq prefixFree_idMarks, hparts.iff_eq Slot.prefixFree_written,
    fun _ => Slot.pos_of_mem_numbers, fun args => ?_⟩
  have hrender := render_of_read hmarks hparts args
  exact ⟨hrender, (replaced_of_read hmarks hparts args).trans hrender.symm⟩

end Modforge
