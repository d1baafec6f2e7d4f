import Mathlib.Data.List.TakeWhile
import Mathlib.Data.PNat.Basic
import Modforge.Proofs.Numeral
import Modforge.Proofs.Slot.Spec

/-! # Rendering fills the slots of a text -/

namespace Modforge

namespace Slot

/-! ## Slots at the front of a text -/

theorem not_isDigit_letter (kind : SlotKind) : Text.isDigit (letter kind) = false := by
  cases kind <;> decide

theorem letter_injective {kind kind' : SlotKind} (h : letter kind = letter kind') :
    kind = kind' := by
  revert h
  cases kind <;> cases kind' <;> decide

theorem takeWhile_digits {digits rest : List Char}
    (hdigits : ∀ c ∈ digits, Text.isDigit c = true)
    (hstop : ∀ c ∈ rest.head?, Text.isDigit c = false) :
    (digits ++ rest).takeWhile Text.isDigit = digits := by
  rw [List.takeWhile_append_of_pos hdigits]
  cases rest with
  | nil => simp
  | cons c more => rw [List.takeWhile_cons_of_neg (by simp [hstop c rfl]), List.append_nil]

theorem takeWhile_written (slot : Slot) (rest : List Char) :
    (numberText slot.number ++ letter slot.kind :: rest).takeWhile Text.isDigit =
      (digits? slot.number).getD [] := by
  obtain ⟨number, kind⟩ := slot
  cases number with
  | none => exact List.takeWhile_cons_of_neg (by simp [not_isDigit_letter])
  | some n =>
    rw [numberText, List.append_assoc]
    exact takeWhile_digits (fun _ => Text.isDigit_of_mem_toDigits) fun c hc =>
      Option.some.inj hc ▸ (by decide)

theorem prefixFree_written : PrefixFree written where
  ne_nil _ := List.cons_ne_nil _ _
  eq_of_append {slot slot' rest rest'} h := by
    simp only [written, List.cons_append, List.cons.injEq, true_and, List.append_assoc,
      List.nil_append] at h
    have hdigits := congrArg (List.takeWhile Text.isDigit) h
    rw [takeWhile_written, takeWhile_written] at hdigits
    obtain ⟨number, kind⟩ := slot
    obtain ⟨number', kind'⟩ := slot'
    have hnumber : number = number' := by
      cases number with
      | none =>
        cases number' with
        | none => rfl
        | some n' => exact absurd hdigits.symm Nat.toDigits_ne_nil
      | some n =>
        cases number' with
        | none => exact absurd hdigits Nat.toDigits_ne_nil
        | some n' =>
          have hvalue := congrArg Text.valueOfDigits hdigits
          simp only [digits?, Option.map_some, Option.getD_some, Text.valueOfDigits_toDigits]
            at hvalue
          rw [PNat.eq hvalue]
    subst hnumber
    obtain ⟨hkind, -⟩ := List.cons.inj (List.append_cancel_left h)
    obtain rfl := letter_injective hkind
    rfl

/-! ## Pieces -/

def argumentPiece : Option Nat → Piece
  | none => .next
  | some n => .nth n

def piece : Char ⊕ Slot → Piece
  | .inl c => .char c
  | .inr slot =>
    match slot.kind with
    | .argument => argumentPiece slot.counted
    | .newline => .char '\n'
    | .percent => .char '%'

theorem closed_letter (argument : Piece) (kind : SlotKind) :
    closed argument (letter kind) = some (match kind with
      | .argument => argument
      | .newline => .char '\n'
      | .percent => .char '%') := by
  cases kind <;> rfl

theorem exists_letter_of_closed {argument piece : Piece} {c : Char}
    (h : closed argument c = some piece) : ∃ kind, letter kind = c := by
  unfold closed at h
  split at h
  · exact ⟨.argument, rfl⟩
  · exact ⟨.newline, rfl⟩
  · exact ⟨.percent, rfl⟩
  · cases h

theorem counted_some (n : ℕ+) (kind : SlotKind) :
    argumentPiece (counted ⟨some n, kind⟩) =
      if (n : Nat) < numberLimit then .nth n else .next := by
  by_cases h : (n : Nat) < numberLimit <;> simp [counted, own, Option.filter, h, argumentPiece]

theorem open?_number (n : ℕ+) (text : List Char) :
    (∀ c ∈ text.head?, Text.isDigit c = false) →
    open? (Nat.toDigits 10 n ++ text) = match text with
      | '$' :: c :: _ => (closed (if (n : Nat) < numberLimit then .nth n else .next) c).map
        fun piece => (piece, (Nat.toDigits 10 n).length + 2)
      | _ => none := by
  intro hstop
  have htake : (Nat.toDigits 10 n ++ text).takeWhile Text.isDigit = Nat.toDigits 10 n :=
    takeWhile_digits (fun _ => Text.isDigit_of_mem_toDigits) hstop
  have hhead := Text.head?_toDigits_ne_zero n.pos
  have hvalue := Text.valueOfDigits_toDigits n
  unfold open?
  simp only [htake]
  generalize Nat.toDigits 10 n = digits at *
  cases digits with
  | nil => exact absurd hvalue n.pos.ne
  | cons first more =>
    rw [List.head?_cons, ne_eq, Option.some.injEq] at hhead
    obtain _ | ⟨mark, _ | ⟨kind, rest⟩⟩ := text
    · simp only [if_neg hhead, List.drop_left]
    · simp only [if_neg hhead, List.drop_left]
    · by_cases hmark : mark = '$' <;> simp [hhead, hvalue, hmark]

theorem open?_written (slot : Slot) (rest : List Char) :
    open? (numberText slot.number ++ letter slot.kind :: rest) =
      some (piece (.inr slot), (numberText slot.number).length + 1) := by
  obtain ⟨number, kind⟩ := slot
  cases number with
  | none => cases kind <;> rfl
  | some n =>
    have hstop : ∀ c ∈ ('$' :: letter kind :: rest).head?, Text.isDigit c = false := by
      intro c hc
      obtain rfl := Option.some.inj hc
      decide
    rw [numberText, List.append_assoc, List.singleton_append, open?_number n _ hstop]
    simp only [closed_letter, Option.map_some, List.length_append, List.length_singleton]
    cases kind <;> simp only [piece, counted_some]

theorem exists_written_of_open? {text : List Char} (h : open? text ≠ none) :
    ∃ slot, written slot <+: '%' :: text := by
  have hdigit : ∀ c ∈ text.takeWhile Text.isDigit, Text.isDigit c = true :=
    fun c => List.mem_takeWhile_imp
  have hstop : ∀ c ∈ (text.dropWhile Text.isDigit).head?, Text.isDigit c = false := by
    intro c hc
    have hnot := List.head?_dropWhile_not Text.isDigit text
    rwa [Option.mem_def.1 hc] at hnot
  have hsplit := List.takeWhile_append_dropWhile (p := Text.isDigit) (l := text)
  generalize text.takeWhile Text.isDigit = digits at *
  generalize text.dropWhile Text.isDigit = after at *
  subst hsplit
  by_cases hnumeral : Text.IsNumeral digits
  · obtain ⟨n, hn, rfl⟩ := hnumeral.exists_toDigits
    lift n to ℕ+ using hn
    rw [open?_number _ _ hstop] at h
    split at h
    · next c rest =>
      obtain ⟨opened, hopened⟩ := Option.ne_none_iff_exists'.1 h
      obtain ⟨piece, hclosed, -⟩ := Option.map_eq_some_iff.1 hopened
      obtain ⟨kind, rfl⟩ := exists_letter_of_closed hclosed
      exact ⟨⟨some n, kind⟩, rest, by simp [written, numberText]⟩
    · exact absurd rfl h
  · -- without a number only a letter can close the slot
    have htake := takeWhile_digits hdigit hstop
    unfold open? at h
    simp only [htake] at h
    cases digits with
    | nil =>
      obtain ⟨opened, hopened⟩ := Option.ne_none_iff_exists'.1 h
      obtain ⟨piece, hpiece, -⟩ := Option.map_eq_some_iff.1 hopened
      obtain ⟨c, hc, hclosed⟩ := Option.bind_eq_some_iff.1 hpiece
      obtain ⟨kind, rfl⟩ := exists_letter_of_closed hclosed
      obtain ⟨rest, hafter⟩ := List.head?_eq_some_iff.1 hc
      exact ⟨⟨none, kind⟩, rest, congrArg (List.cons '%') hafter.symm⟩
    | cons first more =>
      have hzero : first = '0' := by
        by_contra hne
        exact hnumeral ⟨List.cons_ne_nil _ _, by simpa using hne, hdigit⟩
      exact absurd (if_pos hzero) h

/-! ## Scanning -/

theorem scanFrom_length (letters rest : List Char) :
    scanFrom letters.length (letters ++ rest) = scanFrom 0 rest := by
  induction letters with
  | nil => rfl
  | cons c more ih => exact ih

theorem scanFrom_eq_map {text : List Char} {parts : List (Char ⊕ Slot)}
    (h : ReadAs written text parts) : scanFrom 0 text = parts.map piece := by
  induction h with
  | nil => rfl
  | @form slot rest parts _ ih =>
    have hopen := open?_written slot rest
    have hsize : (numberText slot.number).length + 1 =
        (numberText slot.number ++ [letter slot.kind]).length := by
      rw [List.length_append, List.length_singleton]
    rw [← List.singleton_append, ← List.append_assoc] at hopen
    rw [written, List.cons_append, scanFrom, if_pos rfl, hopen]
    simp only [hsize, scanFrom_length, ih, List.map_cons]
  | @letter c rest parts hnone _ ih =>
    rw [scanFrom]
    split
    · next hc =>
      subst hc
      have hclosed : open? rest = none := by
        by_contra hopen
        obtain ⟨slot, hslot⟩ := exists_written_of_open? hopen
        exact hnone slot hslot
      rw [hclosed, ih]
      rfl
    · rw [ih]
      rfl

/-! ## Filling -/

theorem pos_of_own {slot : Slot} {n : Nat} (h : slot.own = some n) : 0 < n := by
  obtain ⟨m, -, rfl⟩ := Option.map_eq_some_iff.1 h
  exact m.pos

theorem pos_of_counted {slot : Slot} {n : Nat} (h : slot.counted = some n) : 0 < n :=
  pos_of_own (Option.filter_eq_some_iff.1 h).1

section

variable (index : Slot → Option Nat) (args : List String)

theorem turns_cons (part : Char ⊕ Slot) (rest : List (Char ⊕ Slot)) :
    turns index (part :: rest) = turns index [part] + turns index rest := by
  rw [← List.singleton_append, turns, List.countP_append]
  rfl

theorem numbered_cons (used : Nat) (part : Char ⊕ Slot) (rest : List (Char ⊕ Slot)) :
    numbered index used (part :: rest) =
      (part, asked? index used part) :: numbered index (used + turns index [part]) rest := by
  have hturns (before : List (Char ⊕ Slot)) :
      used + turns index (part :: before) =
        used + turns index [part] + turns index before := by
    rw [turns_cons index part before, Nat.add_assoc]
  rw [numbered, List.inits_cons, List.zip_cons_cons, List.map_cons, List.zip_map_left,
    List.map_map, numbered]
  refine congrArg (List.cons _) (List.map_congr_left fun placed _ => ?_)
  exact congrArg (fun n => (placed.2, asked? index n placed.2)) (hturns placed.1)

theorem numbers_cons (used : Nat) (part : Char ⊕ Slot) (rest : List (Char ⊕ Slot)) :
    numbers index used (part :: rest) =
      (asked? index used part).toList ++ numbers index (used + turns index [part]) rest := by
  rw [numbers, numbered_cons, List.filterMap_cons]
  cases asked? index used part <;> rfl

theorem shown_cons (used : Nat) (part : Char ⊕ Slot) (rest : List (Char ⊕ Slot)) :
    shown index args used (part :: rest) =
      shownAs args (asked? index used part) part ++
        shown index args (used + turns index [part]) rest := by
  rw [shown, numbered_cons, List.flatMap_cons, shown]

/-- What comes of a text after `used` turns, or the number of its first missing argument. -/
def filled (used : Nat) (parts : List (Char ⊕ Slot)) : Except Nat (List Char) :=
  match (numbers index used parts).find? (args.length < ·) with
  | none => .ok (shown index args used parts)
  | some n => .error n

theorem filled_cons (used : Nat) (part : Char ⊕ Slot) (rest : List (Char ⊕ Slot)) :
    filled index args used (part :: rest) =
      match (asked? index used part).filter (args.length < ·) with
      | some n => .error n
      | none => (filled index args (used + turns index [part]) rest).map
          (shownAs args (asked? index used part) part ++ ·) := by
  unfold filled numbers shown
  rw [numbered_cons, List.flatMap_cons, List.filterMap_cons]
  cases asked? index used part with
  | none =>
    generalize List.find? _ _ = missing
    cases missing <;> rfl
  | some n =>
    by_cases hmissing : args.length < n
    · simp only [List.find?_cons, Option.filter_some, hmissing, decide_true, if_true]
    · simp only [List.find?_cons, Option.filter_some, hmissing, decide_false]
      generalize List.find? _ _ = missing
      cases missing <;> rfl

end

theorem fill_nth (args : List String) (used : Nat) {n : Nat} (hn : 0 < n) (rest : List Piece) :
    fill args used (.nth n :: rest) =
      if args.length < n then .error n
      else (fill args used rest).map ((args[n - 1]?.getD "").toList ++ ·) := by
  rw [fill]
  by_cases hmissing : args.length < n
  · rw [List.getElem?_eq_none (by omega), if_pos hmissing]
  · rw [List.getElem?_eq_getElem (by omega : n - 1 < args.length), if_neg hmissing]
    rfl

theorem fill_next (args : List String) (used : Nat) (rest : List Piece) :
    fill args used (.next :: rest) =
      if args.length < used + 1 then .error (used + 1)
      else (fill args (used + 1) rest).map ((args[used]?.getD "").toList ++ ·) := by
  rw [fill]
  by_cases hmissing : args.length < used + 1
  · rw [List.getElem?_eq_none (by omega), if_pos hmissing]
  · rw [List.getElem?_eq_getElem (by omega : used < args.length), if_neg hmissing]
    rfl

theorem fill_eq_filled (args : List String) (used : Nat) (parts : List (Char ⊕ Slot)) :
    fill args used (parts.map piece) = filled counted args used parts := by
  induction parts generalizing used with
  | nil => rfl
  | cons part rest ih =>
    rw [filled_cons, List.map_cons]
    rcases part with c | slot
    · rw [piece, fill, ih]
      rfl
    · rw [piece]
      cases hkind : slot.kind with
      | argument =>
        cases hcounted : slot.counted with
        | none =>
          have hasked : asked? counted used (.inr slot) = some (used + 1) := by
            simp [asked?, hkind, hcounted]
          have hturns : turns counted [.inr slot] = 1 := by
            simp [turns, takesTurn, hkind, hcounted]
          simp only [hasked, hturns, argumentPiece, fill_next, ih, shownAs, hkind,
            Option.filter_some, decide_eq_true_eq]
          split <;> rfl
        | some n =>
          have hasked : asked? counted used (.inr slot) = some n := by
            simp [asked?, hkind, hcounted]
          have hturns : turns counted [.inr slot] = 0 := by
            simp [turns, takesTurn, hcounted]
          simp only [hasked, hturns, argumentPiece, fill_nth args used (pos_of_counted hcounted),
            ih, shownAs, hkind, Option.filter_some, decide_eq_true_eq]
          split <;> rfl
      | newline =>
        have hasked : asked? counted used (.inr slot) = none := by simp [asked?, hkind]
        have hturns : turns counted [.inr slot] = 0 := by simp [turns, takesTurn, hkind]
        simp only [hasked, hturns, fill, ih, shownAs, hkind]
        rfl
      | percent =>
        have hasked : asked? counted used (.inr slot) = none := by simp [asked?, hkind]
        have hturns : turns counted [.inr slot] = 0 := by simp [turns, takesTurn, hkind]
        simp only [hasked, hturns, fill, ih, shownAs, hkind]
        rfl

theorem pos_of_mem_numbers {used : Nat} {parts : List (Char ⊕ Slot)} {n : Nat}
    (h : n ∈ numbers counted used parts) : 0 < n := by
  obtain ⟨numbered, hnumbered, hn⟩ := List.mem_filterMap.1 h
  obtain ⟨⟨before, part⟩, -, rfl⟩ := List.mem_map.1 hnumbered
  rcases part with c | slot
  · cases hn
  · simp only [asked?] at hn
    split at hn
    · cases hcounted : slot.counted with
      | none =>
        rw [hcounted] at hn
        cases hn
        exact Nat.succ_pos _
      | some m =>
        rw [hcounted] at hn
        cases hn
        exact pos_of_counted hcounted
    · cases hn
    · cases hn

end Slot

/-! ## Marks -/

theorem replaceFrom_length (pattern new letters rest : List Char) :
    Text.replaceFrom pattern new letters.length (letters ++ rest) =
      Text.replaceFrom pattern new 0 rest := by
  induction letters with
  | nil => rfl
  | cons c more ih => exact ih

theorem replaceFrom_append {pattern : List Char} (hne : pattern ≠ []) (new rest : List Char) :
    Text.replaceFrom pattern new 0 (pattern ++ rest) =
      new ++ Text.replaceFrom pattern new 0 rest := by
  obtain ⟨first, more, rfl⟩ := List.exists_cons_of_ne_nil hne
  have hprefix : (first :: more).isPrefixOf (first :: (more ++ rest)) = true :=
    List.isPrefixOf_iff_prefix.2 ⟨rest, rfl⟩
  rw [List.cons_append, Text.replaceFrom, if_pos hprefix, List.length_cons, Nat.add_sub_cancel,
    replaceFrom_length]

theorem replaceFrom_cons {pattern : List Char} {c : Char} {rest : List Char}
    (h : ¬ pattern <+: c :: rest) (new : List Char) :
    Text.replaceFrom pattern new 0 (c :: rest) = c :: Text.replaceFrom pattern new 0 rest := by
  have hprefix : ¬ pattern.isPrefixOf (c :: rest) = true := fun hprefix =>
    h (List.isPrefixOf_iff_prefix.1 hprefix)
  rw [Text.replaceFrom, if_neg hprefix]

theorem replaceFrom_eq_spellOut {pattern text : List Char} {marks : List (Char ⊕ Unit)}
    (hpattern : pattern ≠ []) (h : ReadAs (fun _ => pattern) text marks) (new : List Char) :
    Text.replaceFrom pattern new 0 text = spellOut (fun _ => new) marks := by
  induction h with
  | nil => rfl
  | form _ _ ih => rw [replaceFrom_append hpattern, ih, spellOut_form]
  | letter hnone _ ih => rw [replaceFrom_cons (hnone ()), ih, spellOut_letter]

theorem prefixFree_idMarks : PrefixFree idMarks where
  ne_nil := fun () => by decide
  eq_of_append _ := rfl

theorem replace_idMark_toList {body : String} {marks : List (Char ⊕ Unit)}
    (h : ReadAs idMarks body.toList marks) (id : String) :
    (Text.replace Template.idMark id body).toList = withId id marks := by
  rw [Text.replace, String.toList_ofList]
  exact replaceFrom_eq_spellOut (prefixFree_idMarks.ne_nil ()) h id.toList

/-! ## Rendering -/

theorem render_of_read {template : Template} {id : String} {marks : List (Char ⊕ Unit)}
    {parts : List (Char ⊕ Slot)} (hmarks : ReadAs idMarks template.body.toList marks)
    (hparts : ReadAs Slot.written (withId id marks) parts) (args : List String) :
    template.render id args = Slot.outcome Slot.counted template.name args parts := by
  rw [Template.render, Template.pieces, Slot.scan, replace_idMark_toList hmarks,
    Slot.scanFrom_eq_map hparts, Slot.fill_eq_filled, Slot.filled, Slot.outcome]
  generalize List.find? _ _ = missing
  cases missing <;> rfl

end Modforge
