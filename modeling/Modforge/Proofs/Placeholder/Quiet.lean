import Modforge.Proofs.Layout.Bundled
import Modforge.Proofs.Placeholder.Kept

/-!
# Bundled texts keep names apart

It is enough that no place for a name follows a percent sign, a digit or a letter of an id mark.
This is so in all bundled texts, so what they ask for does not depend on the names in them.
-/

namespace Modforge

/-- No name after this letter can go on with what is written before it. -/
def isQuiet (c : Char) : Bool :=
  !(Text.isDigit c || c == '%' || Template.idMark.toList.contains c)

/-- Whether there is a quiet letter before each place for a name, given the letter before the text
if there is one. -/
def quietAfter (last : Option Char) : List Char → Bool
  | [] => true
  | c :: rest =>
    (!(['$', '\x7b'].isPrefixOf (c :: rest)) || last.any isQuiet) && quietAfter (some c) rest

theorem quiet_of_quietAfter {last : Option Char} {before after : List Char}
    (h : quietAfter last (before ++ '$' :: '\x7b' :: after) = true) :
    (before.getLast?.or last).any isQuiet = true := by
  induction before generalizing last with
  | nil =>
    rw [List.nil_append, quietAfter, Bool.and_eq_true] at h
    exact h.1
  | cons c rest ih =>
    rw [List.cons_append, quietAfter, Bool.and_eq_true] at h
    have hrest := ih h.2
    rw [List.getLast?_cons, Option.some_or]
    cases hlast : rest.getLast? with
    | none => simpa [hlast] using hrest
    | some d => simpa [hlast] using hrest

section

variable {body : String} {marks : List Mark} {parts : List (Mark ⊕ Slot)}

theorem exists_letter_of_quiet (h : quietAfter none body.toList = true)
    (hmarks : ReadAs Placeholder.written body.toList marks) {before after : List Mark}
    {p : Placeholder} (hsplit : marks = before ++ .inr p :: after) :
    ∃ front c, before = front ++ [.inl c] ∧ isQuiet c = true := by
  have hwritten : ∃ rest, Placeholder.written p = '$' :: '\x7b' :: rest := by
    cases p <;> exact ⟨_, rfl⟩
  obtain ⟨rest, hwritten⟩ := hwritten
  have hbody := hmarks.spellOut_eq
  rw [hsplit, spellOut_append, spellOut_form, hwritten] at hbody
  rw [← hbody] at h
  have hlast := quiet_of_quietAfter h
  rcases List.eq_nil_or_concat before with rfl | ⟨front, mark, rfl⟩
  · cases hlast
  · rw [List.concat_eq_append, spellOut_append] at hlast
    rcases mark with c | q
    · refine ⟨front, c, List.concat_eq_append, ?_⟩
      simpa using hlast
    · have hclosed : ∃ rest, spellOut Placeholder.written [.inr q] = rest ++ ['\x7d'] := by
        cases q
        · exact ⟨"$\x7bmodid".toList, rfl⟩
        · exact ⟨"$\x7bid".toList, rfl⟩
      obtain ⟨rest, hclosed⟩ := hclosed
      rw [hclosed, ← List.append_assoc, List.getLast?_concat] at hlast
      exact absurd hlast (by decide)

theorem namesApart_of_quiet (h : quietAfter none body.toList = true)
    (hmarks : ReadAs Placeholder.written body.toList marks)
    (hparts : ReadAs Slot.plain marks parts) : NamesApart marks parts := by
  have hletter {front : List Mark} {mark : Mark} {p : Placeholder} {after : List Mark}
      (hsplit : marks = front ++ mark :: .inr p :: after) :
      ∃ c, mark = .inl c ∧ isQuiet c = true := by
    rw [← List.singleton_append, ← List.append_assoc] at hsplit
    obtain ⟨front', c, hfront, hc⟩ := exists_letter_of_quiet h hmarks hsplit
    exact ⟨c, by simpa using (List.append_inj' hfront rfl).2, hc⟩
  constructor
  · rintro ⟨before, after, names, hmark, front, back, hsplit⟩
    -- the namespace begins the id mark or stands behind a letter of it
    rcases List.eq_nil_or_concat before with rfl | ⟨start, d, rfl⟩
    · obtain ⟨c, more, hname⟩ := List.exists_cons_of_ne_nil (names.name_ne_nil .space)
      have hfirst : names.name .space ++ after = '$' :: Template.idMark.toList.drop 1 := hmark
      rw [hname] at hfirst
      obtain ⟨rfl, -⟩ := List.cons.inj hfirst
      exact names.not_mem_name (by decide) (hname ▸ List.mem_cons_self : '$' ∈ names.name .space)
    · obtain ⟨c, hc, hquiet⟩ := @hletter (front ++ start.map .inl) (.inl d) .space
        (after.map .inl ++ back) (by simp [← hsplit])
      obtain rfl := Sum.inl.inj hc
      have hmem : d ∈ Template.idMark.toList := by simp [← hmark]
      simp only [isQuiet, List.contains_iff_mem.2 hmem, Bool.or_true, Bool.not_true] at hquiet
      cases hquiet
  · intro before after hsplit hopen
    have hspelled := hparts.spellOut_eq
    rw [hsplit, spellOut_append, spellOut_letter] at hspelled
    generalize spellOut Slot.plain before = front at hspelled
    generalize spellOut Slot.plain after = rest at hspelled hopen
    -- the name stands behind a percent sign, a digit or a dollar sign
    cases hopen with
    | atOnce p rest =>
      obtain ⟨c, hc, hquiet⟩ := hletter hspelled.symm
      obtain rfl := Sum.inl.inj hc
      exact absurd hquiet (by decide)
    | @inNumber run hrun p hp kind rest =>
      obtain ⟨start, more, rfl⟩ := List.append_of_mem hp
      rcases List.eq_nil_or_concat start with rfl | ⟨start, mark, rfl⟩
      · obtain ⟨c, hc, hquiet⟩ := hletter hspelled.symm
        obtain rfl := Sum.inl.inj hc
        exact absurd hquiet (by decide)
      · obtain ⟨c, rfl, hquiet⟩ := @hletter (front ++ .inl '%' :: start) mark p
          (more ++ .inl '$' :: .inl (Slot.letter kind) :: rest) (by simp [← hspelled])
        have hdigit := hrun.digit c (by simp)
        simp only [isQuiet, hdigit, Bool.true_or, Bool.not_true] at hquiet
        cases hquiet
    | @afterNumber run hrun p hp rest =>
      obtain ⟨c, hc, hquiet⟩ := @hletter (front ++ .inl '%' :: run) (.inl '$') p rest
        (by simp [← hspelled])
      obtain rfl := Sum.inl.inj hc
      exact absurd hquiet (by decide)

end

theorem quiet_bundled : ∀ file ∈ Bundled.files, quietAfter none file.2.toList = true := by
  simp only [Bundled.files, List.forall_mem_cons, Bundled.blockModel, Bundled.blockState,
    Bundled.itemModel, Bundled.blockItemModel, Bundled.dropOther, Bundled.dropSelf,
    Bundled.dropSelfSilk, Bundled.registrarLayout, toList_lines, List.flatMap_cons,
    List.flatMap_nil]
  -- lines are taken as lists of letters, which need no decoding
  repeat rw [String.toList_ofList]
  decide +kernel

/-- What a bundled text asks for does not depend on the names in it. -/
theorem bundled_kept {path body : String} (h : (path, body) ∈ Bundled.files) :
    ∃ numbers, ∀ (names : Names) name kind origin,
      let template := Template.make name kind body names.space origin
      (∀ other, template.Asks names.id other ↔ other = numbers) ∧
        ∀ args, (∃ text, template.render names.id args = .ok text) ↔
          ∀ n ∈ numbers, n ≤ args.length := by
  obtain ⟨marks, hmarks⟩ := ReadAs.exists_parts prefixFree_placeholder.ne_nil body.toList
  obtain ⟨parts, hparts⟩ := ReadAs.exists_parts prefixFree_plain.ne_nil marks
  exact (namesApart_of_quiet (quiet_bundled _ h) hmarks hparts).exists_numbers hmarks hparts

end Modforge
