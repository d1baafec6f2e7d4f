import Mathlib.Data.List.Nodup
import Modforge.Proofs.Confined
import Modforge.Proofs.Placeholder.Spec
import Modforge.Proofs.Resolved
import Modforge.Proofs.Slot.Scanned

/-!
# Names are put in one after the other

First the namespace is put in, then the id for each mark that is found. Both stand where the text
has a place for them, and nowhere else, unless a namespace stands for letters of a mark.
-/

namespace Modforge

/-! ## Letters of names -/

namespace Names

variable (names : Names)

theorem name_ne_nil (p : Placeholder) : names.name p ≠ [] := by
  cases p with
  | space =>
    have hne := (checkNamespace_eq_ok_iff.1 names.space_ok).1
    simpa [name] using hne
  | id =>
    have hid := checkId_eq_ok_iff.1 names.id_ok
    simp only [Naming.isWordOf, Bool.and_eq_true, Bool.not_eq_true', List.isEmpty_eq_false_iff]
      at hid
    exact hid.1

theorem isIdChar_of_mem {p : Placeholder} {c : Char} (h : c ∈ names.name p) :
    Naming.isIdChar c = true := by
  cases p with
  | space => simp [Naming.isIdChar, (checkNamespace_eq_ok_iff.1 names.space_ok).2 c h]
  | id =>
    have hid := checkId_eq_ok_iff.1 names.id_ok
    rw [Naming.isWordOf, Bool.and_eq_true, List.all_eq_true] at hid
    exact hid.2 c h

theorem not_mem_name {p : Placeholder} {c : Char} (hc : Naming.isIdChar c = false) :
    c ∉ names.name p := by
  intro h
  rw [names.isIdChar_of_mem h] at hc
  cases hc

end Names

/-! ## The namespace is put in -/

/-- The text with the namespace in its place, where ids have their places still. -/
def Names.spellSpace (names : Names) : Mark → List (Char ⊕ Unit)
  | .inl c => [.inl c]
  | .inr .space => (names.name .space).map .inl
  | .inr .id => [.inr ()]

theorem prefixFree_placeholder : PrefixFree Placeholder.written where
  ne_nil p := by cases p <;> decide
  eq_of_append {p p' rest rest'} h := by
    -- the third letters differ
    have hthird := congrArg (·[2]?) h
    cases p <;> cases p'
    · rfl
    · exact absurd (Option.some.inj hthird) (by decide : 'm' ≠ 'i')
    · exact absurd (Option.some.inj hthird) (by decide : 'i' ≠ 'm')
    · rfl

/-- No mark for an id is mistaken for a mark for the namespace. -/
theorem replaceFrom_idMark (new rest : List Char) :
    Text.replaceFrom Template.namespaceMark.toList new 0 (Template.idMark.toList ++ rest) =
      Template.idMark.toList ++
        Text.replaceFrom Template.namespaceMark.toList new 0 rest := by
  rfl

theorem make_body_toList {body : String} {marks : List Mark}
    (h : ReadAs Placeholder.written body.toList marks) (names : Names) :
    (Text.replace Template.namespaceMark names.space body).toList =
      spellOut idMarks (marks.flatMap names.spellSpace) := by
  rw [Text.replace, String.toList_ofList]
  change Text.replaceFrom Template.namespaceMark.toList names.space.toList 0 body.toList = _
  generalize body.toList = text at h
  induction h with
  | nil => rfl
  | @form p rest parts _ ih =>
    rw [List.flatMap_cons]
    cases p with
    | id =>
      rw [Placeholder.written, replaceFrom_idMark, ih]
      rfl
    | space =>
      rw [Names.spellSpace, spellOut_letters, ← ih]
      exact replaceFrom_append (prefixFree_placeholder.ne_nil .space) _ rest
  | @letter c rest parts hnone _ ih =>
    have hspace : ¬ Template.namespaceMark.toList <+: c :: rest := hnone .space
    rw [replaceFrom_cons hspace, ih]
    rfl

/-! ## The id is put in -/

theorem withId_spellSpace (names : Names) (marks : List Mark) :
    withId names.id (marks.flatMap names.spellSpace) = marks.flatMap names.spell := by
  induction marks with
  | nil => rfl
  | cons mark rest ih =>
    rw [List.flatMap_cons, List.flatMap_cons, ← ih]
    rcases mark with c | _ | _
    · rfl
    · exact spellOut_letters _ _ _
    · rfl

theorem eq_of_spellOut {α : Type} {a b : α} (hne : a ≠ b) {marks marks' : List (α ⊕ Unit)}
    (ha : spellOut (fun _ => [a]) marks = spellOut (fun _ => [a]) marks')
    (hb : spellOut (fun _ => [b]) marks = spellOut (fun _ => [b]) marks') : marks = marks' := by
  induction marks generalizing marks' with
  | nil =>
    rcases marks' with _ | ⟨_ | _, _⟩
    · rfl
    · cases ha
    · cases ha
  | cons mark rest ih =>
    rcases marks' with _ | ⟨mark', rest'⟩
    · rcases mark with _ | _ <;> cases ha
    · have hheads : mark = mark' ∧
          spellOut (fun _ => [a]) rest = spellOut (fun _ => [a]) rest' ∧
          spellOut (fun _ => [b]) rest = spellOut (fun _ => [b]) rest' := by
        rcases mark with c | _ <;> rcases mark' with c' | _ <;>
          simp only [spellOut_letter, spellOut_form, List.singleton_append,
            List.cons.injEq] at ha hb
        · exact ⟨congrArg _ ha.1, ha.2, hb.2⟩
        · exact absurd (ha.1.symm.trans hb.1) hne
        · exact absurd (ha.1.trans hb.1.symm) hne
        · exact ⟨rfl, ha.2, hb.2⟩
      obtain ⟨rfl, harest, hbrest⟩ := hheads
      rw [ih harest hbrest]

/-! ## Letters of a mark -/

section

variable {text : List Char} {marks : List Mark}

theorem flatMap_spellSpace_letters (names : Names) (letters : List Char) :
    (letters.map .inl).flatMap names.spellSpace = letters.map .inl := by
  rw [List.flatMap_map, ← List.flatMap_pure_eq_map]
  rfl

theorem eq_of_mem_spellSpace {names : Names} {c : Char} (hc : Naming.isIdChar c = false)
    (mark : Mark) (h : .inl c ∈ names.spellSpace mark) : mark = .inl c := by
  rcases mark with d | _ | _
  · rw [Sum.inl.inj (List.mem_singleton.1 h)]
  · obtain ⟨d, hd, heq⟩ := List.mem_map.1 h
    obtain rfl := Sum.inl.inj heq
    exact absurd hd (names.not_mem_name hc)
  · cases List.mem_singleton.1 h

theorem not_mem_id {names : Names} {run : List Mark} {letters : List Char}
    (h : run.flatMap names.spellSpace = letters.map .inl) : .inr .id ∉ run := by
  intro hid
  have hmem : .inr () ∈ run.flatMap names.spellSpace :=
    List.mem_flatMap.2 ⟨_, hid, List.mem_singleton_self _⟩
  rw [h] at hmem
  simp at hmem

theorem exists_split_of_space {names : Names} {run : List Mark} {letters : List Char}
    (hnodup : letters.Nodup) (h : run.flatMap names.spellSpace = letters.map .inl)
    (hspace : .inr .space ∈ run) :
    ∃ before after, before ++ names.space.toList ++ after = letters ∧
      run = before.map .inl ++ .inr .space :: after.map .inl := by
  have hid := not_mem_id h
  obtain ⟨c, hc⟩ := List.exists_mem_of_ne_nil _ (names.name_ne_nil .space)
  have hname : .inl c ∈ names.spellSpace (.inr .space) := List.mem_map_of_mem hc
  have hmem {part : List Mark} (hpart : .inr .space ∈ part) :
      .inl c ∈ part.flatMap names.spellSpace := List.mem_flatMap.2 ⟨_, hpart, hname⟩
  obtain ⟨front, back, rfl⟩ := List.append_of_mem hspace
  rw [List.flatMap_append, List.flatMap_cons] at h
  have hmapped : (letters.map (Sum.inl : Char → Char ⊕ Unit)).Nodup :=
    List.Nodup.map Sum.inl_injective hnodup
  rw [← h, List.nodup_append, List.nodup_append] at hmapped
  obtain ⟨-, ⟨-, -, hback⟩, hfront⟩ := hmapped
  obtain ⟨before, rfl⟩ : ∃ before : List Char, front = before.map .inl := by
    refine exists_letters fun p hp => ?_
    cases p with
    | space => exact hfront _ (hmem hp) _ (List.mem_append_left _ hname) rfl
    | id => exact hid (List.mem_append_left _ hp)
  obtain ⟨after, rfl⟩ : ∃ after : List Char, back = after.map .inl := by
    refine exists_letters fun p hp => ?_
    cases p with
    | space => exact hback _ hname _ (hmem hp) rfl
    | id => exact hid (List.mem_append_right _ (List.mem_cons_of_mem _ hp))
  refine ⟨before, after, ?_, rfl⟩
  rw [flatMap_spellSpace_letters, flatMap_spellSpace_letters, Names.spellSpace, ← List.map_append,
    ← List.map_append] at h
  rw [List.append_assoc]
  exact List.map_injective_iff.2 Sum.inl_injective h

theorem mayMark_iff (hmarks : ReadAs Placeholder.written text marks) :
    MayMark marks ↔
      ∃ names : Names, Template.idMark.toList.map .inl <:+: marks.flatMap names.spellSpace := by
  constructor
  · rintro ⟨before, after, names, hmark, front, back, rfl⟩
    refine ⟨names, front.flatMap names.spellSpace, back.flatMap names.spellSpace, ?_⟩
    simp only [← hmark, List.flatMap_append, List.flatMap_cons, flatMap_spellSpace_letters,
      List.map_append, Names.spellSpace, Names.name, List.append_assoc]
  · rintro ⟨names, front, back, hinfix⟩
    have hopen (c : Char) : names.spellSpace (.inl c) = [.inl c] := rfl
    have hmark : Template.idMark.toList = '$' :: (['\x7b', 'i', 'd'] ++ ['\x7d']) := by decide
    rw [hmark, List.map_cons, List.append_assoc, List.cons_append, List.map_append,
      List.append_assoc] at hinfix
    obtain ⟨before, rest, rfl, -, hrest⟩ := exists_split_of_only (hopen '$')
      (eq_of_mem_spellSpace (by decide)) hinfix.symm
    obtain ⟨run, after, rfl, hrun, -⟩ := exists_split_of_only (hopen '\x7d')
      (eq_of_mem_spellSpace (by decide)) hrest
    have hspace : .inr .space ∈ run := by
      by_contra hspace
      obtain ⟨letters, rfl⟩ : ∃ letters : List Char, run = letters.map .inl := by
        refine exists_letters fun p hp => ?_
        cases p with
        | space => exact hspace hp
        | id => exact not_mem_id hrun hp
      rw [flatMap_spellSpace_letters] at hrun
      obtain rfl := List.map_injective_iff.2 Sum.inl_injective hrun
      refine hmarks.not_form rfl .id ⟨spellOut Placeholder.written after, ?_⟩
      rw [spellOut_letters]
      rfl
    obtain ⟨front', back', hletters, rfl⟩ := exists_split_of_space (by decide) hrun hspace
    refine ⟨'$' :: front', back' ++ ['\x7d'], names, ?_, before, after, ?_⟩
    · rw [hmark, ← hletters]
      simp
    · simp

end

end Modforge
