import Modforge.Proofs.Placeholder.Opening

/-! # What a template asks for whatever the names -/

namespace Modforge

/-! ## Numbers and letters -/

namespace Slot

variable (index : Slot → Option Nat)

theorem numbers_letters (used : Nat) (letters : List Char) (parts : List (Char ⊕ Slot)) :
    numbers index used (letters.map .inl ++ parts) = numbers index used parts := by
  induction letters with
  | nil => rfl
  | cons c rest ih =>
    have hturns : turns index [.inl c] = 0 := rfl
    rw [List.map_cons, List.cons_append, numbers_cons, hturns, Nat.add_zero, ih]
    rfl

theorem numbers_respell {α : Type} (spell spell' : α → List Char) (used : Nat)
    (parts : List (α ⊕ Slot)) :
    numbers index used (respell spell parts) = numbers index used (respell spell' parts) := by
  induction parts generalizing used with
  | nil => rfl
  | cons part rest ih =>
    cases part with
    | inl a => rw [respell_letter, respell_letter, numbers_letters, numbers_letters, ih]
    | inr slot => rw [respell_form, respell_form, numbers_cons, numbers_cons, ih]

end Slot

theorem asks_iff {template : Template} {id : String} {marks : List (Char ⊕ Unit)}
    {parts : List (Char ⊕ Slot)} (hmarks : ReadAs idMarks template.body.toList marks)
    (hparts : ReadAs Slot.written (withId id marks) parts) (numbers : List Nat) :
    template.Asks id numbers ↔ numbers = Slot.numbers Slot.counted 0 parts := by
  constructor
  · rintro ⟨marks', parts', hmarks', hparts', rfl⟩
    obtain rfl := hmarks'.unique prefixFree_idMarks hmarks
    rw [hparts'.unique Slot.prefixFree_written hparts]
  · rintro rfl
    exact ⟨marks, parts, hmarks, hparts, rfl⟩

/-! ## Texts with names in them -/

section

variable {body : String} {marks : List Mark} {parts : List (Mark ⊕ Slot)}

theorem readAs_idMarks_iff (hmarks : ReadAs Placeholder.written body.toList marks) (names : Names) :
    ReadAs idMarks (Text.replace Template.namespaceMark names.space body).toList
        (marks.flatMap names.spellSpace) ↔
      ¬ Template.idMark.toList.map .inl <:+: marks.flatMap names.spellSpace := by
  have hopen : ∀ t, ∃ tail, idMarks t = '$' :: tail ∧ '$' ∉ tail :=
    fun _ => ⟨['\x7b', 'i', 'd', '\x7d'], rfl, by decide⟩
  rw [make_body_toList hmarks, ReadAs.spellOut_iff hopen]
  exact ⟨fun h => h (), fun h _ => h⟩

theorem readAs_of_spelled {names : Names}
    (h : ∀ id (hid : Naming.checkId id = .ok ()),
      (Text.replace Template.idMark id
        (Text.replace Template.namespaceMark names.space body)).toList =
        marks.flatMap (Names.spell ⟨names.space, id, names.space_ok, hid⟩)) :
    ReadAs idMarks (Text.replace Template.namespaceMark names.space body).toList
      (marks.flatMap names.spellSpace) := by
  obtain ⟨read, hread⟩ := ReadAs.exists_parts prefixFree_idMarks.ne_nil
    (Text.replace Template.namespaceMark names.space body).toList
  have hids (id : String) (hid : Naming.checkId id = .ok ()) :
      withId id read = withId id (marks.flatMap names.spellSpace) := by
    have hspelled := withId_spellSpace ⟨names.space, id, names.space_ok, hid⟩ marks
    rw [← h id hid, replace_idMark_toList hread] at hspelled
    exact hspelled.symm
  rw [← eq_of_spellOut (by decide : 'a' ≠ 'b') (hids "a" rfl) (hids "b" rfl)]
  exact hread

theorem NamesApart.readAs (h : NamesApart marks parts)
    (hmarks : ReadAs Placeholder.written body.toList marks)
    (hparts : ReadAs Slot.plain marks parts) (names : Names) :
    ReadAs idMarks (Text.replace Template.namespaceMark names.space body).toList
        (marks.flatMap names.spellSpace) ∧
      ReadAs Slot.written (withId names.id (marks.flatMap names.spellSpace))
        (respell names.spell parts) := by
  constructor
  · rw [readAs_idMarks_iff hmarks]
    exact fun hinfix => h.mark ((mayMark_iff hmarks).2 ⟨names, hinfix⟩)
  · rw [withId_spellSpace, readAs_spell_iff names hparts]
    intro before after hsplit slot hslot
    exact h.slot before after hsplit (mayOpen_of_written (hparts.not_form hsplit) hslot)

theorem namesApart_iff (hmarks : ReadAs Placeholder.written body.toList marks)
    (hparts : ReadAs Slot.plain marks parts) :
    NamesApart marks parts ↔ ∀ names : Names,
      ReadAs Slot.written
        (Text.replace Template.idMark names.id
          (Text.replace Template.namespaceMark names.space body)).toList
        (respell names.spell parts) := by
  constructor
  · intro h names
    obtain ⟨hread, hslots⟩ := h.readAs hmarks hparts names
    rwa [replace_idMark_toList hread]
  · intro hall
    -- a reading tells the text that is read, so each name stands in its place
    have hspelled (names : Names) :
        (Text.replace Template.idMark names.id
          (Text.replace Template.namespaceMark names.space body)).toList =
          marks.flatMap names.spell := by
      rw [← (hall names).spellOut_eq, spellOut_respell Slot.plain names.spell parts
        fun slot => flatMap_spell_letters names slot.written, hparts.spellOut_eq]
    constructor
    · rw [mayMark_iff hmarks]
      rintro ⟨names, hinfix⟩
      exact (readAs_idMarks_iff hmarks names).1
        (readAs_of_spelled fun id hid => hspelled ⟨names.space, id, names.space_ok, hid⟩) hinfix
    · intro before after hsplit hopen
      obtain ⟨names, slot, hslot⟩ := hopen.exists_written
      have hread := hall names
      rw [hspelled names, readAs_spell_iff names hparts] at hread
      exact hread before after hsplit slot hslot

theorem NamesApart.exists_numbers (h : NamesApart marks parts)
    (hmarks : ReadAs Placeholder.written body.toList marks)
    (hparts : ReadAs Slot.plain marks parts) :
    ∃ numbers, ∀ (names : Names) name kind origin,
      let template := Template.make name kind body names.space origin
      (∀ other, template.Asks names.id other ↔ other = numbers) ∧
        ∀ args, (∃ text, template.render names.id args = .ok text) ↔
          ∀ n ∈ numbers, n ≤ args.length := by
  let numbers := Slot.numbers Slot.counted 0 (respell (fun _ => []) parts)
  refine ⟨numbers, fun names name kind origin => ?_⟩
  intro template
  obtain ⟨hread, hslots⟩ := h.readAs hmarks hparts names
  have hbody : ReadAs idMarks template.body.toList (marks.flatMap names.spellSpace) := hread
  have hnumbers : Slot.numbers Slot.counted 0 (respell names.spell parts) = numbers :=
    Slot.numbers_respell _ _ _ _ _
  constructor
  · intro other
    rw [asks_iff hbody hslots, hnumbers]
  · intro args
    rw [render_ok_iff hbody hslots, hnumbers]

/-- The slots of a text stay where they are, whatever the names, if and only if the text keeps the
names apart. Then there is one list of numbers of arguments that it asks for with all names, and
it is rendered just if those arguments are there. All bundled texts are such (`bundled_kept`). -/
theorem slots_kept_iff (body : String) :
    ∃ marks parts,
      (∀ other, ReadAs Placeholder.written body.toList other ↔ other = marks) ∧
      (∀ other, ReadAs Slot.plain marks other ↔ other = parts) ∧
      (NamesApart marks parts ↔ ∀ (names : Names) name kind origin,
        ReadAs Slot.written
          (Text.replace Template.idMark names.id
            (Template.make name kind body names.space origin).body).toList
          (respell names.spell parts)) ∧
      (NamesApart marks parts → ∃ numbers, ∀ (names : Names) name kind origin,
        let template := Template.make name kind body names.space origin
        (∀ other, template.Asks names.id other ↔ other = numbers) ∧
          ∀ args, (∃ text, template.render names.id args = .ok text) ↔
            ∀ n ∈ numbers, n ≤ args.length) := by
  obtain ⟨marks, hmarks⟩ := ReadAs.exists_parts prefixFree_placeholder.ne_nil body.toList
  obtain ⟨parts, hparts⟩ := ReadAs.exists_parts prefixFree_plain.ne_nil marks
  refine ⟨marks, parts, hmarks.iff_eq prefixFree_placeholder, hparts.iff_eq prefixFree_plain,
    ?_, fun h => h.exists_numbers hmarks hparts⟩
  rw [namesApart_iff hmarks hparts]
  exact ⟨fun h names _ _ _ => h names, fun h names => h names "" .item .builtin⟩

end

/-- With one id a percent sign stands for itself, and with another one it opens a slot. -/
theorem name_opens_slot :
    Naming.checkNamespace "m" = .ok () ∧ Naming.checkId "tin" = .ok () ∧
      Naming.checkId "stone" = .ok () ∧
      (Template.make "t" .block "%$\x7bid\x7d" "m" .builtin).render "tin" [] = .ok "%tin" ∧
      (Template.make "t" .block "%$\x7bid\x7d" "m" .builtin).render "stone" [] =
        .error ⟨"t", 1, 0⟩ := by
  decide +kernel

end Modforge
