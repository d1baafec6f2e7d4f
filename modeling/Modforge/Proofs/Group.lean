import Modforge.Proofs.Declarations

/-! # Spellings of an item group -/

namespace Modforge

/-! ## The last dot -/

theorem splitLastChars_of_not_mem {sep : Char} {text : List Char} (h : sep ∉ text) :
    Text.splitLastChars sep text = none := by
  cases hsplit : Text.splitLastChars sep text with
  | none => rfl
  | some parts =>
    rw [(Text.splitLastChars_eq_some hsplit).1] at h
    exact absurd (List.mem_append_right _ List.mem_cons_self) h

theorem splitLastChars_append {sep : Char} {after : List Char} (h : sep ∉ after)
    (before : List Char) :
    Text.splitLastChars sep (before ++ sep :: after) = some (before, after) := by
  induction before with
  | nil => simp [Text.splitLastChars, splitLastChars_of_not_mem h]
  | cons c rest ih => simp [Text.splitLastChars, ih]

theorem splitLast_dotted {field : String} (h : '.' ∉ field.toList) (owner : String) :
    Text.splitLast '.' (owner ++ "." ++ field) = some (owner, field) := by
  have htext : (owner ++ "." ++ field).toList = owner.toList ++ '.' :: field.toList := by simp
  rw [Text.splitLast, htext, splitLastChars_append h]
  simp

/-! ## One text -/

theorem ne_of_dotted {text : String} (h : '.' ∈ text.toList) {word : String}
    (hword : '.' ∉ word.toList) : text ≠ word := by
  rintro rfl
  exact hword h

theorem agrees_none_of_dotted {text : String} (h : '.' ∈ text.toList) :
    Text.agreesIgnoringAsciiCase text "none" = false := by
  rw [Text.agreesIgnoringAsciiCase, beq_eq_false_iff_ne]
  intro heq
  have hdot := List.mem_map_of_mem h (f := fun c : Char =>
    if Text.isAsciiUpper c then Char.ofNat (c.toNat + 32) else c)
  rw [heq] at hdot
  revert hdot
  decide

theorem ofText_dotted {field : String} (h : '.' ∉ field.toList) (owner : String) :
    GroupChoice.ofText (owner ++ "." ++ field) = .ok (.ofParts owner field) := by
  have hdot : '.' ∈ (owner ++ "." ++ field).toList := by simp
  have hempty : owner ++ "." ++ field ≠ "" := ne_of_dotted hdot (by decide)
  rw [GroupChoice.ofText, if_neg (ne_of_dotted hdot (by decide)), splitLast_dotted h,
    agrees_none_of_dotted hdot]
  simp [hempty]

/-! ## Fields -/

theorem ofParts_eq_field_iff {owner field : String} {group : StaticField} :
    GroupChoice.ofParts owner field = .field group ↔
      (field ≠ inheritMarker ∧ field ≠ "" ∧ owner ≠ "" ∧ owner ≠ "java.lang.Void" ∧
        owner ≠ "Void") ∧ group = ⟨owner, field⟩ := by
  unfold GroupChoice.ofParts
  split
  · simp_all
  · next hmarker =>
    split
    · next hvoid => simp [hmarker, ← not_or, hvoid]
    · next hvoid => simp [hmarker, ← not_or, hvoid, eq_comm]

theorem parts_of_check {group : StaticField} (h : group.check = .ok ()) :
    '.' ∉ group.field.toList ∧ group.field ≠ inheritMarker ∧ group.field ≠ "" ∧
      group.owner ≠ "" := by
  have hparts : Naming.checkQualified group.owner = .ok () ∧
      Naming.checkIdentifier group.field = .ok () := by
    unfold StaticField.check at h
    split at h
    · next howner => exact ⟨howner, h⟩
    · cases h
  obtain ⟨howner, hfield⟩ := hparts
  have hidentifier := Naming.checkIdentifier_eq_ok_iff.1 hfield
  refine ⟨fun hdot => ?_, fun hmarker => ?_, fun hempty => ?_, fun hempty => ?_⟩
  · have hchar := Naming.isIdentifierChar_of_isIdentifier hidentifier '.' hdot
    revert hchar
    decide
  · rw [hmarker] at hidentifier
    revert hidentifier
    decide
  · rw [hempty] at hidentifier
    revert hidentifier
    decide
  · rw [hempty] at howner
    revert howner
    decide

/-! ## Reading -/

/-- The choice that an owner and a field stand for, in whichever way they are written. -/
def groupOf (owner field : String) : GroupChoice :=
  if field = inheritMarker then .inherit
  else if owner = "" ∨ field = "" ∨ owner = "Void" ∨ owner = "java.lang.Void" then .void
  else .field ⟨owner, field⟩

theorem ofParts_eq_groupOf (owner field : String) :
    GroupChoice.ofParts owner field = groupOf owner field := by
  unfold GroupChoice.ofParts groupOf
  congr 1
  refine if_congr ?_ rfl rfl
  tauto

theorem ofJson_dotted {field : String} (h : '.' ∉ field.toList) (owner : String) :
    groupForm.ofJson (.text (owner ++ "." ++ field)) = .ok (groupOf owner field) := by
  have hread : GroupChoice.ofLoose (.text (owner ++ "." ++ field)) =
      .ok (groupOf owner field) := by
    rw [GroupChoice.ofLoose, ofText_dotted h, ofParts_eq_groupOf]
  rw [groupForm, Form.ofJson, Loose.ofJson, hread]
  rfl

theorem ofJson_parts (owner field : String) :
    groupForm.ofJson (.ofEntries [("owner", .text owner), ("field", .text field)]) =
      .ok (groupOf owner field) := by
  -- an object holds its entries in the order of their keys
  have hloose : Loose.ofJson (.ofEntries [("owner", .text owner), ("field", .text field)]) =
      .map [(.text "field", .text field), (.text "owner", .text owner)] := rfl
  have hparts : StaticField.ofEntries
      [(.text "field", .text field), (.text "owner", .text owner)] none none =
        .ok ⟨owner, field⟩ := rfl
  have hread : GroupChoice.ofLoose (.map [(.text "field", .text field),
      (.text "owner", .text owner)]) = .ok (groupOf owner field) := by
    rw [GroupChoice.ofLoose, hparts, ← ofParts_eq_groupOf]
    rfl
  rw [groupForm, Form.ofJson, hloose, hread]
  rfl

theorem ofLoose_of_ofJson {json : Json} {choice : GroupChoice}
    (h : groupForm.ofJson json = .ok choice) :
    GroupChoice.ofLoose (.ofJson json) = .ok choice := by
  rw [groupForm, Form.ofJson] at h
  cases hread : GroupChoice.ofLoose (.ofJson json) <;> rw [hread] at h <;> cases h
  rfl

/-- Two texts are read alike as one text, with a dot between them, and as the two parts of an
object. No value at all is read as a field without an owner or a name, with the marker for its name
or with the void type for its owner. A field that can be written into code is read back from its
text, unless its owner is the void type. -/
theorem group_spellings :
    (∀ owner field : String, '.' ∉ field.toList →
      groupForm.ofJson (.text (owner ++ "." ++ field)) = .ok (groupOf owner field) ∧
      groupForm.ofJson (.ofEntries [("owner", .text owner), ("field", .text field)]) =
        .ok (groupOf owner field)) ∧
    (∀ (json : Json) (group : StaticField), groupForm.ofJson json = .ok (.field group) →
      group.owner ≠ "" ∧ group.field ≠ "" ∧ group.field ≠ inheritMarker ∧
        group.owner ≠ "Void" ∧ group.owner ≠ "java.lang.Void") ∧
    ∀ group : StaticField, group.check = .ok () → group.owner ≠ "Void" →
      group.owner ≠ "java.lang.Void" →
        groupForm.ofJson (.text group.shown) = .ok (.field group) := by
  refine ⟨fun owner field h => ⟨ofJson_dotted h owner, ofJson_parts owner field⟩,
    fun json group h => ?_, fun group h hvoid hlong => ?_⟩
  · have hparts := ofParts_of_ofLoose (ofLoose_of_ofJson h)
    obtain ⟨⟨hmarker, hfield, howner, hlong, hvoid⟩, -⟩ := ofParts_eq_field_iff.1 hparts
    exact ⟨howner, hfield, hmarker, hvoid, hlong⟩
  · obtain ⟨hdot, hmarker, hfield, howner⟩ := parts_of_check h
    rw [StaticField.shown, ofJson_dotted hdot, groupOf, if_neg hmarker,
      if_neg (by simp [howner, hfield, hvoid, hlong])]

theorem group_spellings_ores :
    '.' ∉ "ORES".toList ∧
      groupForm.ofJson (.text "mod..Groups.ORES") = .ok (.field ⟨"mod..Groups", "ORES"⟩) ∧
      groupForm.ofJson (.ofEntries [("owner", .text "Void"), ("field", .text "ORES")]) =
        .ok .void ∧
      (⟨"mod.Groups", "ORES"⟩ : StaticField).check = .ok () ∧
      groupForm.ofJson (.text "mod.Groups.ORES") = .ok (.field ⟨"mod.Groups", "ORES"⟩) ∧
      ("mod.Groups" ≠ "" ∧ "ORES" ≠ "" ∧ "ORES" ≠ inheritMarker ∧ "mod.Groups" ≠ "Void" ∧
        "mod.Groups" ≠ "java.lang.Void") := by
  obtain ⟨halike, hfield, hback⟩ := group_spellings
  have hcheck : (⟨"mod.Groups", "ORES"⟩ : StaticField).check = .ok () := by decide
  have hread := hback ⟨"mod.Groups", "ORES"⟩ hcheck (by decide) (by decide)
  exact ⟨by decide, (halike "mod..Groups" "ORES" (by decide)).1,
    (halike "Void" "ORES" (by decide)).2, hcheck, hread, hfield _ _ hread⟩

end Modforge
