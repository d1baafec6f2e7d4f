import Modforge.Declaration.Forms
import Modforge.Proofs.Faithful

/-! # Declarations are read back as they are -/

namespace Modforge

/-! ## Choices -/

theorem templateChoiceForm_faithful : templateChoiceForm.Faithful := by
  refine Form.mapped_text_faithful fun s => ?_
  by_cases hmarker : s = inheritMarker
  · rw [hmarker]
    rfl
  by_cases hempty : s = ""
  · rw [hempty]
    rfl
  · have hnamed : TemplateChoice.ofText s = .named s := by
      rw [TemplateChoice.ofText, if_neg hmarker, if_neg hempty]
    rw [hnamed]
    exact hnamed

theorem ofJsonItems_texts (texts : List String) :
    Loose.ofJsonItems (texts.map .text) = texts.map .text := by
  induction texts with
  | nil => rfl
  | cons text rest ih =>
    rw [List.map_cons, Loose.ofJsonItems, ih]
    rfl

theorem mapM_asText (texts : List String) :
    (texts.map Loose.text).mapM Loose.asText? = some texts := by
  induction texts with
  | nil => rfl
  | cons text rest ih =>
    rw [List.map_cons, List.mapM_cons, ih]
    rfl

theorem textsForm_faithful : textsForm.Faithful := by
  refine Form.loose_faithful fun value texts _ => ?_
  rw [Loose.ofJson, ofJsonItems_texts, textsOf, mapM_asText]
  rfl

theorem companionForm_faithful : companionForm.Faithful := by
  refine Form.loose_faithful fun value choice _ => ?_
  cases choice <;> rfl

theorem ofParts_eq_field {owner field : String} {group : StaticField}
    (h : GroupChoice.ofParts owner field = .field group) :
    GroupChoice.ofParts group.owner group.field = .field group := by
  have hgroup : group = ⟨owner, field⟩ := by
    unfold GroupChoice.ofParts at h
    split at h
    · cases h
    · split at h
      · cases h
      · cases h
        rfl
  rw [hgroup] at h ⊢
  exact h

theorem ofParts_of_ofLoose {value : Loose} {group : StaticField}
    (h : GroupChoice.ofLoose value = .ok (.field group)) :
    GroupChoice.ofParts group.owner group.field = .field group := by
  unfold GroupChoice.ofLoose at h
  split at h
  · cases h
  · unfold GroupChoice.ofText at h
    split at h
    · cases h
    · split at h
      · cases h
      · split at h
        · next owner field _ => exact ofParts_eq_field (Except.ok.inj h)
        · cases h
  · obtain ⟨parts, _, hparts⟩ := map_eq_ok.1 h
    exact ofParts_eq_field hparts
  · cases h

theorem groupForm_faithful : groupForm.Faithful := by
  refine Form.loose_faithful fun value choice h => ?_
  cases choice with
  | inherit => rfl
  | void => rfl
  | field group =>
    have hloose : GroupChoice.ofLoose value = .ok (.field group) := by
      cases hread : GroupChoice.ofLoose value <;> rw [hread] at h <;> cases h
      rfl
    -- the two parts are written in the order of their keys
    have hwritten : Loose.ofJson (staticFieldForm.write group) =
        .map [(.text "field", .text group.field), (.text "owner", .text group.owner)] := rfl
    have hread : StaticField.ofEntries
        [(.text "field", .text group.field), (.text "owner", .text group.owner)] none none =
        .ok group := rfl
    show (GroupChoice.ofLoose (Loose.ofJson (staticFieldForm.write group))).mapError _ = _
    rw [hwritten, GroupChoice.ofLoose, hread]
    show Except.mapError _ (.ok (GroupChoice.ofParts group.owner group.field)) = _
    rw [ofParts_of_ofLoose hloose]
    rfl

/-! ## Words -/

theorem memberTypeForm_faithful : memberTypeForm.Faithful := by
  refine Form.mapped_text_faithful fun s => ?_
  cases h : MemberType.ofText s with
  | block => rfl
  | item => rfl
  | identifier => rfl
  | other name =>
    have hname : name = s := by
      simp only [MemberType.ofText] at h
      split at h
      · cases h
      · split at h
        · cases h
        · split at h
          · cases h
          · cases h
            rfl
    rw [hname] at h ⊢
    exact h

theorem accessForm_faithful : accessForm.Faithful :=
  Form.word_faithful fun access => by cases access <;> rfl

theorem roleForm_faithful : roleForm.Faithful :=
  Form.word_faithful fun role => by cases role <;> rfl

theorem templateKindForm_faithful : templateKindForm.Faithful :=
  Form.word_faithful fun kind => by cases kind <;> rfl

/-! ## Records -/

/-! What stands for a field that is missing is kept. -/

theorem templateChoiceForm_keeps_inherit : templateChoiceForm.Keeps .inherit := rfl

theorem templateChoiceForm_keeps_none : templateChoiceForm.Keeps .none := rfl

theorem textsForm_keeps_nil : textsForm.Keeps [] := rfl

theorem companionForm_keeps_unset : companionForm.Keeps .unset := rfl

theorem groupForm_keeps_inherit : groupForm.Keeps .inherit := rfl

theorem groupForm_keeps_void : groupForm.Keeps .void := rfl

theorem accessForm_keeps_anyone : accessForm.Keeps .anyone := rfl

theorem optional_keeps_none {α : Type} (inner : Form α) : (Form.optional inner).Keeps none := rfl

theorem many_keeps_nil {α : Type} (item : Form α) : (Form.many item).Keeps [] := rfl

theorem blockSettingsForm_faithful : blockSettingsForm.Faithful := by
  refine Form.record_faithful ?_ (by decide) fun _ => rfl
  apply Fields.faithful_cons_none Form.text_faithful
  apply Fields.faithful_cons_some templateChoiceForm_faithful templateChoiceForm_keeps_inherit
  apply Fields.faithful_cons_some textsForm_faithful textsForm_keeps_nil
  apply Fields.faithful_cons_some templateChoiceForm_faithful templateChoiceForm_keeps_inherit
  apply Fields.faithful_cons_some textsForm_faithful textsForm_keeps_nil
  apply Fields.faithful_cons_some templateChoiceForm_faithful templateChoiceForm_keeps_inherit
  apply Fields.faithful_cons_some textsForm_faithful textsForm_keeps_nil
  apply Fields.faithful_cons_some templateChoiceForm_faithful templateChoiceForm_keeps_inherit
  apply Fields.faithful_cons_some textsForm_faithful textsForm_keeps_nil
  apply Fields.faithful_cons_some Form.text_faithful (Form.text_keeps _)
  apply Fields.faithful_cons_some companionForm_faithful companionForm_keeps_unset
  apply Fields.faithful_cons_some groupForm_faithful groupForm_keeps_inherit
  trivial

theorem itemSettingsForm_faithful : itemSettingsForm.Faithful := by
  refine Form.record_faithful ?_ (by decide) fun _ => rfl
  apply Fields.faithful_cons_none Form.text_faithful
  apply Fields.faithful_cons_some templateChoiceForm_faithful templateChoiceForm_keeps_inherit
  apply Fields.faithful_cons_some textsForm_faithful textsForm_keeps_nil
  trivial

theorem write_record_ne_null {ρ β γ : Type} {name : String} {fields : Fields ρ β γ}
    {build : β → ρ} (r : ρ) : (Form.record name fields build).write r ≠ .null := by
  simp [Form.write, Json.ofEntries]

theorem fieldForm_faithful : fieldForm.Faithful := by
  refine Form.record_faithful ?_ (by decide) fun _ => rfl
  apply Fields.faithful_cons_none Form.text_faithful
  apply Fields.faithful_cons_none memberTypeForm_faithful
  apply Fields.faithful_cons_some Form.flag_faithful (Form.flag_keeps _)
  apply Fields.faithful_cons_some accessForm_faithful accessForm_keeps_anyone
  apply Fields.faithful_cons_some
    (Form.optional_faithful blockSettingsForm_faithful write_record_ne_null) (optional_keeps_none _)
  apply Fields.faithful_cons_some
    (Form.optional_faithful itemSettingsForm_faithful write_record_ne_null) (optional_keeps_none _)
  trivial

theorem methodForm_faithful : methodForm.Faithful := by
  refine Form.record_faithful ?_ (by decide) fun _ => rfl
  apply Fields.faithful_cons_none Form.text_faithful
  apply Fields.faithful_cons_some (Form.many_faithful memberTypeForm_faithful) (many_keeps_nil _)
  apply Fields.faithful_cons_some Form.flag_faithful (Form.flag_keeps _)
  apply Fields.faithful_cons_some accessForm_faithful accessForm_keeps_anyone
  apply Fields.faithful_cons_some (Form.many_faithful roleForm_faithful) (many_keeps_nil _)
  trivial

theorem templateSourceForm_faithful : templateSourceForm.Faithful := by
  refine Form.record_faithful ?_ (by decide) fun _ => rfl
  apply Fields.faithful_cons_none Form.text_faithful
  apply Fields.faithful_cons_none Form.text_faithful
  apply Fields.faithful_cons_none templateKindForm_faithful
  trivial

theorem defaultsForm_faithful : defaultsForm.Faithful := by
  refine Form.record_faithful ?_ (by decide) fun _ => rfl
  apply Fields.faithful_cons_some templateChoiceForm_faithful templateChoiceForm_keeps_none
  apply Fields.faithful_cons_some textsForm_faithful textsForm_keeps_nil
  apply Fields.faithful_cons_some templateChoiceForm_faithful templateChoiceForm_keeps_none
  apply Fields.faithful_cons_some textsForm_faithful textsForm_keeps_nil
  apply Fields.faithful_cons_some templateChoiceForm_faithful templateChoiceForm_keeps_none
  apply Fields.faithful_cons_some textsForm_faithful textsForm_keeps_nil
  apply Fields.faithful_cons_some templateChoiceForm_faithful templateChoiceForm_keeps_none
  apply Fields.faithful_cons_some textsForm_faithful textsForm_keeps_nil
  apply Fields.faithful_cons_some Form.flag_faithful (Form.flag_keeps _)
  apply Fields.faithful_cons_some templateChoiceForm_faithful templateChoiceForm_keeps_none
  apply Fields.faithful_cons_some textsForm_faithful textsForm_keeps_nil
  apply Fields.faithful_cons_some groupForm_faithful groupForm_keeps_void
  trivial

theorem defaultsForm_keeps_none : defaultsForm.Keeps .none :=
  defaultsForm_faithful (.object []) .none rfl

theorem containerForm_faithful : containerForm.Faithful := by
  refine Form.record_faithful ?_ (by decide) fun _ => rfl
  apply Fields.faithful_cons_none Form.text_faithful
  apply Fields.faithful_cons_none Form.text_faithful
  apply Fields.faithful_cons_some defaultsForm_faithful defaultsForm_keeps_none
  apply Fields.faithful_cons_some (Form.many_faithful templateSourceForm_faithful) (many_keeps_nil _)
  apply Fields.faithful_cons_some (Form.many_faithful fieldForm_faithful) (many_keeps_nil _)
  apply Fields.faithful_cons_some (Form.many_faithful methodForm_faithful) (many_keeps_nil _)
  trivial

/-- Declarations that could be read from any value are read back from what is written for them. -/
theorem declarations_read_back (json : Json) (d : Declarations)
    (h : declarationsForm.ofJson json = .ok d) :
    declarationsForm.ofJson (declarationsForm.write d) = .ok d := by
  have hfaithful : declarationsForm.Faithful := by
    refine Form.record_faithful ?_ (by decide) fun _ => rfl
    apply Fields.faithful_cons_some (Form.many_faithful containerForm_faithful) (many_keeps_nil _)
    trivial
  exact hfaithful json d h

/-- Defaults as a list, a type in capitals, a single argument, a null and a short group. -/
def spelledOres : Json :=
  .object [("containers", .list [.object
    [("defaults", .list [.text "basic", .text "stone"]),
      ("fields", .list [.object
        [("name", .text "TIN"),
          ("register_block", .object
            [("auto_block_item", .null), ("id", .text "tin"),
              ("item_group", .text "mod.Groups.ORES"), ("loot", .text ""),
              ("model_args", .text "ore")]),
          ("type", .text "BLOCK")]]),
      ("namespace", .text "m"),
      ("owner", .text "mod.Ores")]])]

def declaredOres : Declarations :=
  ⟨[{ Container.empty "mod.Ores" "m" with
      defaults := { Defaults.none with block := .named "basic", blockArgs := ["stone"] }
      fields :=
        [.ofBlock "TIN" { BlockSettings.inheriting "tin" with
          modelArgs := ["ore"], loot := .none, group := .field ⟨"mod.Groups", "ORES"⟩ }] }]⟩

theorem declarations_read_back_spelled :
    declarationsForm.ofJson spelledOres = .ok declaredOres ∧
      declarationsForm.ofJson (declarationsForm.write declaredOres) = .ok declaredOres := by
  have hread : declarationsForm.ofJson spelledOres = .ok declaredOres := rfl
  exact ⟨hread, declarations_read_back spelledOres declaredOres hread⟩

end Modforge
