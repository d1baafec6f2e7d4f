import Modforge.Proofs.Declarations
import Modforge.Proofs.Refused.Spec

/-! # Settings that are left out -/

namespace Modforge

open Json (Misfit)

/-! ## Neutral values -/

def neutralArgs : List Json := [.list [], .null]

def BlockSettings.neutral : List (String × List Json) :=
  [("model", [.text inheritMarker]), ("model_args", neutralArgs),
    ("block_state", [.text inheritMarker]), ("block_state_args", neutralArgs),
    ("block_item", [.text inheritMarker]), ("block_item_args", neutralArgs),
    ("loot", [.text inheritMarker]), ("loot_args", neutralArgs),
    ("loot_data", [.text ""]),
    ("auto_block_item", [.text "unset", .text "none", .text "", .null]),
    ("item_group", [.text inheritMarker])]

def ItemSettings.neutral : List (String × List Json) :=
  [("model", [.text inheritMarker]), ("model_args", neutralArgs)]

def Defaults.neutral : List (String × List Json) :=
  [("block", [.text ""]), ("block_args", neutralArgs),
    ("block_state", [.text ""]), ("block_state_args", neutralArgs),
    ("item", [.text ""]), ("item_args", neutralArgs),
    ("loot", [.text ""]), ("loot_args", neutralArgs),
    ("auto_block_item", [.flag false]),
    ("block_item", [.text ""]), ("block_item_args", neutralArgs),
    ("item_group", [.null, .text "", .text "none"])]

/-- New keys for an object, each with a neutral value or unknown to the record. -/
structure Negligible (required : List String) (neutral : List (String × List Json))
    (entries added : List (String × Json)) : Prop where
  absent : ∀ entry ∈ added, entry.1 ∉ entries.map Prod.fst
  nodup : (added.map Prod.fst).Nodup
  idle : ∀ entry ∈ added, (∃ values, (entry.1, values) ∈ neutral ∧ entry.2 ∈ values) ∨
    entry.1 ∉ required ++ neutral.map Prod.fst

/-! ## Slots -/

namespace Fields

/-- The field of the key, if there is one, reads the content as its fallback. -/
def Ignores {ρ β γ : Type} : Fields ρ β γ → String → Json → Prop
  | .nil, _, _ => True
  | .cons own fallback form _ rest, key, content =>
    if key = own then ∃ value, fallback = some value ∧ form.ofJson content = .ok value
    else rest.Ignores key content

/-- The slots give the same values once the fallbacks stand in for what is missing. -/
def Alike {ρ β γ : Type} : Fields ρ β γ → γ → γ → Prop
  | .nil, _, _ => True
  | .cons _ fallback _ _ rest, (slot, slots), (slot', slots') =>
    slot.or fallback = slot'.or fallback ∧ rest.Alike slots slots'

def EndAlike {ρ β γ : Type} (fields : Fields ρ β γ) : Except Misfit γ → Except Misfit γ → Prop
  | .ok slots, .ok slots' => fields.Alike slots slots'
  | .error fault, .error fault' => fault = fault'
  | _, _ => False

theorem alike_refl {ρ β γ : Type} : ∀ (fields : Fields ρ β γ) (slots : γ), fields.Alike slots slots
  | .nil, _ => trivial
  | .cons _ _ _ _ rest, (_, slots) => ⟨rfl, rest.alike_refl slots⟩

theorem Alike.trans {ρ β γ : Type} :
    ∀ {fields : Fields ρ β γ} {first second third : γ}, fields.Alike first second →
      fields.Alike second third → fields.Alike first third
  | .nil, _, _, _, _, _ => trivial
  | .cons _ _ _ _ _, (_, _), (_, _), (_, _), h, h' => ⟨h.1.trans h'.1, Alike.trans h.2 h'.2⟩

theorem finish_eq_of_alike {ρ β γ : Type} :
    ∀ (fields : Fields ρ β γ) {slots slots' : γ}, fields.Alike slots slots' →
      fields.finish slots = fields.finish slots'
  | .nil, _, _, _ => rfl
  | .cons _ _ _ _ rest, (_, _), (_, _), h => by
    simp only [finish, h.1, rest.finish_eq_of_alike h.2]

theorem putJson_of_alike {ρ β γ : Type} :
    ∀ (fields : Fields ρ β γ) (key : String) (content : Json) {slots slots' : γ},
      fields.Alike slots slots' →
      fields.EndAlike (fields.putJson key content slots) (fields.putJson key content slots')
  | .nil, _, _, _, _, _ => trivial
  | .cons own _ form _ rest, key, content, (_, slots), (_, slots'), h => by
    simp only [putJson]
    split
    · cases form.ofJson content with
      | error fault => rfl
      | ok value => exact ⟨rfl, h.2⟩
    · have hrest := rest.putJson_of_alike key content h.2
      cases hput : rest.putJson key content slots <;>
        cases hput' : rest.putJson key content slots' <;> rw [hput, hput'] at hrest
      · exact hrest
      · exact hrest
      · exact hrest
      · exact ⟨h.1, hrest⟩

/-! ## Keys -/

theorem filled?_blank {ρ β γ : Type} :
    ∀ (fields : Fields ρ β γ) (key : String), fields.filled? key fields.blank ≠ some true
  | .nil, _ => nofun
  | .cons own _ _ _ rest, key => by
    simp only [filled?, blank]
    split
    · simp
    · exact rest.filled?_blank key

theorem filled?_putJson_of_ne {ρ β γ : Type} :
    ∀ (fields : Fields ρ β γ) {key other : String} (content : Json) {slots slots' : γ},
      key ≠ other → fields.putJson other content slots = .ok slots' →
      fields.filled? key slots' = fields.filled? key slots
  | .nil, _, _, _, _, _, _, _ => rfl
  | .cons own _ form _ rest, key, other, content, (slot, slots), slots', hne, h => by
    rw [putJson] at h
    split at h
    · next hother =>
      obtain ⟨value, -, rfl⟩ := map_eq_ok.1 h
      have hown : key ≠ own := fun heq => hne (heq.trans hother.symm)
      simp only [filled?, if_neg hown]
    · obtain ⟨next, hput, rfl⟩ := map_eq_ok.1 h
      simp only [filled?, rest.filled?_putJson_of_ne content hne hput]

theorem putJson_of_ignores {ρ β γ : Type} :
    ∀ (fields : Fields ρ β γ) {key : String} {content : Json} {slots : γ},
      fields.Ignores key content → fields.filled? key slots ≠ some true →
      ∃ slots', fields.putJson key content slots = .ok slots' ∧ fields.Alike slots slots'
  | .nil, _, _, slots, _, _ => ⟨slots, rfl, trivial⟩
  | .cons own _ form _ rest, key, content, (slot, slots), hignores, hfree => by
    simp only [Ignores] at hignores
    simp only [filled?] at hfree
    simp only [putJson]
    split at hignores
    · next hkey =>
      obtain ⟨value, rfl, hread⟩ := hignores
      rw [if_pos hkey] at hfree
      have hslot : slot = none := by
        cases slot with
        | none => rfl
        | some old => exact absurd rfl hfree
      rw [if_pos hkey, hread, hslot]
      exact ⟨(some value, slots), rfl, rfl, rest.alike_refl slots⟩
    · next hkey =>
      rw [if_neg hkey] at hfree
      obtain ⟨next, hput, hnext⟩ := rest.putJson_of_ignores hignores hfree
      rw [if_neg hkey, hput]
      exact ⟨(slot, next), rfl, rfl, hnext⟩

/-! ## Entries -/

variable {ρ β γ : Type} {fields : Fields ρ β γ} {entries added both : List (String × Json)}

/-- Entries that are ignored may stand anywhere among the others. Their slots stay free until they
are read, as no other entry has their keys. -/
theorem putAll_interleaved (h : Interleaved entries added both)
    (hignores : ∀ entry ∈ added, fields.Ignores entry.1 entry.2)
    (habsent : ∀ entry ∈ added, entry.1 ∉ entries.map Prod.fst)
    (hnodup : (added.map Prod.fst).Nodup) {slots slots' : γ} (halike : fields.Alike slots slots')
    (hfree : ∀ entry ∈ added, fields.filled? entry.1 slots' ≠ some true) :
    fields.EndAlike (fields.putAll entries slots) (fields.putAll both slots') := by
  induction h generalizing slots slots' with
  | nil => exact halike
  | @left entry _ _ _ _ ih =>
    have hput := fields.putJson_of_alike entry.1 entry.2 halike
    rw [putAll_cons, putAll_cons]
    cases hfirst : fields.putJson entry.1 entry.2 slots <;>
      cases hsecond : fields.putJson entry.1 entry.2 slots' <;> rw [hfirst, hsecond] at hput
    · exact hput
    · exact hput.elim
    · exact hput.elim
    · next rest rest' =>
      refine ih hignores (fun other hother => ?_) hnodup hput fun other hother => ?_
      · exact fun hmem => habsent other hother (List.mem_cons_of_mem _ hmem)
      · have hne : other.1 ≠ entry.1 := fun heq =>
          habsent other hother (heq ▸ List.mem_cons_self)
        rw [fields.filled?_putJson_of_ne entry.2 hne hsecond]
        exact hfree other hother
  | @right entry _ _ _ _ ih =>
    obtain ⟨hentry, hmore⟩ := List.forall_mem_cons.1 hignores
    obtain ⟨hentryFree, hmoreFree⟩ := List.forall_mem_cons.1 hfree
    rw [List.map_cons, List.nodup_cons] at hnodup
    obtain ⟨next, hput, hnext⟩ := fields.putJson_of_ignores hentry hentryFree
    rw [putAll_cons, hput]
    refine ih hmore (fun other hother => habsent other (List.mem_cons_of_mem _ hother)) hnodup.2
      (halike.trans hnext) fun other hother => ?_
    have hne : other.1 ≠ entry.1 := fun heq => hnodup.1 (heq ▸ List.mem_map_of_mem hother)
    rw [fields.filled?_putJson_of_ne entry.2 hne hput]
    exact hmoreFree other hother

end Fields

theorem Form.ofJson_interleaved {ρ β γ : Type} {name : String} {fields : Fields ρ β γ}
    {build : β → ρ} {entries added both : List (String × Json)} (h : Interleaved entries added both)
    (hignores : ∀ entry ∈ added, fields.Ignores entry.1 entry.2)
    (habsent : ∀ entry ∈ added, entry.1 ∉ entries.map Prod.fst)
    (hnodup : (added.map Prod.fst).Nodup) :
    (Form.record name fields build).ofJson (.object both) =
      (Form.record name fields build).ofJson (.object entries) := by
  have hend := Fields.putAll_interleaved h hignores habsent hnodup
    (fields.alike_refl fields.blank) fun entry _ => fields.filled?_blank entry.1
  simp only [Form.ofJson]
  change (fields.putAll both fields.blank >>= _) = (fields.putAll entries fields.blank >>= _)
  cases hfirst : fields.putAll entries fields.blank <;>
    cases hsecond : fields.putAll both fields.blank <;> rw [hfirst, hsecond] at hend
  · cases hend
    rfl
  · exact hend.elim
  · exact hend.elim
  · simp only [bind, Except.bind, fields.finish_eq_of_alike hend]

/-! ## Annotations and defaults -/

theorem Fields.ignores_of_not_mem {ρ β γ : Type} :
    ∀ (fields : Fields ρ β γ) {key : String} (content : Json), key ∉ fields.keys →
      fields.Ignores key content
  | .nil, _, _, _ => trivial
  | .cons own _ _ _ rest, key, content, h => by
    rw [keys, List.mem_cons, not_or] at h
    rw [Ignores, if_neg h.1]
    exact rest.ignores_of_not_mem content h.2

theorem Form.ofJson_negligible {ρ β γ : Type} {name : String} {fields : Fields ρ β γ}
    {build : β → ρ} {required : List String} {neutral : List (String × List Json)}
    (hkeys : fields.keys ⊆ required ++ neutral.map Prod.fst)
    (hneutral : ∀ setting ∈ neutral, ∀ value ∈ setting.2, fields.Ignores setting.1 value)
    {entries added both : List (String × Json)} (h : Negligible required neutral entries added)
    (hboth : Interleaved entries added both) :
    (Form.record name fields build).ofJson (.object both) =
      (Form.record name fields build).ofJson (.object entries) := by
  refine Form.ofJson_interleaved hboth (fun entry hentry => ?_) h.absent h.nodup
  rcases h.idle entry hentry with ⟨values, hsetting, hvalue⟩ | hunknown
  · exact hneutral _ hsetting _ hvalue
  · exact fields.ignores_of_not_mem _ fun hkey => hunknown (hkeys hkey)

/-! What the neutral values are read as. -/

theorem ofJson_inherit :
    templateChoiceForm.ofJson (.text inheritMarker) = .ok .inherit ∧
      groupForm.ofJson (.text inheritMarker) = .ok .inherit :=
  ⟨rfl, rfl⟩

theorem ofJson_noTemplate : templateChoiceForm.ofJson (.text "") = .ok .none := rfl

theorem ofJson_noArgs :
    textsForm.ofJson (.list []) = .ok [] ∧ textsForm.ofJson .null = .ok [] :=
  ⟨rfl, rfl⟩

theorem ofJson_noDrop : Form.text.ofJson (.text "") = .ok "" := rfl

theorem ofJson_unset :
    companionForm.ofJson (.text "unset") = .ok .unset ∧
      companionForm.ofJson (.text "none") = .ok .unset ∧
      companionForm.ofJson (.text "") = .ok .unset ∧ companionForm.ofJson .null = .ok .unset :=
  ⟨rfl, rfl, rfl, rfl⟩

theorem ofJson_noCompanion : Form.flag.ofJson (.flag false) = .ok false := rfl

theorem ofJson_noGroup :
    groupForm.ofJson .null = .ok .void ∧ groupForm.ofJson (.text "") = .ok .void ∧
      groupForm.ofJson (.text "none") = .ok .void :=
  ⟨rfl, rfl, rfl⟩

/-- Whatever is added of neutral values and unknown keys, an object is read as it was, or fails as
it failed: as the settings of a block or an item, and as the defaults of a container. -/
theorem settings_left_out :
    (∀ entries added both, Negligible ["id"] BlockSettings.neutral entries added →
      Interleaved entries added both →
        blockSettingsForm.ofJson (.object both) = blockSettingsForm.ofJson (.object entries)) ∧
    (∀ entries added both, Negligible ["id"] ItemSettings.neutral entries added →
      Interleaved entries added both →
        itemSettingsForm.ofJson (.object both) = itemSettingsForm.ofJson (.object entries)) ∧
    ∀ entries added both, Negligible [] Defaults.neutral entries added →
      Interleaved entries added both →
        defaultsForm.ofJson (.object both) = defaultsForm.ofJson (.object entries) := by
  refine ⟨fun _ _ _ => Form.ofJson_negligible (by decide) ?_,
    fun _ _ _ => Form.ofJson_negligible (by decide) ?_,
    fun _ _ _ => Form.ofJson_negligible (by decide) ?_⟩
  · simp [BlockSettings.neutral, neutralArgs, Fields.Ignores, ofJson_inherit, ofJson_noArgs,
      ofJson_noDrop, ofJson_unset]
  · simp [ItemSettings.neutral, neutralArgs, Fields.Ignores, ofJson_inherit, ofJson_noArgs]
  · simp [Defaults.neutral, neutralArgs, Fields.Ignores, ofJson_noTemplate, ofJson_noArgs,
      ofJson_noCompanion, ofJson_noGroup]

theorem settings_left_out_tin :
    let tin : List (String × Json) := [("id", .text "tin"), ("loot", .text "drop_self")]
    let spelled : List (String × Json) :=
      [("auto_block_item", .text "none"), ("color", .int 3), ("model", .text inheritMarker)]
    Negligible ["id"] BlockSettings.neutral tin spelled ∧
      blockSettingsForm.ofJson (.object [("auto_block_item", .text "none"), ("color", .int 3),
          ("id", .text "tin"), ("loot", .text "drop_self"), ("model", .text inheritMarker)]) =
        .ok { BlockSettings.inheriting "tin" with loot := .named "drop_self" } ∧
      itemSettingsForm.ofJson (.object [("model", .text "ore"), ("model_args", .null)]) =
        .error (.missing "id") ∧
      defaultsForm.ofJson (.object [("item_group", .null)]) = .ok .none := by
  intro tin spelled
  obtain ⟨hblock, hitem, hdefaults⟩ := settings_left_out
  have htin : Negligible ["id"] BlockSettings.neutral tin spelled :=
    ⟨by simp [tin, spelled], by decide, by simp [spelled, BlockSettings.neutral]⟩
  have hmodel : Negligible ["id"] ItemSettings.neutral [("model", .text "ore")]
      [("model_args", .null)] :=
    ⟨by simp, by decide, by simp [ItemSettings.neutral, neutralArgs]⟩
  have hgroup : Negligible [] Defaults.neutral [] [("item_group", .null)] :=
    ⟨by simp, by decide, by simp [Defaults.neutral]⟩
  exact ⟨htin, hblock _ _ _ htin (.right (.right (.left (.left (.right .nil))))),
    hitem _ _ _ hmodel (.left (.right .nil)), hdefaults _ _ _ hgroup (.right .nil)⟩

end Modforge
