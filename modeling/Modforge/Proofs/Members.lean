import Mathlib.Data.List.Nodup
import Modforge.Proofs.Demand
import Modforge.Proofs.Inlined.Run

/-! # Which fields are registered -/

namespace Modforge

namespace Field

variable {α : Type} (field : Field)

def meets (type : MemberType) : Demand → Bool
  | .name => Naming.isIdentifier field.name
  | .type => decide (field.type = type)
  | .static => field.isStatic
  | .access => decide (field.access ≠ .owner)

def unmet (type : MemberType) : List Demand := Demand.all.filter (!field.meets type ·)

def complaint (type : MemberType) (mark : String) : Demand → String
  | .name => Demand.nameComplaint field.name
  | .type =>
    "@" ++ mark ++ " requires a field of type " ++ type.toText ++ ", found " ++ field.type.toText
  | .static => "@" ++ mark ++ " field must be static"
  | .access => "@" ++ mark ++ " field must not be private"

/-- What is registered for a mark: its settings under the name of the field. -/
def taken (settings : Option α) (type : MemberType) : Option (Marked α) :=
  if field.unmet type = [] then settings.map (⟨field.name, ·⟩) else none

/-- One error for each demand that is not met. A mark that is not there demands nothing. -/
def complaints (settings : Option α) (type : MemberType) (mark subject : String) :
    List Diagnostic :=
  if settings.isSome then
    (field.unmet type).map fun demand => .structural subject (field.complaint type mark demand)
  else []

theorem nodup_unmet (type : MemberType) : (field.unmet type).Nodup :=
  List.Nodup.filter _ (by decide)

theorem mem_unmet_iff (type : MemberType) (demand : Demand) :
    demand ∈ field.unmet type ↔ field.meets type demand = false := by
  have hall : demand ∈ Demand.all := by cases demand <;> decide
  simp [unmet, hall]

theorem fits_eq (type : MemberType) : field.fits type = Demand.all.all (field.meets type) := by
  simp [fits, Demand.all, meets, Bool.and_assoc]

theorem unmet_eq_nil_iff {type : MemberType} : field.unmet type = [] ↔ field.fits type = true := by
  simp [unmet, fits_eq, List.filter_eq_nil_iff]

theorem check_eq (type : MemberType) (mark subject : String) :
    field.check type mark subject =
      ⟨field.fits type, (field.unmet type).map fun demand =>
        .structural subject (field.complaint type mark demand)⟩ := by
  rw [fits_eq, unmet, ← Reported.all_require]
  unfold check
  rw [Reported.check_checkIdentifier]
  rfl

theorem marked_eq (settings : Option α) (type : MemberType) (mark subject : String) :
    field.marked settings type mark subject =
      ⟨field.taken settings type, field.complaints settings type mark subject⟩ := by
  have hvalue := field.value_marked settings type mark subject
  have hreports := field.reports_marked settings type mark subject
  rw [check_eq] at hreports
  simp only [← unmet_eq_nil_iff] at hvalue
  rw [taken, complaints, ← hvalue, ← hreports]

theorem complaints_eq_nil_iff {settings : Option α} {type : MemberType} {mark subject : String} :
    field.complaints settings type mark subject = [] ↔
      settings = none ∨ field.taken settings type ≠ none := by
  cases settings <;> simp [complaints, taken]

theorem taken_of_type_ne {type : MemberType} (h : field.type ≠ type) (settings : Option α) :
    field.taken settings type = none := by
  have hunmet : field.unmet type ≠ [] :=
    List.ne_nil_of_mem ((field.mem_unmet_iff type .type).2 (decide_eq_false h))
  rw [taken, if_neg hunmet]

theorem taken_eq_none (block : Option BlockSettings) (item : Option ItemSettings) :
    field.taken block .block = none ∨ field.taken item .item = none := by
  by_cases htype : field.type = .block
  · exact .inr (field.taken_of_type_ne (by simp [htype]) item)
  · exact .inl (field.taken_of_type_ne htype block)

end Field

/-- The blocks and the items are the marks that are taken, in the order of their fields. What is
reported of the fields is one error for each demand of each mark that is not met, about the field,
and so nothing of a mark that is taken. No field is taken for both. -/
theorem members_checked (c : Container) :
    c.members.value.blocks = c.fields.filterMap (fun field => field.taken field.block .block) ∧
    c.members.value.items = c.fields.filterMap (fun field => field.taken field.item .item) ∧
    c.members.reports =
      (c.fields.flatMap fun field =>
        field.complaints field.block .block "register_block" (c.owner ++ "." ++ field.name) ++
          field.complaints field.item .item "register_item" (c.owner ++ "." ++ field.name)) ++
      (Callbacks.find c).reports ∧
    ∀ field : Field,
      (∀ type, (field.unmet type).Nodup ∧
        ∀ demand, demand ∈ field.unmet type ↔ field.meets type demand = false) ∧
      (∀ subject,
        (field.complaints field.block .block "register_block" subject = [] ↔
          field.block = none ∨ field.taken field.block .block ≠ none) ∧
        (field.complaints field.item .item "register_item" subject = [] ↔
          field.item = none ∨ field.taken field.item .item ≠ none)) ∧
      (field.taken field.block .block = none ∨ field.taken field.item .item = none) := by
  refine ⟨?_, ?_, ?_, fun field => ⟨fun type => ?_, fun subject => ?_, ?_⟩⟩
  · simp [Container.members, Reported.forEach, List.filterMap_map, Function.comp_def,
      Field.marked_eq]
  · simp [Container.members, Reported.forEach, List.filterMap_map, Function.comp_def,
      Field.marked_eq]
  · simp only [reports_members, Field.marked_eq, Container.fieldSubject]
  · exact ⟨field.nodup_unmet type, field.mem_unmet_iff type⟩
  · exact ⟨field.complaints_eq_nil_iff, field.complaints_eq_nil_iff⟩
  · exact field.taken_eq_none field.block field.item

end Modforge
