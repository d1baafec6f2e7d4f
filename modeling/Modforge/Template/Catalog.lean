import Modforge.Report.Failure
import Modforge.Template.Bundled

/-! # Reading the bundled templates -/

namespace Modforge.Bundled

/-- The kind and the name in a path of the form `kind/name.json`. -/
def resource? (path : String) : Option (TemplateKind × String) :=
  match Text.split '/' path with
  | [folder, file] =>
    match Text.splitLast '.' file with
    | some (name, "json") => (TemplateKind.ofAlias? folder).map (·, name)
    | _ => none
  | _ => none

def resources : List (String × TemplateKind × String) :=
  (files.map Prod.fst).filterMap fun path => (resource? path).map (path, ·)

def load (space : String) : Except Failure (List Template) :=
  resources.mapM fun (path, kind, name) =>
    match find? path with
    | some body => .ok (.make name kind body space .builtin)
    | none => .error (.noBundled path)

theorem resources_eq :
    resources = [("block/basic.json", .block, "basic"),
      ("block_state/basic.json", .blockState, "basic"),
      ("item/basic.json", .item, "basic"),
      ("item/block.json", .item, "block"),
      ("loot/drop_other.json", .loot, "drop_other"),
      ("loot/drop_self.json", .loot, "drop_self"),
      ("loot/drop_self_silk.json", .loot, "drop_self_silk")] := by
  decide +kernel

theorem find?_resources :
    resources.map (fun resource => find? resource.1) =
      [some blockModel, some blockState, some itemModel, some blockItemModel, some dropOther,
        some dropSelf, some dropSelfSilk] := by
  rw [resources_eq]
  decide +kernel

theorem load_eq_ok (space : String) : load space = .ok (templates space) := by
  have hfound := find?_resources
  rw [resources_eq] at hfound
  simp only [List.map_cons, List.map_nil, List.cons.injEq, and_true] at hfound
  obtain ⟨h₁, h₂, h₃, h₄, h₅, h₆, h₇⟩ := hfound
  rw [load, resources_eq]
  simp only [List.mapM_cons, List.mapM_nil, h₁, h₂, h₃, h₄, h₅, h₆, h₇]
  rfl

end Modforge.Bundled
