import Modforge.Generation.Plan
import Modforge.Proofs.Layout.Plain

/-! # The bundled layout of registrars -/

namespace Modforge

open Layout

/-! ## The layout -/

theorem toList_lines (texts : List String) :
    (Bundled.lines texts).toList = texts.flatMap fun text => text.toList ++ ['\n'] := by
  rw [Bundled.lines, String.toList_join, List.flatMap_map]
  simp

def Bundled.registrarPlains : List Plain :=
  [.whenSet "package" [.text "package ".toList, .value "package", .text ";\n\n".toList],
    .part (.text "/**\n * Registration glue for ".toList), .part (.value "owner"),
    .part (.text " (".toList), .part (.value "namespace"),
    .part (.text ").\n * Generated by modgen; do not edit.\n */\npublic final class ".toList),
    .part (.value "registrar_name"), .part (.text " \x7b\n\tprivate ".toList),
    .part (.value "registrar_name"),
    .part (.text "() \x7b\n\t\x7d\n\n\tpublic static void register() \x7b\n".toList),
    .each "statement" "statements"
      [.text "\t\t".toList, .value "statement", .text ";\n".toList],
    .part (.text "\t\x7d\n\x7d\n".toList)]

theorem plains_registrarLayout :
    ((Layout.parse Bundled.registrarLayout).toOption.bind fun layout =>
      (layout.nodes.mapM Plain.ofNode?).map fun plains => (plains, decide (2 ≤ layout.depth))) =
        some (Bundled.registrarPlains, true) := by
  rw [Layout.parse, tokens, Bundled.registrarLayout, toList_lines]
  decide +kernel

theorem nodes_of_parse {layout : Layout} (h : Layout.parse Bundled.registrarLayout = .ok layout) :
    layout.nodes = Bundled.registrarPlains.map Plain.node ∧ 2 ≤ layout.depth := by
  have hplains := plains_registrarLayout
  rw [h] at hplains
  obtain ⟨plains, hread, hpair⟩ := Option.map_eq_some_iff.1 hplains
  obtain ⟨rfl, hdepth⟩ := Prod.mk.inj hpair
  exact ⟨(map_of_mapM (fun _ _ => Plain.node_of_ofNode?) hread).symm, of_decide_eq_true hdepth⟩

theorem exists_parse_registrarLayout :
    ∃ layout, Layout.parse Bundled.registrarLayout = .ok layout := by
  cases h : Layout.parse Bundled.registrarLayout with
  | ok layout => exact ⟨layout, rfl⟩
  | error flaw =>
    have hplains := plains_registrarLayout
    rw [h] at hplains
    cases hplains

/-! ## Registrars -/

section

variable (r : Registrar) (c : Container) (statements : List String)

def Registrar.bundledHead : String :=
  (if c.package = "" then "" else "package " ++ c.package ++ ";\n\n") ++
  "/**\n * Registration glue for " ++ c.owner ++ " (" ++ c.space ++
  ").\n * Generated by modgen; do not edit.\n */\npublic final class " ++ r.typeName c ++
  " \x7b\n\tprivate " ++ r.typeName c ++
  "() \x7b\n\t\x7d\n\n\tpublic static void register() \x7b\n"

def Registrar.bundledText : String :=
  r.bundledHead c ++ String.join (statements.map fun statement => "\t\t" ++ statement ++ ";\n") ++
    "\t\x7d\n\x7d\n"

theorem line_of_mem {statement : String} (h : statement ∈ statements) :
    ∃ before after,
      r.bundledText c statements = before ++ "\t\t" ++ statement ++ ";\n" ++ after := by
  obtain ⟨first, last, rfl⟩ := List.append_of_mem h
  let lines (statements : List String) : String :=
    String.join (statements.map fun statement => "\t\t" ++ statement ++ ";\n")
  refine ⟨r.bundledHead c ++ lines first, lines last ++ "\t\x7d\n\x7d\n", ?_⟩
  simp only [lines, Registrar.bundledText, List.map_append, List.map_cons, String.join_append,
    String.join_cons, String.append_assoc]

/-- The texts that a layout is given, and of a round its statement. -/
def Registrar.texts : String → String
  | "package" => c.package
  | "owner" => c.owner
  | "namespace" => c.space
  | _ => r.typeName c

theorem isGiven_registrar :
    ∀ plain ∈ Bundled.registrarPlains, plain.IsGiven ⟨[⟨[], none⟩], r.values c statements⟩
      (r.texts c) fun _ => statements := by
  let scope : Scope := ⟨[⟨[], none⟩], r.values c statements⟩
  have hpackage : scope.follow "package" = some (.text c.package) := rfl
  have howner : scope.follow "owner" = some (.text c.owner) := rfl
  have hspace : scope.follow "namespace" = some (.text c.space) := rfl
  have hname : scope.follow "registrar_name" = some (.text (r.typeName c)) := rfl
  have hlist : scope.follow "statements" = some (.list (statements.map .text)) := rfl
  have hstatement (text : String) (index : Nat) (isLast : Bool) :
      (scope.enter ⟨"statement", some (.text text), index, isLast⟩).follow "statement" =
        some (.text text) :=
    follow_enter scope index isLast (by decide) (by decide)
  have heach : Plain.IsGiven scope (r.texts c) (fun _ => statements)
      (.each "statement" "statements"
        [.text "\t\t".toList, .value "statement", .text ";\n".toList]) :=
    ⟨hlist, fun text index isLast => forall_value_between (hstatement text index isLast)⟩
  simp only [Bundled.registrarPlains, List.forall_mem_cons]
  open Plain in
  exact ⟨⟨hpackage, forall_value_between hpackage⟩, isGiven_text _, isGiven_value howner,
    isGiven_text _, isGiven_value hspace, isGiven_text _, isGiven_value hname, isGiven_text _,
    isGiven_value hname, isGiven_text _, heach, isGiven_text _,
    fun _ h => absurd h List.not_mem_nil⟩

theorem shown_registrarPlains :
    String.ofList (Bundled.registrarPlains.flatMap (Plain.shown (r.texts c) fun _ => statements)) =
      r.bundledText c statements := by
  apply String.toList_injective
  have hpackage : (if c.package = "" then "" else "package " ++ c.package ++ ";\n\n").toList =
      if c.package = "" then []
      else "package ".toList ++ (c.package.toList ++ ";\n\n".toList) := by
    split <;> simp only [String.toList_append, String.toList_empty, List.append_assoc]
  have htexts : r.texts c "package" = c.package ∧ r.texts c "owner" = c.owner ∧
      r.texts c "namespace" = c.space ∧ r.texts c "registrar_name" = r.typeName c :=
    ⟨rfl, rfl, rfl, rfl⟩
  simp only [Registrar.bundledText, Registrar.bundledHead, String.toList_append, hpackage,
    String.toList_join, List.flatMap_map, List.append_assoc, Bundled.registrarPlains, Plain.shown,
    Part.shown, htexts, String.toList_ofList, List.flatMap_cons, List.flatMap_nil,
    List.append_nil, if_true]

theorem render_bundled (h : Layout.parse Bundled.registrarLayout = .ok r.layout) :
    r.render c statements = .ok ⟨c.package, r.typeName c, r.bundledText c statements⟩ := by
  obtain ⟨hnodes, hdepth⟩ := nodes_of_parse h
  rw [Registrar.render, render_plain hnodes hdepth (isGiven_registrar r c statements),
    shown_registrarPlains]
  rfl

end

/-- Without a layout file a registrar can always be loaded, and whatever the statements hold it
writes them as they are, into the package and the class under whose names the text is stored. -/
theorem render_of_load (tree : FileTree) (suffix : String) :
    ∃ r, Registrar.load tree none suffix = .ok r ∧ ∀ c statements,
      let name := c.simpleName ++ suffix
      let text :=
        (if c.package = "" then "" else "package " ++ c.package ++ ";\n\n") ++
        "/**\n * Registration glue for " ++ c.owner ++ " (" ++ c.space ++
        ").\n * Generated by modgen; do not edit.\n */\npublic final class " ++ name ++
        " \x7b\n\tprivate " ++ name ++
        "() \x7b\n\t\x7d\n\n\tpublic static void register() \x7b\n" ++
        String.join (statements.map fun statement => "\t\t" ++ statement ++ ";\n") ++
        "\t\x7d\n\x7d\n"
      '.' ∉ c.simpleName.toList ∧
      (c.owner = c.package ++ "." ++ c.simpleName ∨ c.package = "" ∧ c.owner = c.simpleName) ∧
      r.render c statements = .ok ⟨c.package, name, text⟩ ∧
        ∀ g : Generator, g.registrar = r → statements ≠ [] →
          g.registrarSteps c statements = [.store (.source c.package name text) c.owner] := by
  obtain ⟨layout, hlayout⟩ := exists_parse_registrarLayout
  refine ⟨⟨layout, suffix⟩, ?_, fun c statements => ?_⟩
  · rw [Registrar.load, Registrar.ofLayout, hlayout]
  · have hrender := render_bundled ⟨layout, suffix⟩ c statements hlayout
    obtain ⟨hdot, howner⟩ := Naming.parts_of_name c.owner
    refine ⟨hdot, howner, hrender, fun g hg hstatements => ?_⟩
    rw [Generator.registrarSteps, if_neg hstatements, hg, hrender]
    rfl

end Modforge
