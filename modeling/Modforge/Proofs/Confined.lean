import Modforge.Naming.Rule
import Modforge.Output.Disk
import Modforge.Proofs.Place
import Modforge.Template.Kind

/-!
# Where resources lie on disk

The folder of a category lies under the resource root. A resource lies in that folder unless its
id leads out of it: an id may begin with a slash, and it may go up.
-/

namespace Modforge

open Modforge.Path

/-! ## The folder of a category -/

def Category.folders (category : Category) (space : String) : Location :=
  match category with
  | .itemModel | .blockItem => ["assets", space, "models", "item"]
  | .blockModel => ["assets", space, "models", "block"]
  | .blockState => ["assets", space, "blockstates"]
  | .lootTable => ["data", space, "loot_tables", "blocks"]

section

variable {space : String}

theorem checkNamespace_eq_ok_iff :
    Naming.checkNamespace space = .ok () ↔
      space.toList ≠ [] ∧ ∀ c ∈ space.toList, Naming.isNamespaceChar c = true := by
  unfold Naming.checkNamespace
  by_cases h₁ : space.toList.isEmpty <;> by_cases h₂ : space.toList.all Naming.isNamespaceChar <;>
    simp_all

theorem not_mem_of_namespace {c : Char} (h : Naming.checkNamespace space = .ok ())
    (hc : Naming.isNamespaceChar c = false) : c ∉ space.toList := by
  intro hmem
  rw [(checkNamespace_eq_ok_iff.1 h).2 c hmem] at hc
  cases hc

theorem isPlain_of_namespace (h : Naming.checkNamespace space = .ok ()) : IsPlain space :=
  .of_no_dot (checkNamespace_eq_ok_iff.1 h).1 (not_mem_of_namespace h rfl)
    (not_mem_of_namespace h rfl)

theorem isPlain_folders (category : Category) (h : Naming.checkNamespace space = .ok ()) :
    ∀ name ∈ category.folders space, IsPlain name := by
  have hspace := isPlain_of_namespace h
  have hfixed : ∀ name ∈ ["assets", "data", "models", "item", "block", "blockstates",
      "loot_tables", "blocks"], IsPlain name := by
    simp only [IsPlain]
    decide
  cases category <;> simp [Category.folders, hspace] <;> simp_all

theorem packageParts_package (category : Category) (h : Naming.checkNamespace space = .ok ()) :
    Naming.packageParts (category.package space) = category.folders space := by
  have hdot : '.' ∉ space.toList := not_mem_of_namespace h rfl
  have hne : space ≠ "" := by
    rintro rfl
    exact (checkNamespace_eq_ok_iff.1 h).1 rfl
  have hsplit (rest : List Char) :
      Text.splitChars '.' (space.toList ++ '.' :: rest) =
        space.toList :: Text.splitChars '.' rest := by
    rw [Text.splitChars_append, Text.splitChars_of_not_mem hdot, List.singleton_append]
  cases category <;>
    simp [Naming.packageParts, Category.package, Category.folders, Text.split, Text.splitChars,
      hsplit, hne]

/-! ## Resources -/

section

variable (home : Location) (disk : Disk) (category : Category) (id text : String)

theorem place_resource (hspace : Naming.checkNamespace space = .ok ()) :
    place home (disk.path (.resource (category.package space) (id ++ ".json") text)) =
      if isAbsolute (id ++ ".json") then (climb (id ++ ".json")).names
      else (climb (id ++ ".json")).from (place home disk.resourceRoot ++ category.folders space) := by
  have hfolders := place_joinAll (isPlain_folders category hspace)
  have hfolder : place home (join disk.resourceRoot (packagePath (category.package space))) =
      place home disk.resourceRoot ++ category.folders space := by
    rw [packagePath, packageParts_package category hspace, place_join home _ hfolders.1,
      hfolders.2]
  show place home (join (join disk.resourceRoot _) (id ++ ".json")) = _
  split
  · next habs =>
    rw [join, if_pos habs, place_of_absolute home habs, followAll_eq_from]
    simp [Climb.from]
  · next habs =>
    rw [place_join home _ (by simpa using habs), hfolder, place, if_neg habs, followAll_eq_from]

/-- A resource lies in the folder of its category just if its id says so: an absolute id must
name the folder itself, and another one must go down again through all that it goes up. Which ids
do so for all roots and categories is said by `resource_inside_everywhere_iff`. -/
theorem resource_inside_iff (hspace : Naming.checkNamespace space = .ok ()) :
    let folder := place home disk.resourceRoot ++ category.folders space
    let file := climb (id ++ ".json")
    Inside folder
        (place home (disk.path (.resource (category.package space) (id ++ ".json") text))) ↔
      Inside (if isAbsolute (id ++ ".json") then folder
        else folder.drop (folder.length - file.ups)) file.names := by
  intro folder file
  rw [place_resource home disk category id text hspace]
  split
  · rfl
  · exact inside_from_iff file folder

end

theorem resource_inside_iff_block :
    Naming.checkNamespace "m" = .ok () ∧
      Inside ["w", "res", "assets", "m", "models", "block"]
        (place ["w"] (Disk.path ⟨"res", "java"⟩
          (.resource (Category.package .blockModel "m") ("../block/tin" ++ ".json") "\x7b\x7d"))) := by
  have hspace : Naming.checkNamespace "m" = .ok () := rfl
  exact ⟨hspace, (resource_inside_iff ["w"] ⟨"res", "java"⟩ .blockModel "../block/tin" "\x7b\x7d"
    hspace).2 (by decide)⟩

/-- A good id may lead out of the resource root. -/
theorem resource_outside :
    Naming.checkNamespace "m" = .ok () ∧ Naming.checkId "../../../../../tin" = .ok () ∧
      let path := Disk.path ⟨"res", "java"⟩
        (.resource (Category.package .blockModel "m") ("../../../../../tin" ++ ".json") "\x7b\x7d")
      place ["w"] path = ["w", "tin.json"] ∧
        ¬ Inside (place ["w"] "res" ++ Category.folders .blockModel "m") (place ["w"] path) ∧
        ¬ Inside (place ["w"] "res") (place ["w"] path) := by
  refine ⟨rfl, rfl, ?_⟩
  decide

/-! ## Ids that never go up -/

theorem last_piece (id : String) :
    ∃ before piece, Text.splitChars '/' (id ++ ".json").toList = before ++ [piece] ∧
      isIdle piece = false ∧ piece ≠ ['.', '.'] := by
  have hending : '/' ∉ ".json".toList := by decide
  obtain ⟨before, last, -, hfile⟩ := Text.splitChars_append_of_not_mem id.toList hending
  have hlength : 5 ≤ (last ++ ".json".toList).length := by
    rw [List.length_append]
    exact Nat.le_add_left 5 last.length
  refine ⟨before, last ++ ".json".toList, ?_, ?_, ?_⟩
  · rw [String.toList_append, hfile]
  · cases h : isIdle (last ++ ".json".toList) with
    | false => rfl
    | true =>
      unfold isIdle at h
      rw [Bool.or_eq_true, beq_iff_eq, beq_iff_eq] at h
      rcases h with h | h <;> rw [h] at hlength <;> simp at hlength
  · intro h
    rw [h] at hlength
    simp at hlength

theorem names_climb_ne_nil (id : String) : (climb (id ++ ".json")).names ≠ [] := by
  obtain ⟨before, piece, hfile, hidle, hup⟩ := last_piece id
  rw [climb, hfile, List.foldl_append, List.foldl_cons, List.foldl_nil, Climb.step,
    if_neg (by simp [hidle]), if_neg (by simpa using hup)]
  simp

section

variable (home : Location) (disk : Disk) (category : Category) (id text : String)

theorem resource_inside_of_no_ups (hspace : Naming.checkNamespace space = .ok ())
    (hrelative : isAbsolute (id ++ ".json") = false) (hups : (climb (id ++ ".json")).ups = 0) :
    Inside (place home disk.resourceRoot ++ category.folders space)
      (place home (disk.path (.resource (category.package space) (id ++ ".json") text))) := by
  rw [place_resource home disk category id text hspace, hrelative, if_neg Bool.false_ne_true,
    inside_from_iff, hups, Nat.sub_zero, List.drop_length]
  exact ⟨_, names_climb_ne_nil id, rfl⟩

end

/-- The ids that stay inside whatever the roots, the namespace and the category: those without a
slash in front that never go up further than they went down. -/
theorem resource_inside_everywhere_iff (id text : String) :
    (∀ (home : Location) (disk : Disk) (category : Category) (space : String),
      Naming.checkNamespace space = .ok () →
      Inside (place home disk.resourceRoot ++ category.folders space)
        (place home (disk.path (.resource (category.package space) (id ++ ".json") text)))) ↔
    isAbsolute (id ++ ".json") = false ∧ (climb (id ++ ".json")).ups = 0 := by
  constructor
  · intro h
    have hspace : Naming.checkNamespace "m" = .ok () := rfl
    have hroot (home : Location) : place home "" = home := rfl
    cases habs : isAbsolute (id ++ ".json") with
    | true =>
      -- a folder that is deeper than the place that the id names
      have hin := h (climb (id ++ ".json")).names ⟨"", ""⟩ .blockModel "m" hspace
      rw [place_resource _ _ _ _ _ hspace, habs, if_pos rfl, hroot] at hin
      obtain ⟨more, _, hnames⟩ := hin
      have hlength := congrArg List.length hnames
      simp only [List.length_append, Category.folders, List.length_cons, List.length_nil] at hlength
      omega
    | false =>
      refine ⟨rfl, ?_⟩
      apply Decidable.byContradiction
      intro hups
      -- the last name that is gone up from would be that of two categories
      have hlast (category : Category) :
          (climb (id ++ ".json")).names[(climb (id ++ ".json")).ups - 1]? =
            (List.replicate (climb (id ++ ".json")).ups "x" ++
              category.folders "m").getLast? := by
        have hin := h (List.replicate (climb (id ++ ".json")).ups "x") ⟨"", ""⟩ category "m" hspace
        rw [place_resource _ _ _ _ _ hspace, habs, if_neg Bool.false_ne_true, hroot] at hin
        refine getElem?_names_of_inside hin (by omega) ?_
        rw [List.length_append, List.length_replicate]
        omega
      have hblock := hlast .blockModel
      rw [hlast .blockState, List.getLast?_append, List.getLast?_append] at hblock
      exact absurd (Option.some.inj hblock) (by decide)
  · rintro ⟨hrelative, hups⟩ home disk category space hspace
    exact resource_inside_of_no_ups home disk category id text hspace hrelative hups

end

end Modforge
