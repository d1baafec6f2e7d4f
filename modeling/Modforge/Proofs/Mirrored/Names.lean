import Modforge.Proofs.Apart
import Modforge.Proofs.Folders

/-!
# The names of generated files

A text in memory has one file on disk: its package names folders without dots, and the last name
of its file has a dot. So no file stands where a folder is needed, and two texts have two files.
-/

namespace Modforge

open Modforge.Path

/-! ## Folders and files -/

def isNameChar (c : Char) : Bool := Naming.isNamespaceChar c || Naming.isIdentifierChar c

def IsFolderName (name : String) : Prop := Naming.isWordOf isNameChar name = true

structure IsFileName (name : String) : Prop where
  isPlain : IsPlain name
  noNul : NoNul name
  dot : '.' ∈ name.toList

theorem ne_of_isNameChar {c : Char} (h : isNameChar c = true) : c ≠ '/' ∧ c ≠ '.' ∧ c.toNat ≠ 0 := by
  refine ⟨?_, ?_, fun hnul => ?_⟩
  · rintro rfl
    cases h
  · rintro rfl
    cases h
  · obtain rfl : c = '\x00' := Char.toNat_inj.1 hnul
    cases h

theorem isFolderName_iff {name : String} :
    IsFolderName name ↔ name.toList ≠ [] ∧ ∀ c ∈ name.toList, isNameChar c = true := by
  simp [IsFolderName, Naming.isWordOf]

theorem IsFolderName.not_dot {name : String} (h : IsFolderName name) : '.' ∉ name.toList :=
  fun hdot => (ne_of_isNameChar ((isFolderName_iff.1 h).2 _ hdot)).2.1 rfl

theorem IsFolderName.isPlain {name : String} (h : IsFolderName name) : IsPlain name := by
  obtain ⟨hne, hchars⟩ := isFolderName_iff.1 h
  exact .of_no_dot hne (fun hslash => (ne_of_isNameChar (hchars _ hslash)).1 rfl) h.not_dot

theorem IsFolderName.noNul {name : String} (h : IsFolderName name) : NoNul name :=
  fun c hc => (ne_of_isNameChar ((isFolderName_iff.1 h).2 c hc)).2.2

theorem isFileName_append {stem ending : String} (hplain : IsPlain stem) (hnul : NoNul stem)
    (hending : ending ∈ [".json", ".java"]) : IsFileName (stem ++ ending) := by
  obtain ⟨hdot, hslash, hnul'⟩ := (by decide : ∀ ending ∈ [".json", ".java"],
    '.' ∈ ending.toList ∧ '/' ∉ ending.toList ∧ NoNul ending) ending hending
  exact ⟨hplain.append hslash, hnul.append hnul', by simp [hdot]⟩

theorem IsFolderName.isFileName {stem ending : String} (h : IsFolderName stem)
    (hending : ending ∈ [".json", ".java"]) : IsFileName (stem ++ ending) :=
  isFileName_append h.isPlain h.noNul hending

/-! ## Keys -/

def fileName : Bool × String × String → String
  | (true, _, name) => name
  | (false, _, name) => name ++ ".java"

def names (key : Bool × String × String) : List String :=
  Naming.packageParts key.2.1 ++ Text.split '/' (fileName key)

/-- The keys of a run: those of resources with good ids, and those of registrars. -/
inductive IsProper (suffix : String) : Bool × String × String → Prop
  | resource {category : Category} {space id : String}
    (hspace : Naming.checkNamespace space = .ok ())
    (hid : ∀ segment ∈ Text.split '/' id, Naming.isWordOf Naming.isNamespaceChar segment = true) :
    IsProper suffix (true, category.package space, id ++ ".json")
  | source {owner : String} (howner : Naming.checkQualified owner = .ok ())
    (hslash : '/' ∉ suffix.toList) (hnul : NoNul suffix) :
    IsProper suffix (false, Naming.packageOf owner, Naming.simpleName owner ++ suffix)

/-! ## Names of keys -/

theorem isFolderName_of_word {inClass : Char → Bool} (hclass : ∀ c, inClass c = true → isNameChar c = true)
    {name : String} (h : Naming.isWordOf inClass name = true) : IsFolderName name := by
  rw [Naming.isWordOf, Bool.and_eq_true] at h
  rw [IsFolderName, Naming.isWordOf, Bool.and_eq_true]
  exact ⟨h.1, List.all_eq_true.2 fun c hc => hclass c (List.all_eq_true.1 h.2 c hc)⟩

theorem isFolderName_of_identifier {name : String} (h : Naming.isIdentifier name = true) :
    IsFolderName name := by
  refine isFolderName_iff.2 ⟨?_, fun c hc => ?_⟩
  · intro hnil
    simp [Naming.isIdentifier, hnil, Naming.isIdentifierShape] at h
  · simp [isNameChar, Naming.isIdentifierChar_of_isIdentifier h c hc]

theorem isFolderName_folders (category : Category) {space : String}
    (h : Naming.checkNamespace space = .ok ()) :
    ∀ name ∈ category.folders space, IsFolderName name := by
  have hspace : IsFolderName space := by
    obtain ⟨hne, hchars⟩ := checkNamespace_eq_ok_iff.1 h
    exact isFolderName_iff.2 ⟨hne, fun c hc => by simp [isNameChar, hchars c hc]⟩
  have hfixed : ∀ name ∈ ["assets", "data", "models", "item", "block", "blockstates",
      "loot_tables", "blocks"], IsFolderName name := by
    simp only [IsFolderName]
    decide
  cases category <;> simp [Category.folders, hspace] <;> simp_all

theorem split_id {id : String}
    (h : ∀ segment ∈ Text.split '/' id, Naming.isWordOf Naming.isNamespaceChar segment = true) :
    ∃ folders file, Text.split '/' (id ++ ".json") = folders ++ [file] ∧
      (∀ name ∈ folders, IsFolderName name) ∧ IsFileName file := by
  obtain ⟨before, last, hid, hfile⟩ := Text.splitChars_append_of_not_mem id.toList
    (show '/' ∉ ".json".toList by decide)
  have hsegment : ∀ piece ∈ before ++ [last], IsFolderName (String.ofList piece) := by
    intro piece hpiece
    refine isFolderName_of_word (fun c hc => by simp [isNameChar, hc]) (h _ ?_)
    rw [Text.split, hid]
    exact List.mem_map_of_mem hpiece
  refine ⟨before.map String.ofList, String.ofList last ++ ".json", ?_, ?_, ?_⟩
  · rw [Text.split, String.toList_append, hfile, List.map_append, List.map_singleton,
      String.ofList_append]
    rfl
  · intro name hname
    obtain ⟨piece, hpiece, rfl⟩ := List.mem_map.1 hname
    exact hsegment piece (List.mem_append_left _ hpiece)
  · exact (hsegment last (List.mem_append_right _ List.mem_cons_self)).isFileName (by simp)

theorem isIdentifier_parts {owner : String} (h : Naming.checkQualified owner = .ok ()) :
    (Naming.packageOf owner = "" ∨
      ∀ part ∈ Text.split '.' (Naming.packageOf owner), Naming.isIdentifier part = true) ∧
      Naming.isIdentifier (Naming.simpleName owner) = true := by
  have hall : ∀ part ∈ Text.split '.' owner, Naming.isIdentifier part = true :=
    List.all_eq_true.1 (Naming.checkQualified_eq_ok_iff.1 h)
  obtain ⟨hdot, howner⟩ := Naming.parts_of_name owner
  generalize Naming.packageOf owner = package at *
  generalize Naming.simpleName owner = simple at *
  rcases howner with rfl | ⟨rfl, rfl⟩
  · have hsplit : Text.split '.' (package ++ "." ++ simple) =
        Text.split '.' package ++ [simple] := by
      simp [Text.split, Text.splitChars_append, Text.splitChars_of_not_mem hdot]
    rw [hsplit] at hall
    exact ⟨.inr fun part hpart => hall part (List.mem_append_left _ hpart),
      hall simple (List.mem_append_right _ (List.mem_singleton_self simple))⟩
  · refine ⟨.inl rfl, hall owner ?_⟩
    simp [Text.split, Text.splitChars_of_not_mem hdot]

theorem packageParts_packageOf {owner : String} (h : Naming.checkQualified owner = .ok ()) :
    Naming.packageParts (Naming.packageOf owner) =
      if Naming.packageOf owner = "" then [] else Text.split '.' (Naming.packageOf owner) := by
  rcases (isIdentifier_parts h).1 with hnone | hparts
  · rw [hnone]
    decide
  · have hne : ∀ part ∈ Text.split '.' (Naming.packageOf owner), part ≠ "" := by
      rintro part hpart rfl
      cases hparts _ hpart
    have hpackage : Naming.packageOf owner ≠ "" := fun hnone =>
      hne "" (by rw [hnone]; decide) rfl
    rw [if_neg hpackage, Naming.packageParts, List.filter_eq_self]
    simpa using hne

theorem isIdentifier_of_mem_packageParts {owner : String}
    (h : Naming.checkQualified owner = .ok ()) :
    ∀ part ∈ Naming.packageParts (Naming.packageOf owner), Naming.isIdentifier part = true := by
  rw [packageParts_packageOf h]
  split
  · simp
  · next hne => exact (isIdentifier_parts h).1.resolve_left hne

theorem isFileName_typeName {owner suffix : String} (howner : Naming.checkQualified owner = .ok ())
    (hslash : '/' ∉ suffix.toList) (hnul : NoNul suffix) :
    IsFileName (Naming.simpleName owner ++ suffix ++ ".java") := by
  have hsimple := isFolderName_of_identifier (isIdentifier_parts howner).2
  exact isFileName_append (hsimple.isPlain.append hslash) (hsimple.noNul.append hnul) (by simp)

theorem IsFileName.split {name : String} (h : IsFileName name) : Text.split '/' name = [name] := by
  rw [Text.split, Text.splitChars_of_not_mem h.isPlain.1]
  simp

theorem names_of_isProper {suffix : String} {key : Bool × String × String}
    (h : IsProper suffix key) :
    ∃ folders file, names key = folders ++ [file] ∧ (∀ name ∈ folders, IsFolderName name) ∧
      IsFileName file := by
  cases h with
  | @resource category space id hspace hid =>
    obtain ⟨folders, file, hsplit, hfolders, hfile⟩ := split_id hid
    refine ⟨category.folders space ++ folders, file, ?_, ?_, hfile⟩
    · rw [names, fileName, hsplit, packageParts_package category hspace, List.append_assoc]
    · intro name hname
      exact (List.mem_append.1 hname).elim (isFolderName_folders category hspace name)
        (hfolders name)
  | @source owner howner hslash hnul =>
    have hfile := isFileName_typeName howner hslash hnul
    refine ⟨_, _, congrArg _ hfile.split, fun name hname => ?_, hfile⟩
    exact isFolderName_of_identifier (isIdentifier_of_mem_packageParts howner name hname)

/-! ## Two keys -/

theorem folders_append_inj {category category' : Category} {space space' : String}
    {rest rest' : List String}
    (h : category.folders space ++ rest = category'.folders space' ++ rest') :
    category.package space = category'.package space' ∧ rest = rest' := by
  cases category <;> cases category' <;> simp_all [Category.folders, Category.package]

theorem split_injective (sep : Char) {text text' : String}
    (h : Text.split sep text = Text.split sep text') : text = text' := by
  have hpieces : Text.splitChars sep text.toList = Text.splitChars sep text'.toList :=
    List.map_injective_iff.2 (fun _ _ => String.ofList_injective) h
  apply String.toList_injective
  rw [← Text.joinChars_splitChars sep text.toList, hpieces, Text.joinChars_splitChars]

theorem packageOf_eq_of_parts {owner owner' : String} (h : Naming.checkQualified owner = .ok ())
    (h' : Naming.checkQualified owner' = .ok ())
    (hparts : Naming.packageParts (Naming.packageOf owner) =
      Naming.packageParts (Naming.packageOf owner')) :
    Naming.packageOf owner = Naming.packageOf owner' := by
  have hne (text : String) : Text.split '.' text ≠ [] := by
    rw [Text.split, ne_eq, List.map_eq_nil_iff]
    exact Text.splitChars_ne_nil '.' _
  rw [packageParts_packageOf h, packageParts_packageOf h'] at hparts
  split at hparts <;> split at hparts
  · next hnone hnone' => rw [hnone, hnone']
  · exact absurd hparts.symm (hne _)
  · exact absurd hparts (hne _)
  · exact split_injective '.' hparts

theorem eq_of_names {suffix : String} {key key' : Bool × String × String}
    (h : IsProper suffix key) (h' : IsProper suffix key') (hkind : key.1 = key'.1)
    (hnames : names key = names key') : key = key' := by
  cases h with
  | @resource category space id hspace hid =>
    cases h' with
    | source => cases hkind
    | @resource category' space' id' hspace' hid' =>
      rw [names, names, packageParts_package category hspace,
        packageParts_package category' hspace'] at hnames
      obtain ⟨hpackage, hfile⟩ := folders_append_inj hnames
      have hid : id ++ ".json" = id' ++ ".json" := split_injective '/' hfile
      rw [hpackage, hid]
  | @source owner howner hslash hnul =>
    cases h' with
    | resource => cases hkind
    | @source owner' howner' hslash' hnul' =>
      rw [names, names, fileName, fileName, (isFileName_typeName howner hslash hnul).split,
        (isFileName_typeName howner' hslash' hnul').split] at hnames
      obtain ⟨hparts, hfile⟩ := List.append_inj' hnames rfl
      have htype : Naming.simpleName owner ++ suffix = Naming.simpleName owner' ++ suffix :=
        (String.append_left_inj ".java").1 (List.singleton_inj.1 hfile)
      rw [packageOf_eq_of_parts howner howner' hparts, htype]

end Modforge
