import Modforge.Proofs.Mirrored.Names

/-! # Where registrars lie on disk -/

namespace Modforge

namespace Path

open Text

/-! ## Joining -/

/-- What stands between a path and a relative one that is joined to it. -/
def gap (path : String) : String :=
  if path.toList.isEmpty || path.toList.getLast? == some '/' then "" else "/"

theorem join_of_relative (left : String) {right : String} (hright : isAbsolute right = false) :
    join left right = left ++ gap left ++ right := by
  unfold join gap
  rw [if_neg (by simp [hright])]
  split
  · rw [String.append_empty]
  · rfl

theorem join_of_absolute (left : String) {right : String} (hright : isAbsolute right = true) :
    join left right = right := by
  rw [join, if_pos hright]

theorem join_empty_left (right : String) : join "" right = right := by
  cases hright : isAbsolute right with
  | true => exact join_of_absolute "" hright
  | false => simp [join_of_relative "" hright, gap]

theorem gap_append (left : String) {right : String} (hright : right ≠ "") :
    gap (left ++ right) = gap right := by
  have hlist : right.toList ≠ [] := fun hnil => hright (String.toList_eq_nil_iff.1 hnil)
  unfold gap
  rw [String.toList_append, List.getLast?_append_of_ne_nil _ hlist]
  simp [hright]

theorem gap_append_gap (path : String) : gap (path ++ gap path) = "" := by
  by_cases hgap : gap path = ""
  · rw [hgap, String.append_empty, hgap]
  · rw [gap_append path hgap]
    unfold gap at hgap ⊢
    split at hgap
    · exact absurd rfl hgap
    · next hslash =>
      rw [if_neg hslash]
      rfl

theorem join_assoc (first second third : String) :
    join (join first second) third = join first (join second third) := by
  cases hthird : isAbsolute third with
  | true => rw [join_of_absolute _ hthird, join_of_absolute _ hthird, join_of_absolute _ hthird]
  | false =>
    cases hsecond : isAbsolute second with
    | true =>
      have hjoined : isAbsolute (join second third) = true := by
        rw [isAbsolute_join_eq second hthird, hsecond]
      rw [join_of_absolute _ hsecond, join_of_absolute _ hjoined]
    | false =>
      rw [join_of_relative first (isAbsolute_join hsecond hthird), join_of_relative second hthird,
        join_of_relative _ hthird, join_of_relative first hsecond]
      -- an empty path still ends the other one with a slash
      by_cases hempty : second = ""
      · rw [hempty, String.append_empty, gap_append_gap, String.append_empty]
        simp [gap]
      · rw [gap_append _ hempty]
        simp only [String.append_assoc]

instance : Std.Associative join := ⟨join_assoc⟩

theorem gap_of_plain {name : String} (h : IsPlain name) : gap name = "/" := by
  have hne : name.toList ≠ [] := by
    intro hnil
    simp [IsPlain, isIdle, hnil] at h
  have hlast : name.toList.getLast? ≠ some '/' := fun hslash => h.1 (List.mem_of_getLast? hslash)
  rw [gap, if_neg (by simp_all)]

theorem joinAll_cons_cons (name next : String) (more : List String) :
    joinAll (name :: next :: more) = join name (joinAll (next :: more)) := by
  show more.foldl join (join (join "" name) next) = join name (more.foldl join (join "" next))
  rw [join_empty_left, join_empty_left, List.foldl_assoc]

theorem joinAll_eq {names : List String} (h : ∀ name ∈ names, IsPlain name) :
    joinAll names = Text.join "/" names := by
  induction names with
  | nil => rfl
  | cons name rest ih =>
    obtain ⟨hname, hrest⟩ := List.forall_mem_cons.1 h
    cases rest with
    | nil => simp [joinAll, join_empty_left, Text.join, joinChars]
    | cons next more =>
      rw [joinAll_cons_cons, join_of_relative name (place_joinAll hrest).1, gap_of_plain hname,
        ih hrest]
      apply String.toList_injective
      simp [Text.join, joinChars]

/-! ## Components -/

def beginning (path : String) : List Char := (lead path.toList).1

/-- What a path begins with and the names that it moves through. Paths are compared by their
components. -/
def components (path : String) : List String :=
  ((if beginning path = [] then [] else [beginning path]) ++ moves path).map String.ofList

theorem isAbsolute_of_beginning {path : String} (h : beginning path = []) :
    isAbsolute path = false := by
  unfold beginning at h
  rcases lead_cases path.toList with ⟨rest, -, hlead⟩ | ⟨-, hlead⟩ | ⟨rest, -, hlead⟩ | ⟨hhead, -⟩
  · simp [hlead] at h
  · simp [hlead] at h
  · simp [hlead] at h
  · simpa [isAbsolute] using hhead

theorem beginning_of_plain {name : String} (h : IsPlain name) : beginning name = [] := by
  unfold beginning
  rcases lead_cases name.toList with ⟨rest, hname, -⟩ | ⟨hname, -⟩ | ⟨rest, hname, -⟩ | ⟨-, hlead⟩
  · exact absurd (by simp [hname]) h.1
  · exact absurd h.2.1 (by simp [hname, isIdle])
  · exact absurd (by simp [hname]) h.1
  · rw [hlead]

theorem beginning_of_two {path : String} {c d : Char} {rest : List Char}
    (h : path.toList = c :: d :: rest) :
    beginning path = if c = '/' then ['/'] else if c = '.' ∧ d = '/' then ['.'] else [] := by
  unfold beginning lead
  grind

theorem beginning_join (left : String) {right : String} (h : beginning right = []) :
    beginning (join left right) = beginning left := by
  have htext : (join left right).toList = left.toList ++ ((gap left).toList ++ right.toList) := by
    simp [join_of_relative left (isAbsolute_of_beginning h)]
  -- after a single character the gap has a say in what the path begins with
  cases hleft : left.toList with
  | nil =>
    obtain rfl : left = "" := String.toList_eq_nil_iff.1 hleft
    rw [join_empty_left, h]
    rfl
  | cons c tail =>
    cases tail with
    | cons d rest =>
      have hjoined : (join left right).toList =
          c :: d :: (rest ++ ((gap left).toList ++ right.toList)) := by
        rw [htext, hleft]
        rfl
      rw [beginning_of_two hleft, beginning_of_two hjoined]
    | nil =>
      by_cases hc : c = '/'
      · subst hc
        simp [beginning, htext, hleft, lead]
      · have hjoined : (join left right).toList = c :: '/' :: right.toList := by
          simp [htext, gap, hleft, hc]
        rw [beginning_of_two hjoined, if_neg hc]
        by_cases hdot : c = '.' <;> simp [beginning, hleft, lead, hc, hdot]

theorem beginning_joinAll {names : List String} (h : ∀ name ∈ names, IsPlain name) :
    beginning (joinAll names) = [] := by
  have hgen (start : String) : beginning (names.foldl join start) = beginning start := by
    induction names generalizing start with
    | nil => rfl
    | cons name rest ih =>
      obtain ⟨hname, hrest⟩ := List.forall_mem_cons.1 h
      rw [List.foldl_cons, ih hrest, beginning_join start (beginning_of_plain hname)]
  exact hgen ""

theorem components_join_joinAll (left : String) {names : List String}
    (h : ∀ name ∈ names, IsPlain name) :
    components (join left (joinAll names)) = components left ++ names := by
  have hnames := beginning_joinAll h
  unfold components
  rw [beginning_join left hnames, moves_join left (isAbsolute_of_beginning hnames),
    moves_joinAll h, ← List.append_assoc, List.map_append]
  simp

end Path

open Modforge.Path

/-! ## Registrars -/

def registrarRequest (owner suffix text : String) : Request :=
  .source (Naming.packageOf owner) (Naming.simpleName owner ++ suffix) text

/-- The names from the source root down to the registrar of an owner: the parts of its package, if
it has one, and the file of the type. -/
def registrarNames (owner suffix : String) : List String :=
  (if Naming.packageOf owner = "" then [] else Text.split '.' (Naming.packageOf owner)) ++
    [Naming.simpleName owner ++ suffix ++ ".java"]

section

variable {suffix owner owner' : String}

theorem isPlain_registrarNames (howner : Naming.checkQualified owner = .ok ())
    (hslash : '/' ∉ suffix.toList) : ∀ name ∈ registrarNames owner suffix, IsPlain name := by
  intro name hname
  rw [registrarNames, ← packageParts_packageOf howner, List.mem_append, List.mem_singleton] at hname
  rcases hname with hpart | rfl
  · have hidentifier := isIdentifier_of_mem_packageParts howner name hpart
    exact (isFolderName_of_identifier hidentifier).isPlain
  · have hsimple := isFolderName_of_identifier (isIdentifier_parts howner).2
    exact (hsimple.isPlain.append hslash).append (by decide)

theorem path_registrarRequest (home : Location) (disk : Disk) (text : String)
    (howner : Naming.checkQualified owner = .ok ()) (hslash : '/' ∉ suffix.toList) :
    let path := disk.path (registrarRequest owner suffix text)
    let names := registrarNames owner suffix
    path = join disk.sourceRoot (Text.join "/" names) ∧
      components path = components disk.sourceRoot ++ names ∧
      place home path = place home disk.sourceRoot ++ names := by
  intro path names
  have hplain : ∀ name ∈ names, IsPlain name := isPlain_registrarNames howner hslash
  have hpath : path = join disk.sourceRoot (joinAll names) := by
    show join (join _ (packagePath _)) _ = _
    rw [packagePath, join_assoc, packageParts_packageOf howner]
    simp only [names, registrarNames, joinAll, List.foldl_append, List.foldl_cons, List.foldl_nil]
  rw [hpath]
  refine ⟨?_, components_join_joinAll _ hplain, ?_⟩
  · rw [joinAll_eq hplain]
  · rw [place_join home _ (place_joinAll hplain).1, (place_joinAll hplain).2]

theorem eq_of_registrarNames (howner : Naming.checkQualified owner = .ok ())
    (howner' : Naming.checkQualified owner' = .ok ())
    (h : registrarNames owner suffix = registrarNames owner' suffix) : owner = owner' := by
  rw [registrarNames, registrarNames, ← packageParts_packageOf howner,
    ← packageParts_packageOf howner'] at h
  obtain ⟨hparts, hfile⟩ := List.append_inj' h rfl
  have htype := (String.append_left_inj ".java").1 (List.singleton_inj.1 hfile)
  exact eq_of_package_of_simpleName howner howner' (packageOf_eq_of_parts howner howner' hparts)
    ((String.append_left_inj suffix).1 htype)

/-- The registrar of an owner lies under the source root: first come the parts of the package as
folders, then the file. Its path is that of another owner's registrar only if the owners are the
same, whether paths are compared as texts, by their components or by where they lead. -/
theorem registrar_placed (home : Location) (disk : Disk) (text text' : String)
    (hslash : '/' ∉ suffix.toList) (howner : Naming.checkQualified owner = .ok ())
    (howner' : Naming.checkQualified owner' = .ok ()) :
    let path := disk.path (registrarRequest owner suffix text)
    let path' := disk.path (registrarRequest owner' suffix text')
    let names := registrarNames owner suffix
    path = join disk.sourceRoot (Text.join "/" names) ∧
      components path = components disk.sourceRoot ++ names ∧
      place home path = place home disk.sourceRoot ++ names ∧
      Inside (place home disk.sourceRoot) (place home path) ∧
      (path = path' ↔ owner = owner') ∧
      (components path = components path' ↔ owner = owner') ∧
      (place home path = place home path' ↔ owner = owner') := by
  intro path path' names
  obtain ⟨htext, hcomponents, hplace⟩ := path_registrarRequest home disk text howner hslash
  obtain ⟨-, hcomponents', hplace'⟩ := path_registrarRequest home disk text' howner' hslash
  have hsame : owner = owner' → path = path' := by
    rintro rfl
    rfl
  have hnames : names = registrarNames owner' suffix → owner = owner' :=
    eq_of_registrarNames howner howner'
  have hcomponent : components path = components path' → owner = owner' := by
    intro h
    rw [hcomponents, hcomponents'] at h
    exact hnames (List.append_cancel_left h)
  have hwhere : place home path = place home path' → owner = owner' := by
    intro h
    rw [hplace, hplace'] at h
    exact hnames (List.append_cancel_left h)
  exact ⟨htext, hcomponents, hplace, ⟨names, by simp [names, registrarNames], hplace⟩,
    ⟨fun h => hcomponent (congrArg components h), hsame⟩,
    ⟨hcomponent, fun h => congrArg components (hsame h)⟩,
    ⟨hwhere, fun h => congrArg (place home) (hsame h)⟩⟩

end

theorem registrar_placed_ores :
    '/' ∉ "Registrar".toList ∧ Naming.checkQualified "mod.ore.Tin" = .ok () ∧
      Naming.checkQualified "Tin" = .ok () ∧
      let disk : Disk := ⟨"res", "./java/"⟩
      let path := disk.path (registrarRequest "mod.ore.Tin" "Registrar" "old")
      let path' := disk.path (registrarRequest "Tin" "Registrar" "new")
      path = "./java/mod/ore/TinRegistrar.java" ∧
        components path = [".", "java", "mod", "ore", "TinRegistrar.java"] ∧
        place ["work"] path = ["work", "java", "mod", "ore", "TinRegistrar.java"] ∧
        components path ≠ components path' := by
  have hslash : '/' ∉ "Registrar".toList := by decide
  have howner : Naming.checkQualified "mod.ore.Tin" = .ok () := by decide
  have howner' : Naming.checkQualified "Tin" = .ok () := by decide
  obtain ⟨htext, hcomponents, hplace, -, -, hsame, -⟩ :=
    registrar_placed ["work"] ⟨"res", "./java/"⟩ "old" "new" hslash howner howner'
  refine ⟨hslash, howner, howner', htext.trans ?_, hcomponents.trans ?_, hplace.trans ?_,
    fun h => absurd (hsame.1 h) (by decide)⟩ <;> decide +kernel

/-- Names that are not checked may share a file: an empty part is no folder. -/
example :
    let disk : Disk := ⟨"res", "java"⟩
    disk.path (registrarRequest "mod..Tin" "Registrar" "old") =
      disk.path (registrarRequest "mod.Tin" "Registrar" "new") := by
  decide +kernel

end Modforge
