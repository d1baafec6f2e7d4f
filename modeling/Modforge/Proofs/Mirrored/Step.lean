import Modforge.Proofs.Mirrored.Names
import Modforge.Proofs.Mirrored.Spec

/-!
# One file for each text

The invariant of a run: under each root stands one file for each text in memory, in folders whose
names have no dots, and elsewhere only folders on the way to a root are new. Storing one more text
keeps it.
-/

namespace Modforge

open Modforge.Path

/-! ## Paths -/

section

variable (disk : Disk)

theorem path_eq_join (request : Request) :
    disk.path request =
      join (join (disk.root request.entry.1.1) (packagePath request.entry.1.2.1))
        (fileName request.entry.1) := by
  cases request <;> rfl

theorem path_spec {request : Request} {folders : List String} {file : String}
    (hnames : names request.entry.1 = folders ++ [file])
    (hfolders : ∀ name ∈ folders, IsFolderName name) (hfile : IsFileName file) :
    moves (disk.path request) =
        moves (disk.root request.entry.1.1) ++ (folders ++ [file]).map String.toList ∧
      isAbsolute (disk.path request) = isAbsolute (disk.root request.entry.1.1) ∧
      (Text.splitChars '/' (disk.path request).toList).getLast? = some file.toList := by
  have hplain : ∀ name ∈ names request.entry.1, IsPlain name := by
    intro name hname
    rw [hnames, List.mem_append, List.mem_singleton] at hname
    rcases hname with hname | rfl
    · exact (hfolders name hname).isPlain
    · exact hfile.isPlain
  have hparts : ∀ name ∈ Naming.packageParts request.entry.1.2.1, IsPlain name :=
    fun name hname => hplain name (List.mem_append_left _ hname)
  obtain ⟨hmovesFile, hrelative⟩ := moves_of_plain
    fun name (hname : name ∈ Text.split '/' (fileName request.entry.1)) =>
      hplain name (List.mem_append_right _ hname)
  have hrelativePackage := (place_joinAll hparts).1
  refine ⟨?_, ?_, ?_⟩
  · rw [path_eq_join, moves_join _ hrelative, packagePath, moves_join _ hrelativePackage,
      moves_joinAll hparts, hmovesFile, List.append_assoc, ← List.map_append, ← hnames, names]
  · rw [path_eq_join, isAbsolute_join_eq _ hrelative, packagePath,
      isAbsolute_join_eq _ hrelativePackage]
  · have hlast : (Text.split '/' (fileName request.entry.1)).getLast? = some file := by
      have hne : Text.split '/' (fileName request.entry.1) ≠ [] := by
        rw [Text.split, ne_eq, List.map_eq_nil_iff]
        exact Text.splitChars_ne_nil '/' _
      rw [← List.getLast?_append_of_ne_nil (Naming.packageParts request.entry.1.2.1) hne]
      show (names request.entry.1).getLast? = _
      rw [hnames, List.getLast?_concat]
    rw [path_eq_join, getLast?_join _ hrelative]
    have hmap := congrArg (Option.map String.toList) hlast
    rw [← List.getLast?_map] at hmap
    simpa [Text.split, Function.comp_def] using hmap

theorem noNul_path {request : Request} {folders : List String} {file : String}
    (hnames : names request.entry.1 = folders ++ [file])
    (hfolders : ∀ name ∈ folders, IsFolderName name) (hfile : IsFileName file)
    (hroot : NoNul (disk.root request.entry.1.1)) : NoNul (disk.path request) := by
  rw [noNul_iff_moves, (path_spec disk hnames hfolders hfile).1]
  intro piece hpiece c hc
  rcases List.mem_append.1 hpiece with hpiece | hpiece
  · exact noNul_iff_moves.1 hroot piece hpiece c hc
  · obtain ⟨name, hname, rfl⟩ := List.mem_map.1 hpiece
    rcases List.mem_append.1 hname with hname | hname
    · exact (hfolders name hname).noNul c hc
    · obtain rfl := List.mem_singleton.1 hname
      exact hfile.noNul c hc

theorem way_spec (home : Location) {request : Request} {folders : List String} {file : String}
    (hnames : names request.entry.1 = folders ++ [file])
    (hfolders : ∀ name ∈ folders, IsFolderName name) (hfile : IsFileName file) :
    let root := disk.rootPlace home request.entry.1.1
    place home (disk.path request) = root ++ (folders ++ [file]) ∧
      ∃ before, Text.splitChars '/' (disk.path request).toList = before ++ [file.toList] ∧
        ∀ folder, folder ∈ before.scanl follow (if isAbsolute (disk.path request) then [] else home) ↔
          folder ∈ way home (disk.root request.entry.1.1) ∨
            ∃ first, first ≠ [] ∧ first <+: folders ∧ folder = root ++ first := by
  intro root
  obtain ⟨hmoves, habsolute, hlast⟩ := path_spec disk hnames hfolders hfile
  obtain ⟨before, hsplit⟩ := List.getLast?_eq_some_iff.1 hlast
  have hplain : ∀ name ∈ folders, IsPlain name := fun name hname => (hfolders name hname).isPlain
  have hbefore : before.filter (fun piece => !isIdle piece) =
      moves (disk.root request.entry.1.1) ++ folders.map String.toList := by
    rw [moves, hsplit, List.filter_append,
      List.filter_cons_of_pos (by simp [hfile.isPlain.2.1]), List.filter_nil, List.map_append,
      ← List.append_assoc] at hmoves
    exact (List.append_inj' hmoves rfl).1
  have hroot : root = (moves (disk.root request.entry.1.1)).foldl follow
      (if isAbsolute (disk.root request.entry.1.1) then [] else home) := place_eq_moves _ _
  have hplainFile : ∀ name ∈ folders ++ [file], IsPlain name :=
    fun name hname => (List.mem_append.1 hname).elim (hplain name)
      fun hname => List.mem_singleton.1 hname ▸ hfile.isPlain
  refine ⟨?_, before, hsplit, fun folder => ?_⟩
  · rw [place_eq_moves, hmoves, habsolute, List.foldl_append, ← hroot, foldl_plain hplainFile]
  · rw [← mem_scanl_filter, hbefore, habsolute, mem_scanl_append, ← mem_way_iff, ← hroot,
      mem_scanl_plain hplain]
    constructor
    · rintro (hfolder | ⟨first, hfirst, rfl⟩)
      · exact .inl hfolder
      · by_cases hne : first = []
        · rw [hne, List.append_nil]
          exact .inl (foldl_mem_scanl _ _)
        · exact .inr ⟨first, hne, hfirst, rfl⟩
    · rintro (hfolder | ⟨first, -, hfirst, rfl⟩)
      · exact .inl hfolder
      · exact .inr ⟨first, hfirst, rfl⟩

end

/-! ## The invariant -/

/-- What a run has made of a tree, beside what it has put into a memory. -/
structure Mirrors (disk : Disk) (suffix : String) (start tree : FileTree) (memory : Memory) :
    Prop where
  home : tree.home = start.home
  limits : tree.limits = none
  formed : tree.WellFormed
  /-- Outside the roots only folders on the way to one are new. -/
  outside : ∀ place, (∀ isResource, ¬ Inside (disk.rootPlace start.home isResource) place) →
    tree.node? place = start.node? place ∨
      start.node? place = none ∧
        (∃ isResource, place ∈ way start.home (disk.root isResource)) ∧
        tree.node? place = some .folder
  proper : ∀ key text, memory.text? key = some text → IsProper suffix key
  files : ∀ isResource place contents, Inside (disk.rootPlace start.home isResource) place →
    (tree.node? place = some (.file contents) ↔
      ∃ key text, key.1 = isResource ∧ memory.text? key = some text ∧ contents = .text text ∧
        place = disk.rootPlace start.home isResource ++ names key)
  folders : ∀ isResource place, Inside (disk.rootPlace start.home isResource) place →
    tree.node? place = some .folder →
      ∃ more, (∀ name ∈ more, IsFolderName name) ∧
        place = disk.rootPlace start.home isResource ++ more

section

variable {disk : Disk} {suffix : String} {start tree : FileTree} {memory : Memory}

theorem Disk.IsReady.eq_of_inside (h : disk.IsReady start) {isResource other : Bool}
    {place : Location} (hplace : Inside (disk.rootPlace start.home isResource) place)
    (hother : Inside (disk.rootPlace start.home other) place) : isResource = other := by
  obtain ⟨more, -, rfl⟩ := hplace
  obtain ⟨more', -, heq⟩ := hother
  by_cases hsame : isResource = other
  · exact hsame
  · obtain rfl : other = !isResource := by
      cases isResource <;> cases other <;> simp_all
    rcases List.prefix_or_prefix_of_prefix (List.prefix_append _ more)
      (heq ▸ List.prefix_append _ more') with hinitial | hinitial
    · exact absurd hinitial (h.apart isResource)
    · have := h.apart (!isResource)
      rw [Bool.not_not] at this
      exact absurd hinitial this

theorem inside_append (folder : Location) {more : List String} (h : more ≠ []) :
    Inside folder (folder ++ more) :=
  ⟨more, h, rfl⟩

theorem mirrors_start (hready : disk.IsReady start) (hlimits : start.limits = none)
    (hformed : start.WellFormed) : Mirrors disk suffix start start .empty where
  home := rfl
  limits := hlimits
  formed := hformed
  outside _ _ := .inl rfl
  proper key text h := by
    obtain ⟨_ | _, package, name⟩ := key <;> cases h
  files isResource place contents hplace := by
    rw [hready.empty isResource place hplace]
    refine iff_of_false (by simp) ?_
    rintro ⟨⟨_ | _, package, name⟩, text, -, htext, -⟩ <;> cases htext
  folders isResource place hplace hfolder := by
    rw [hready.empty isResource place hplace] at hfolder
    cases hfolder

namespace Mirrors

theorem not_file_on_way (hready : disk.IsReady start) (h : Mirrors disk suffix start tree memory)
    {isResource : Bool} {place : Location} (hplace : place ∈ way start.home (disk.root isResource))
    (contents : Contents) : tree.node? place ≠ some (.file contents) := by
  intro hfile
  rcases h.outside place fun other => hready.around other isResource place hplace with
    heq | ⟨-, -, hfolder⟩
  · exact hready.clear isResource place hplace contents (heq ▸ hfile)
  · rw [hfolder] at hfile
    cases hfile

theorem not_file_below (h : Mirrors disk suffix start tree memory) {isResource : Bool}
    {more : List String} (hne : more ≠ []) (hmore : ∀ name ∈ more, IsFolderName name)
    (contents : Contents) :
    tree.node? (disk.rootPlace start.home isResource ++ more) ≠ some (.file contents) := by
  intro hfile
  obtain ⟨key, text, -, htext, -, hplace⟩ :=
    (h.files isResource _ contents (inside_append _ hne)).1 hfile
  obtain ⟨folders, file, hnames, -, hfileName⟩ := names_of_isProper (h.proper key text htext)
  obtain rfl := List.append_cancel_left hplace
  exact (hmore file (by simp [hnames])).not_dot hfileName.dot

theorem not_folder (h : Mirrors disk suffix start tree memory) {isResource : Bool}
    {folders : List String} {file : String} (hfile : IsFileName file) :
    tree.node? (disk.rootPlace start.home isResource ++ (folders ++ [file])) ≠ some .folder := by
  intro hfolder
  obtain ⟨more, hmore, hplace⟩ :=
    h.folders isResource _ (inside_append _ (by simp)) hfolder
  obtain rfl := List.append_cancel_left hplace
  exact (hmore file (by simp)).not_dot hfile.dot

theorem grow (hready : disk.IsReady start) (h : Mirrors disk suffix start tree memory)
    {isResource : Bool} {between : FileTree} {allowed : Location → Prop}
    (hgrown : FileTree.Grown tree between allowed)
    (hallowed : ∀ folder, allowed folder →
      folder ∈ way start.home (disk.root isResource) ∨
        ∃ first, first ≠ [] ∧ (∀ name ∈ first, IsFolderName name) ∧
          folder = disk.rootPlace start.home isResource ++ first)
    (hformed : between.WellFormed) : Mirrors disk suffix start between memory := by
  refine ⟨hgrown.home.trans h.home, hgrown.limits.trans h.limits, hformed, ?_, h.proper, ?_, ?_⟩
  · -- outside the roots
    intro place hplace
    rcases hgrown.node? place with heq | ⟨hnone, hmade, hfolder⟩
    · rw [heq]
      exact h.outside place hplace
    · rcases hallowed place hmade with hway | ⟨first, hne, -, rfl⟩
      · refine .inr ⟨?_, ⟨_, hway⟩, hfolder⟩
        rcases h.outside place hplace with heq | ⟨hstart, -, -⟩
        · rw [← heq, hnone]
        · exact hstart
      · exact absurd (inside_append _ hne) (hplace _)
  · -- the files
    intro other place contents hplace
    rw [← h.files other place contents hplace]
    rcases hgrown.node? place with heq | ⟨hnone, -, hfolder⟩
    · rw [heq]
    · simp [hnone, hfolder]
  · -- the folders
    intro other place hplace hfolder
    rcases hgrown.node? place with heq | ⟨-, hmade, -⟩
    · exact h.folders other place hplace (heq ▸ hfolder)
    · rcases hallowed place hmade with hway | ⟨first, hfirst, hnames, rfl⟩
      · exact absurd hplace (hready.around _ _ _ hway)
      · obtain rfl := hready.eq_of_inside hplace (inside_append _ hfirst)
        exact ⟨first, hnames, rfl⟩

theorem put (hready : disk.IsReady start) (h : Mirrors disk suffix start tree memory)
    {request : Request} (hproper : IsProper suffix request.entry.1) {target : Location}
    (htarget : target = disk.rootPlace start.home request.entry.1.1 ++ names request.entry.1)
    (hformed : (tree.put target (.file (.text request.entry.2))).WellFormed) :
    Mirrors disk suffix start (tree.put target (.file (.text request.entry.2)))
      (memory.put request) := by
  have hnames : names request.entry.1 ≠ [] := by
    obtain ⟨folders, file, hnames, -, -⟩ := names_of_isProper hproper
    simp [hnames]
  have hinside : Inside (disk.rootPlace start.home request.entry.1.1) target :=
    ⟨_, hnames, htarget⟩
  have hself : (tree.put target (.file (.text request.entry.2))).node? target =
      some (.file (.text request.entry.2)) :=
    FileTree.node?_put_self tree (by simp [htarget, hnames]) _
  have hother {place : Location} (hne : place ≠ target) :
      (tree.put target (.file (.text request.entry.2))).node? place = tree.node? place :=
    FileTree.node?_put_of_ne tree hne _
  have hkeys (key : Bool × String × String) (text : String)
      (htext : (memory.put request).text? key = some text) : IsProper suffix key := by
    by_cases heq : key = request.entry.1
    · exact heq ▸ hproper
    · rw [text?_put_of_ne memory heq] at htext
      exact h.proper key text htext
  refine ⟨h.home, h.limits, hformed, fun place hplace => ?_, hkeys, ?_, ?_⟩
  · rw [hother fun heq => hplace _ (heq ▸ hinside)]
    exact h.outside place hplace
  · -- the files
    intro isResource place contents hplace
    by_cases heq : place = target
    · subst heq
      obtain rfl := hready.eq_of_inside hplace hinside
      rw [hself]
      constructor
      · rintro hcontents
        cases hcontents
        exact ⟨request.entry.1, _, rfl, text?_put_self memory request, rfl, htarget⟩
      · rintro ⟨key, text, hkind, htext, rfl, hsame⟩
        obtain rfl := eq_of_names (hkeys key text htext) hproper hkind
          (List.append_cancel_left (hsame.symm.trans htarget))
        rw [text?_put_self] at htext
        cases htext
        rfl
    · rw [hother heq, h.files isResource place contents hplace]
      refine exists_congr fun key => exists_congr fun text => ?_
      by_cases hsame : key = request.entry.1
      · -- the file of this key stands at the target
        subst hsame
        have hnot : ¬ (request.entry.1.1 = isResource ∧
            place = disk.rootPlace start.home isResource ++ names request.entry.1) := by
          rintro ⟨rfl, hplace⟩
          exact heq (hplace.trans htarget.symm)
        exact iff_of_false (fun ⟨hkind, _, _, hplace⟩ => hnot ⟨hkind, hplace⟩)
          fun ⟨hkind, _, _, hplace⟩ => hnot ⟨hkind, hplace⟩
      · rw [text?_put_of_ne memory hsame]
  · -- the folders
    intro isResource place hplace hfolder
    have hne : place ≠ target := by
      rintro rfl
      rw [hself] at hfolder
      cases hfolder
    rw [hother hne] at hfolder
    exact h.folders isResource place hplace hfolder

end Mirrors

/-- A text is always taken, since no file stands where a folder is to be made and no folder where
the file is to lie. -/
theorem mirrors_store (hready : disk.IsReady start) (h : Mirrors disk suffix start tree memory)
    {request : Request} (hproper : IsProper suffix request.entry.1) :
    ∃ after, disk.sink.store request tree = (.ok (), after) ∧
      Mirrors disk suffix start after (memory.put request) := by
  obtain ⟨folders, file, hnames, hfolders, hfile⟩ := names_of_isProper hproper
  let root := disk.rootPlace start.home request.entry.1.1
  obtain ⟨hplace, before, hsplit, hway⟩ := way_spec disk start.home hnames hfolders hfile
  have hallowed (folder : Location)
      (hfolder : folder ∈ before.scanl follow (tree.start (disk.path request))) :
      folder ∈ way start.home (disk.root request.entry.1.1) ∨
        ∃ first, first ≠ [] ∧ first <+: folders ∧ folder = root ++ first := by
    rw [FileTree.start, h.home] at hfolder
    exact (hway folder).1 hfolder
  rw [← h.home] at hplace
  have hclear : ∀ folder ∈ before.scanl follow (tree.start (disk.path request)), ∀ contents,
      tree.node? folder ≠ some (.file contents) := by
    intro folder hfolder contents
    rcases hallowed folder hfolder with hfolder | ⟨first, hne, hfirst, rfl⟩
    · exact h.not_file_on_way hready hfolder contents
    · exact h.not_file_below hne (fun name hname => hfolders name (hfirst.subset hname)) contents
  have hnotFolder : tree.node? (place tree.home (disk.path request)) ≠ some .folder := by
    rw [hplace, h.home]
    exact h.not_folder hfile
  have hfresh : place tree.home (disk.path request) ∉
      before.scanl follow (tree.start (disk.path request)) := by
    intro hmem
    rw [hplace, h.home] at hmem
    rcases hallowed _ hmem with hmem | ⟨first, -, hfirst, heq⟩
    · exact hready.around _ _ _ hmem (inside_append root (by simp))
    · have hlength := hfirst.length_le
      rw [← List.append_cancel_left heq, List.length_append, List.length_singleton] at hlength
      omega
  obtain ⟨between, hwrite, hgrown, hbetween, hformed⟩ := FileTree.write_spec h.limits h.formed
    (noNul_path disk hnames hfolders hfile (hready.noNul _)) hsplit hfile.isPlain.2.1 hfile.isPlain.2.2
    hclear hnotFolder hfresh request.entry.2
  have hstore : disk.sink.store request tree =
      Disk.write (disk.path request) request.entry.2 tree := by
    cases request <;> simp only [Disk.sink, Disk.contents, Request.entry]
  have hmirrors : Mirrors disk suffix start between memory := by
    refine h.grow hready hgrown (fun folder hfolder => (hallowed folder hfolder).imp_right ?_)
      hbetween
    rintro ⟨first, hne, hfirst, rfl⟩
    exact ⟨first, hne, fun name hname => hfolders name (hfirst.subset hname), rfl⟩
  refine ⟨_, hstore.trans hwrite, hmirrors.put hready hproper ?_ hformed⟩
  rw [hplace, h.home, hnames]

end

end Modforge
