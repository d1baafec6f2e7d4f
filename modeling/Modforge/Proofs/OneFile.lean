import Modforge.Proofs.Folders

/-! # A write touches one file or none -/

namespace Modforge

namespace Path

/-! ## The way to the parent -/

/-- The places a path leads through before its last name. -/
def above (home : Location) (path : String) : List Location :=
  (moves path).dropLast.scanl follow (if isAbsolute path then [] else home)

theorem moves_of_parent? {path parent : String} (h : parent? path = some parent) :
    moves parent = (moves path).dropLast ∧ isAbsolute parent = isAbsolute path := by
  by_cases hmoves : moves path = []
  · -- only a dot at the beginning is left to be taken away
    have htrim : trimPieces (lead path.toList).2 = [] := by
      rcases (trimPieces_spec (lead path.toList).2).2 with hnil | ⟨last, hlast, hnamed⟩
      · exact hnil
      · have hmem := List.mem_of_getLast? hlast
        rw [moves_eq_lead, ← filter_trimPieces, List.filter_eq_nil_iff] at hmoves
        exact absurd (by simpa using hnamed) (hmoves last hmem)
    simp only [parent?, htrim, List.reverse_nil] at h
    split at h
    · next hstart =>
      cases h
      refine ⟨by rw [hmoves]; rfl, ?_⟩
      have hhead := lead_append path.toList
      rw [eq_of_beq hstart] at hhead
      rw [isAbsolute, isAbsolute, ← hhead]
      rfl
    · cases h
  · obtain ⟨before, last, hsplit⟩ := List.eq_nil_or_concat' (moves path) |>.resolve_left hmoves
    obtain ⟨parent', hparent, hbefore, habsolute, -⟩ := parent?_of_moves hsplit
    obtain rfl : parent' = parent := Option.some.inj (hparent.symm.trans h)
    rw [hbefore, hsplit, List.dropLast_concat]
    exact ⟨rfl, habsolute⟩

theorem mem_above_iff {home place : Location} {path parent : String}
    (h : parent? path = some parent) : place ∈ above home path ↔ place ∈ way home parent := by
  obtain ⟨hmoves, habsolute⟩ := moves_of_parent? h
  rw [mem_way_iff, above, hmoves, habsolute]

theorem way_of_above {home place : Location} {path : String} (h : place ∈ above home path) :
    place ∈ way home path := by
  rw [mem_way_iff]
  rcases List.eq_nil_or_concat' (moves path) with hmoves | ⟨before, last, hmoves⟩
  · rw [above, hmoves] at h
    rw [hmoves]
    exact h
  · rw [above, hmoves, List.dropLast_concat] at h
    rw [hmoves]
    exact (mem_scanl_append _ _ _ _).2 (.inl h)

end Path

open Modforge.Path

namespace FileTree

def file? (tree : FileTree) (place : Location) : Option Contents :=
  match tree.node? place with
  | some (.file contents) => some contents
  | _ => none

variable {tree after : FileTree}

theorem limits_put (place : Location) (node : FileNode) :
    (tree.put place node).limits = tree.limits := rfl

theorem ne_nil_of_not_folder {place : Location} (h : tree.node? place ≠ some .folder) :
    place ≠ [] := by
  rintro rfl
  exact h rfl

/-! ## Making folders -/

theorem eq_put_of_makeFolder {path : String} (h : tree.makeFolder path = .ok after) :
    tree.node? (place tree.home path) = none ∧ after = tree.put (place tree.home path) .folder := by
  unfold makeFolder at h
  split at h
  · cases h
  · cases h
  · next folder name slash htarget =>
    split at h
    · cases h
    · split at h
      · cases h
      · next inner henter =>
        have hplace : inner = place tree.home path := by
          rw [eq_follow_of_enter henter, place_of_target htarget]
        rw [← hplace]
        split at h
        · cases h
        · next hnone =>
          cases h
          exact ⟨by simpa using hnone, rfl⟩

theorem grown_makeFolder {path : String} (h : tree.makeFolder path = .ok after) :
    Grown tree after (· ∈ way tree.home path) := by
  obtain ⟨hnone, rfl⟩ := eq_put_of_makeFolder h
  have hroot : place tree.home path ≠ [] :=
    ne_nil_of_not_folder (by rw [hnone]; exact nofun)
  refine ⟨rfl, rfl, fun other => ?_⟩
  by_cases heq : other = place tree.home path
  · rw [heq, node?_put_self tree hroot]
    exact .inr ⟨hnone, foldl_mem_scanl _ _, rfl⟩
  · exact .inl (node?_put_of_ne tree heq .folder)

theorem grown_ensureFolder {path : String} (h : tree.ensureFolder path = .ok after) :
    Grown tree after (· ∈ way tree.home path) := by
  unfold ensureFolder at h
  split at h
  · next hmake =>
    cases h
    exact grown_makeFolder hmake
  · split at h
    · cases h
      exact .refl ..
    · cases h

theorem grown_makeFoldersBelow (fuel : Nat) (tree : FileTree) (path : String) :
    Grown tree (tree.makeFoldersBelow fuel path).2 (· ∈ way tree.home path) := by
  -- each call goes on with the parent, whose way lies on that of the path
  induction fuel generalizing path with
  | zero => exact .refl ..
  | succ fuel ih =>
    rw [makeFoldersBelow]
    split
    · exact .refl ..
    split
    · next hmake => exact grown_makeFolder hmake
    · split
      · exact .refl ..
      · next parent hparent =>
        have hbelow := (ih parent).mono fun place hplace =>
          way_of_above ((mem_above_iff hparent).2 hplace)
        split
        · next hmake =>
          rw [hmake] at hbelow
          exact hbelow
        · next between hmake =>
          rw [hmake] at hbelow
          split
          · next hensure =>
            have hlast := grown_ensureFolder hensure
            rw [hbelow.home] at hlast
            exact hbelow.trans hlast
          · exact hbelow
    · split
      · exact .refl ..
      · exact .refl ..

theorem grown_prepare (path : String) (tree : FileTree) :
    Grown tree (Disk.prepare path tree).2 (· ∈ above tree.home path) := by
  unfold Disk.prepare
  split
  · exact .refl ..
  · next parent hparent =>
    have hgrown := (grown_makeFoldersBelow (parent.toList.length + 1) tree parent).mono
      fun place hplace => (mem_above_iff hparent).2 hplace
    rw [← makeFolders] at hgrown
    split
    · next hmake => rwa [hmake] at hgrown
    · next hmake => rwa [hmake] at hgrown

theorem Grown.file? {allowed : Location → Prop} (h : Grown tree after allowed) (place : Location) :
    after.file? place = tree.file? place := by
  unfold FileTree.file?
  rcases h.node? place with heq | ⟨hnone, -, hfolder⟩
  · rw [heq]
  · rw [hnone, hfolder]

/-! ## Writing and reading back -/

theorem walk_put {inner : Location} (hinner : tree.node? inner ≠ some .folder) (node : FileNode)
    {pieces : List (List Char)} {start last : Location} (h : tree.walk start pieces = .ok last) :
    (tree.put inner node).walk start pieces = .ok last := by
  induction pieces generalizing start with
  | nil => exact h
  | cons piece rest ih =>
    rw [walk_cons] at h ⊢
    have hstart : (tree.put inner node).node? start = tree.node? start := by
      refine node?_put_of_ne tree ?_ node
      rintro rfl
      cases hnode : tree.node? start with
      | none => simp [enter, hnode, bind, Except.bind] at h
      | some there =>
        cases there with
        | file contents => simp [enter, hnode, bind, Except.bind] at h
        | folder => exact hinner hnode
    have henter : (tree.put inner node).enter start piece = tree.enter start piece := by
      unfold enter isLongName
      rw [hstart, limits_put]
    rw [henter]
    cases hnext : tree.enter start piece with
    | error fault =>
      rw [hnext] at h
      cases h
    | ok next =>
      rw [hnext] at h
      exact ih h

theorem locate_of_write {path text : String} (h : tree.write path text = .ok after) :
    tree.pathFault? path = none ∧
      tree.walk (tree.start path) (Text.splitChars '/' path.toList) =
        .ok (place tree.home path) ∧
      tree.node? (place tree.home path) ≠ some .folder := by
  unfold write at h
  split at h
  · cases h
  · cases h
  next folder name slash htarget =>
  split at h
  · cases h
  next hname =>
  split at h
  · cases h
  next inner henter =>
  have hinner : inner = place tree.home path := by
    rw [eq_follow_of_enter henter, place_of_target htarget]
  split at h
  · cases h
  next hnode =>
  obtain ⟨before, empties, hsplit, -, hslash, hfault, hwalk⟩ := split_of_target htarget
  have hnone : empties = [] := hslash (by simpa using fun hs : slash = true => hname (by simp [hs]))
  refine ⟨hfault, ?_, hinner ▸ hnode⟩
  rw [hsplit, hnone, List.append_nil, walk, List.foldlM_append, ← walk, hwalk, ← hinner]
  show (tree.enter folder name >>= pure) = _
  rw [henter]
  rfl

theorem read_put {path : String} (hfault : tree.pathFault? path = none)
    (hwalk : tree.walk (tree.start path) (Text.splitChars '/' path.toList) =
      .ok (place tree.home path))
    (hplace : tree.node? (place tree.home path) ≠ some .folder) (text : String) :
    (tree.put (place tree.home path) (.file (.text text))).read path = .ok text := by
  have hroot := ne_nil_of_not_folder hplace
  have hlocate : (tree.put (place tree.home path) (.file (.text text))).locate path =
      .ok (place tree.home path) := by
    unfold locate
    have hfault' : (tree.put (place tree.home path) (.file (.text text))).pathFault? path = none :=
      hfault
    rw [hfault']
    exact walk_put hplace _ hwalk
  simp only [read, hlocate, node?_put_self tree hroot]

theorem file?_put {inner : Location} (hinner : tree.node? inner ≠ some .folder)
    (contents : Contents) (other : Location) :
    (tree.put inner (.file contents)).file? other =
      if other = inner then some contents else tree.file? other := by
  have hroot := ne_nil_of_not_folder hinner
  split
  · next heq => rw [heq, file?, node?_put_self tree hroot]
  · next hne => rw [file?, node?_put_of_ne tree hne, ← file?]

/-! ## One file or none -/

/-- How a tree may differ once a file was asked for at `path`. -/
structure OneFile (path text : String) (before after : FileTree) (outcome : Except String Unit) :
    Prop where
  written : outcome = .ok () → after.read path = .ok text ∧
    ∀ other, after.file? other =
      if other = place before.home path then some (.text text) else before.file? other
  refused : ∀ reason, outcome = .error reason → ∀ other, after.file? other = before.file? other
  kept : ∀ other, before.node? other = some .folder → after.node? other = some .folder
  made : ∀ other, after.node? other = some .folder →
    before.node? other = some .folder ∨
      before.node? other = none ∧ other ∈ above before.home path

theorem OneFile.of_grown {path text reason : String}
    (h : Grown tree after (· ∈ above tree.home path)) :
    OneFile path text tree after (.error reason) where
  written := nofun
  refused := fun _ _ => h.file?
  kept := fun _ => h.folder
  made := fun other hfolder => by
    rcases h.node? other with heq | ⟨hnone, habove, -⟩
    · exact .inl (heq ▸ hfolder)
    · exact .inr ⟨hnone, habove⟩

theorem OneFile.of_write {between : FileTree} {path text : String}
    (h : Grown tree between (· ∈ above tree.home path))
    (hwrite : between.write path text = .ok after) :
    OneFile path text tree after (.ok ()) := by
  obtain rfl := eq_put_of_write hwrite
  obtain ⟨hfault, hwalk, hplace⟩ := locate_of_write hwrite
  have hgrown : OneFile path text tree between (.error "") := .of_grown h
  have hread := read_put hfault hwalk hplace text
  rw [h.home] at hplace hread ⊢
  have hroot := ne_nil_of_not_folder hplace
  refine ⟨fun _ => ⟨hread, fun other => ?_⟩, nofun, fun other hfolder => ?_,
    fun other hfolder => ?_⟩
  · rw [file?_put hplace, h.file?]
  · have hthere := hgrown.kept other hfolder
    rwa [node?_put_of_ne between (fun heq => hplace (by rw [← heq, hthere]))]
  · refine hgrown.made other ?_
    by_cases heq : other = place tree.home path
    · rw [heq, node?_put_self between hroot] at hfolder
      cases hfolder
    · rwa [node?_put_of_ne between heq] at hfolder

theorem oneFile_write (path text : String) (tree : FileTree) :
    OneFile path text tree (Disk.write path text tree).2 (Disk.write path text tree).1 := by
  have hgrown := grown_prepare path tree
  unfold Disk.write
  split
  · next reason between hprepare =>
    rw [hprepare] at hgrown
    exact .of_grown hgrown
  · next between hprepare =>
    rw [hprepare] at hgrown
    split
    · next hwrite => exact .of_write hgrown hwrite
    · exact .of_grown hgrown

end FileTree

/-- A request to a disk writes the file it asks for and no other, or it is refused and every file
stays as it was. No folder is taken away, and new ones only stand on the way to the file. -/
theorem store_oneFile (disk : Disk) (request : Request) (tree : FileTree) :
    let path := disk.path request
    let outcome := (disk.sink.store request tree).1
    let after := (disk.sink.store request tree).2
    (match outcome with
      | .ok () => after.read path = .ok (Disk.contents request) ∧
          ∀ place, after.file? place =
            if place = Path.place tree.home path then some (.text (Disk.contents request))
            else tree.file? place
      | .error _ => ∀ place, after.file? place = tree.file? place) ∧
      (∀ place, tree.node? place = some .folder → after.node? place = some .folder) ∧
      ∀ place, after.node? place = some .folder → tree.node? place ≠ some .folder →
        tree.node? place = none ∧ place ∈ Path.above tree.home path := by
  intro path outcome after
  have h : FileTree.OneFile path (Disk.contents request) tree after outcome :=
    FileTree.oneFile_write path (Disk.contents request) tree
  refine ⟨?_, h.kept, fun place hplace hnew => (h.made place hplace).resolve_left hnew⟩
  cases houtcome : outcome with
  | ok value => exact h.written houtcome
  | error reason => exact h.refused reason houtcome

/-- A file stands where the resources want a folder. -/
def blockedTree : FileTree :=
  (FileTree.emptyAt ["work"]).put ["work", "res"] (.file (.text "old"))

def blockedDisk : Disk := ⟨"res", "java"⟩

def blockedResource : Request := .resource "m" "tin.json" "new"

def openSource : Request := .source "m" "Tin" "new"

theorem store_oneFile_blocked :
    (blockedDisk.sink.store blockedResource blockedTree).1 =
        .error "Failed to create directory res/m: Not a directory (os error 20)" ∧
      (blockedDisk.sink.store blockedResource blockedTree).2.file? ["work", "res"] =
        some (.text "old") ∧
      (blockedDisk.sink.store openSource blockedTree).1 = .ok () ∧
      (blockedDisk.sink.store openSource blockedTree).2.read "java/m/Tin.java" = .ok "new" := by
  have hrefused : (blockedDisk.sink.store blockedResource blockedTree).1 =
      .error "Failed to create directory res/m: Not a directory (os error 20)" := by
    decide +kernel
  have hwritten : (blockedDisk.sink.store openSource blockedTree).1 = .ok () := by
    decide +kernel
  have hold : blockedTree.file? ["work", "res"] = some (.text "old") := by decide +kernel
  have hpath : blockedDisk.path openSource = "java/m/Tin.java" := by decide +kernel
  have h := (store_oneFile blockedDisk blockedResource blockedTree).1
  have h' := (store_oneFile blockedDisk openSource blockedTree).1
  rw [hrefused] at h
  rw [hwritten, hpath] at h'
  exact ⟨hrefused, (h _).trans hold, hwritten, h'.1⟩

end Modforge
