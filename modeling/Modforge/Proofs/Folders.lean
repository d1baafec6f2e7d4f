import Modforge.Output.Disk
import Modforge.Proofs.Way

/-!
# Writing into folders that are made on the way

In a tree without limits all folders of a path can be made unless a file stands in the way. Only
what was missing on the way is new, and a file written there changes nothing else.
-/

namespace Modforge

open Modforge.Path

/-! ## Trees -/

namespace FileTree

/-- What exists lies in a folder, and so does the working directory. -/
structure WellFormed (tree : FileTree) : Prop where
  home : tree.node? tree.home = some .folder
  closed : ∀ place, (tree.node? place).isSome = true → tree.node? place.dropLast = some .folder

def IsOpen (tree : FileTree) (path : String) : Prop :=
  ∀ place ∈ way tree.home path, tree.node? place = some .folder

def IsClear (tree : FileTree) (path : String) : Prop :=
  ∀ place ∈ way tree.home path, ∀ contents, tree.node? place ≠ some (.file contents)

theorem isSome_node?_iff (tree : FileTree) (place : Location) :
    (tree.node? place).isSome = true ↔ place = [] ∨ ∃ entry ∈ tree.nodes, entry.1 = place := by
  by_cases hroot : place = []
  · simp [node?, hroot]
  · rw [node?, if_neg hroot, or_iff_right hroot, Option.isSome_iff_ne_none, ne_eq,
      List.lookup_eq_none_iff]
    simp only [bne_iff_ne, not_forall, not_not, exists_prop, @eq_comm _ place]

theorem forall_inside_iff (tree : FileTree) (folder : Location) :
    (∀ place, Inside folder place → tree.node? place = none) ↔
      ∀ entry ∈ tree.nodes, ¬ Inside folder entry.1 := by
  constructor
  · intro h entry hentry hinside
    have hthere := (isSome_node?_iff tree entry.1).2 (.inr ⟨entry, hentry, rfl⟩)
    rw [h entry.1 hinside] at hthere
    cases hthere
  · intro h place hinside
    rw [← Option.not_isSome_iff_eq_none, isSome_node?_iff]
    rintro (rfl | ⟨entry, hentry, rfl⟩)
    · obtain ⟨more, hne, hfolder⟩ := hinside
      exact hne (List.append_eq_nil_iff.1 hfolder.symm).2
    · exact h entry hentry hinside

theorem wellFormed_iff (tree : FileTree) :
    tree.WellFormed ↔ tree.node? tree.home = some .folder ∧
      ∀ entry ∈ tree.nodes, tree.node? entry.1.dropLast = some .folder := by
  constructor
  · rintro ⟨hhome, hclosed⟩
    exact ⟨hhome, fun entry hentry =>
      hclosed _ ((isSome_node?_iff tree _).2 (.inr ⟨entry, hentry, rfl⟩))⟩
  · rintro ⟨hhome, hentries⟩
    refine ⟨hhome, fun place hplace => ?_⟩
    rcases (isSome_node?_iff tree place).1 hplace with rfl | ⟨entry, hentry, rfl⟩
    · rfl
    · exact hentries entry hentry

theorem isClear_iff (tree : FileTree) (path : String) :
    tree.IsClear path ↔
      ∀ place ∈ way tree.home path, tree.node? place = none ∨ tree.node? place = some .folder := by
  refine forall_congr' fun place => imp_congr_right fun _ => ?_
  rcases tree.node? place with _ | _ | _ <;> simp

instance (tree : FileTree) : Decidable tree.WellFormed :=
  decidable_of_iff _ (wellFormed_iff tree).symm

instance (tree : FileTree) (path : String) : Decidable (tree.IsClear path) :=
  decidable_of_iff _ (isClear_iff tree path).symm

/-- Folders were made, and only where it was allowed and nothing stood. -/
structure Grown (before after : FileTree) (allowed : Location → Prop) : Prop where
  home : after.home = before.home
  limits : after.limits = before.limits
  node? : ∀ place, after.node? place = before.node? place ∨
    before.node? place = none ∧ allowed place ∧ after.node? place = some .folder

namespace Grown

variable {before between after : FileTree} {allowed allowed' : Location → Prop}

theorem refl (tree : FileTree) (allowed : Location → Prop) : Grown tree tree allowed :=
  ⟨rfl, rfl, fun _ => .inl rfl⟩

theorem mono (h : Grown before after allowed) (hle : ∀ place, allowed place → allowed' place) :
    Grown before after allowed' :=
  ⟨h.home, h.limits, fun place => (h.node? place).imp_right fun ⟨hnone, hplace, hfolder⟩ =>
    ⟨hnone, hle place hplace, hfolder⟩⟩

theorem trans (h : Grown before between allowed) (h' : Grown between after allowed) :
    Grown before after allowed := by
  refine ⟨h'.home.trans h.home, h'.limits.trans h.limits, fun place => ?_⟩
  rcases h'.node? place with heq | ⟨hnone, hplace, hfolder⟩
  · rw [heq]
    exact h.node? place
  · rcases h.node? place with heq | ⟨-, -, hbetween⟩
    · exact .inr ⟨heq ▸ hnone, hplace, hfolder⟩
    · rw [hbetween] at hnone
      cases hnone

theorem folder (h : Grown before after allowed) {place : Location}
    (hplace : before.node? place = some .folder) : after.node? place = some .folder := by
  rcases h.node? place with heq | ⟨hnone, -, -⟩
  · rw [heq, hplace]
  · rw [hplace] at hnone
    cases hnone

theorem isClear (h : Grown before after allowed) {path : String} (hclear : before.IsClear path) :
    after.IsClear path := by
  intro place hplace contents hfile
  rcases h.node? place with heq | ⟨-, -, hfolder⟩
  · exact hclear place (h.home ▸ hplace) contents (heq ▸ hfile)
  · rw [hfolder] at hfile
    cases hfile

end Grown

/-! ## Walking -/

section

variable {tree : FileTree}

theorem enter_of_folder (hlimits : tree.limits = none) {place : Location}
    (h : tree.node? place = some .folder) (piece : List Char) :
    tree.enter place piece = .ok (follow place piece) := by
  simp only [enter, h, follow, isLongName, hlimits, Option.any_none, Bool.false_eq_true, if_false]
  split
  · rfl
  · split <;> rfl

theorem walk_cons (place : Location) (piece : List Char) (rest : List (List Char)) :
    tree.walk place (piece :: rest) = tree.enter place piece >>= fun next => tree.walk next rest :=
  List.foldlM_cons

/-- Either there are folders all the way, or something is missing on it. -/
theorem arrive_cases (hlimits : tree.limits = none) (pieces : List (List Char)) (start : Location)
    (hfiles : ∀ place ∈ pieces.scanl follow start, ∀ contents,
      tree.node? place ≠ some (.file contents)) :
    ((∀ place ∈ pieces.scanl follow start, tree.node? place = some .folder) ∧
        tree.walk start (pieces ++ [[]]) = .ok (followAll start pieces)) ∨
      ((∃ place ∈ pieces.scanl follow start, tree.node? place = none) ∧
        tree.walk start (pieces ++ [[]]) = .error .notFound) := by
  induction pieces generalizing start with
  | nil =>
    cases h : tree.node? start with
    | none => exact .inr ⟨⟨start, by simp, h⟩, by simp [walk, enter, h]⟩
    | some node =>
      cases node with
      | file contents => exact absurd h (hfiles start (by simp) contents)
      | folder =>
        refine .inl ⟨by simpa using h, ?_⟩
        rw [List.nil_append, walk_cons, enter_of_folder hlimits h]
        rfl
  | cons piece rest ih =>
    have hstart : start ∈ (piece :: rest).scanl follow start := by simp
    have hnext (place : Location) (h : place ∈ rest.scanl follow (follow start piece)) :
        place ∈ (piece :: rest).scanl follow start := by
      rw [List.scanl_cons]
      exact List.mem_cons_of_mem _ h
    rw [List.cons_append, walk_cons]
    cases h : tree.node? start with
    | none =>
      refine .inr ⟨⟨start, hstart, h⟩, ?_⟩
      simp [enter, h, bind, Except.bind]
    | some node =>
      cases node with
      | file contents => exact absurd h (hfiles start hstart contents)
      | folder =>
        rw [enter_of_folder hlimits h]
        rcases ih (follow start piece) fun place hplace => hfiles place (hnext place hplace) with
          ⟨hall, hwalk⟩ | ⟨⟨place, hplace, hmissing⟩, hwalk⟩
        · refine .inl ⟨?_, hwalk⟩
          rw [List.scanl_cons]
          exact List.forall_mem_cons.2 ⟨h, hall⟩
        · exact .inr ⟨⟨place, hnext place hplace, hmissing⟩, hwalk⟩

theorem walk_of_folders (hlimits : tree.limits = none) {pieces : List (List Char)}
    {start : Location} (h : ∀ place ∈ pieces.scanl follow start, tree.node? place = some .folder) :
    tree.walk start pieces = .ok (followAll start pieces) := by
  induction pieces generalizing start with
  | nil => rfl
  | cons piece rest ih =>
    rw [List.scanl_cons] at h
    obtain ⟨hstart, hrest⟩ := List.forall_mem_cons.1 h
    rw [walk_cons, enter_of_folder hlimits hstart]
    exact ih hrest

theorem arrive_of_folders (hlimits : tree.limits = none) {pieces : List (List Char)}
    {start : Location} (h : ∀ place ∈ pieces.scanl follow start, tree.node? place = some .folder) :
    tree.walk start (pieces ++ [[]]) = .ok (followAll start pieces) := by
  rcases arrive_cases hlimits pieces start (fun place hplace contents hfile => by
    rw [h place hplace] at hfile
    cases hfile) with ⟨-, hwalk⟩ | ⟨⟨place, hplace, hnone⟩, -⟩
  · exact hwalk
  · rw [h place hplace] at hnone
    cases hnone

theorem pathFault?_eq_none (hlimits : tree.limits = none) {path : String} (hnul : NoNul path)
    (hne : path.toList ≠ []) : tree.pathFault? path = none := by
  have hany : (path.toList.any fun c => c.toNat == 0) = false := by
    rw [List.any_eq_false]
    intro c hc
    simpa using hnul c hc
  simp [pathFault?, hany, isLongPath, hlimits, hne]

theorem isFolder_of_isOpen (hlimits : tree.limits = none) {path : String} (hnul : NoNul path)
    (hne : path.toList ≠ []) (h : tree.IsOpen path) : tree.isFolder path = true := by
  have hend : tree.node? (followAll (tree.start path) (Text.splitChars '/' path.toList)) =
      some .folder := h _ (foldl_mem_scanl _ _)
  have hwalk : tree.walk (tree.start path) (Text.splitChars '/' path.toList) =
      .ok (followAll (tree.start path) (Text.splitChars '/' path.toList)) :=
    walk_of_folders hlimits h
  simp [isFolder, locate, pathFault?_eq_none hlimits hnul hne, hwalk, hend]

/-! ## Making one folder -/

theorem target_of_last (hlimits : tree.limits = none) {path : String} (hnul : NoNul path)
    {before : List (List Char)} {last : List Char}
    (hsplit : Text.splitChars '/' path.toList = before ++ [last]) (hlast : last ≠ []) :
    tree.target path =
      (tree.walk (tree.start path) (before ++ [[]])).map fun place => some (place, last, false) := by
  have hne := toList_ne_nil_of_split hsplit hlast
  obtain ⟨c, more, rfl⟩ := List.exists_cons_of_ne_nil hlast
  have hwalk (start : Location) : tree.walk start (before ++ [[]]) =
      tree.walk start before >>= fun place => tree.enter place [] := by
    rw [walk, List.foldlM_append]
    exact bind_congr fun place => by simp [List.foldlM]
  simp only [target, pathFault?_eq_none hlimits hnul hne, hsplit, List.reverse_append,
    List.reverse_singleton, List.singleton_append, List.dropWhile_cons, List.isEmpty_cons,
    Bool.false_eq_true, if_false, List.reverse_reverse, List.head?_cons]
  rw [hwalk]
  cases tree.walk (tree.start path) before with
  | error fault => rfl
  | ok place =>
    show (tree.enter place [] >>= fun _ => _) = Except.map _ (tree.enter place [])
    cases henter : tree.enter place [] with
    | error fault => rfl
    | ok next =>
      obtain rfl : next = place := eq_follow_of_enter henter
      rfl

theorem makeFolder_of_isOpen (hlimits : tree.limits = none) {path : String} (hnul : NoNul path)
    (hne : path.toList ≠ []) (h : tree.IsOpen path) : tree.makeFolder path = .error .exists := by
  have htarget : tree.target path = .ok none ∨ ∃ folder name slash,
      tree.target path = .ok (some (folder, name, slash)) ∧
        tree.node? folder = some .folder ∧ tree.node? (follow folder name) = some .folder := by
    simp only [target, pathFault?_eq_none hlimits hnul hne]
    cases hpieces : (Text.splitChars '/' path.toList).reverse.dropWhile (·.isEmpty) with
    | nil => exact .inl rfl
    | cons name before =>
      have hsplit : ∃ slashes, Text.splitChars '/' path.toList =
          before.reverse ++ [name] ++ slashes := by
        obtain ⟨slashes, hslashes⟩ :=
          List.dropWhile_suffix (l := (Text.splitChars '/' path.toList).reverse) (·.isEmpty)
        rw [hpieces] at hslashes
        exact ⟨slashes.reverse, by simpa using (congrArg List.reverse hslashes).symm⟩
      obtain ⟨slashes, hsplit⟩ := hsplit
      have hall : ∀ place ∈ (before.reverse ++ [name]).scanl follow (tree.start path),
          tree.node? place = some .folder := by
        intro place hplace
        refine h place ?_
        rw [way, hsplit]
        exact (mem_scanl_append _ _ _ _).2 (.inl hplace)
      have hbefore : ∀ place ∈ before.reverse.scanl follow (tree.start path),
          tree.node? place = some .folder := fun place hplace =>
        hall place ((mem_scanl_concat _ _ _ _).2 (.inl hplace))
      have hfolder : tree.node? (followAll (tree.start path) before.reverse) = some .folder :=
        hbefore _ (foldl_mem_scanl _ _)
      have hname := hall _ ((mem_scanl_concat _ _ _ _).2 (.inr rfl))
      refine .inr ⟨_, name, (Text.splitChars '/' path.toList).reverse.head? == some [], ?_,
        hfolder, hname⟩
      dsimp only
      rw [walk_of_folders hlimits hbefore]
      show (tree.enter _ [] >>= fun _ => _) = _
      rw [enter_of_folder hlimits hfolder]
      rfl
  rcases htarget with htarget | ⟨folder, name, slash, htarget, hfolder, hname⟩
  · rw [makeFolder, htarget]
  · rw [makeFolder, htarget]
    dsimp only
    split
    · rfl
    · rw [enter_of_folder hlimits hfolder]
      simp [hname]

theorem WellFormed.put (h : tree.WellFormed) {folder : Location} {name : String} (node : FileNode)
    (hfolder : tree.node? folder = some .folder)
    (hinner : tree.node? (folder ++ [name]) ≠ some .folder) :
    (tree.put (folder ++ [name]) node).WellFormed := by
  have hkeep {place : Location} (hplace : tree.node? place = some .folder) :
      (tree.put (folder ++ [name]) node).node? place = some .folder := by
    rw [node?_put_of_ne tree (fun he => hinner (by rw [← he, hplace])), hplace]
  refine ⟨hkeep h.home, fun place hplace => ?_⟩
  by_cases heq : place = folder ++ [name]
  · rw [heq, List.dropLast_concat]
    exact hkeep hfolder
  · rw [node?_put_of_ne tree heq] at hplace
    exact hkeep (h.closed place hplace)

theorem makeFolder_new (hlimits : tree.limits = none) (hformed : tree.WellFormed) {path : String}
    (hnul : NoNul path) (hclear : tree.IsClear path) (hopen : ¬ tree.IsOpen path)
    {before : List (List Char)} {last : List Char}
    (hsplit : Text.splitChars '/' path.toList = before ++ [last]) (hlast : isIdle last = false)
    (hbefore : ∀ place ∈ before.scanl follow (tree.start path), tree.node? place = some .folder) :
    ∃ after, tree.makeFolder path = .ok after ∧ after.WellFormed ∧ after.IsOpen path ∧
      Grown tree after (· ∈ way tree.home path) := by
  have hlastNe := ne_nil_of_named hlast
  let folder := followAll (tree.start path) before
  have hfolder : tree.node? folder = some .folder := hbefore folder (foldl_mem_scanl _ _)
  have hway (place : Location) : place ∈ way tree.home path ↔
      place ∈ before.scanl follow (tree.start path) ∨ place = follow folder last := by
    rw [way, hsplit]
    exact mem_scanl_concat before last _ place
  have hnew : tree.node? (follow folder last) ≠ some .folder := by
    intro hthere
    refine hopen fun place hplace => ?_
    rcases (hway place).1 hplace with hplace | rfl
    · exact hbefore place hplace
    · exact hthere
  -- a last piece that leads up again would end in a folder that is there
  have hup : last ≠ ['.', '.'] := by
    rintro rfl
    exact hnew (hformed.closed folder (by rw [hfolder]; rfl))
  have hinner : follow folder last = folder ++ [String.ofList last] := by
    simp [follow, hlast, hup]
  have hnone : tree.node? (folder ++ [String.ofList last]) = none := by
    rw [← hinner]
    cases hnode : tree.node? (follow folder last) with
    | none => rfl
    | some node =>
      cases node with
      | file contents => exact absurd hnode (hclear _ ((hway _).2 (.inr rfl)) contents)
      | folder => exact absurd hnode hnew
  have hwalk : tree.walk (tree.start path) (before ++ [[]]) = .ok folder :=
    arrive_of_folders hlimits hbefore
  have hmake : tree.makeFolder path = .ok (tree.put (folder ++ [String.ofList last]) .folder) := by
    simp only [makeFolder, target_of_last hlimits hnul hsplit hlastNe, hwalk, Except.map]
    rw [if_neg (by simp [hlast, hup]), enter_of_folder hlimits hfolder, hinner]
    simp [hnone]
  refine ⟨_, hmake, hformed.put .folder hfolder (by simp [hnone]), fun place hplace => ?_,
    rfl, rfl, fun place => ?_⟩
  · by_cases heq : place = folder ++ [String.ofList last]
    · rw [heq, node?_put_self tree (by simp)]
    · rw [node?_put_of_ne tree heq]
      rcases (hway place).1 hplace with hplace | rfl
      · exact hbefore place hplace
      · exact absurd hinner heq
  · by_cases heq : place = folder ++ [String.ofList last]
    · refine .inr ⟨heq ▸ hnone, (hway place).2 (.inr (heq.trans hinner.symm)), ?_⟩
      rw [heq, node?_put_self tree (by simp)]
    · exact .inl (node?_put_of_ne tree heq .folder)

theorem makeFolder_notFound (hlimits : tree.limits = none) {path : String} (hnul : NoNul path)
    {before : List (List Char)} {last : List Char}
    (hsplit : Text.splitChars '/' path.toList = before ++ [last]) (hlast : last ≠ [])
    (hwalk : tree.walk (tree.start path) (before ++ [[]]) = .error .notFound) :
    tree.makeFolder path = .error .notFound := by
  simp only [makeFolder, target_of_last hlimits hnul hsplit hlast, hwalk, Except.map]

/-! ## Making all folders -/

theorem isOpen_of_moves_nil (hformed : tree.WellFormed) {path : String} (h : moves path = []) :
    tree.IsOpen path := by
  intro place hplace
  rw [mem_way_iff, h, List.scanl_nil, List.mem_singleton] at hplace
  rw [hplace]
  split
  · rfl
  · exact hformed.home

theorem makeFoldersBelow_of_isOpen (hlimits : tree.limits = none) {path : String}
    (hnul : NoNul path) (h : tree.IsOpen path) (fuel : Nat) :
    tree.makeFoldersBelow (fuel + 1) path = (.ok (), tree) := by
  rw [makeFoldersBelow]
  by_cases hne : path.toList = []
  · rw [if_pos (by simp [hne])]
  · rw [if_neg (by simp [hne]), makeFolder_of_isOpen hlimits hnul hne h]
    dsimp only
    rw [if_pos (isFolder_of_isOpen hlimits hnul hne h)]

theorem makeFoldersBelow_spec (hlimits : tree.limits = none) (hformed : tree.WellFormed)
    (fuel : Nat) {path : String} (hfuel : (moves path).length < fuel) (hnul : NoNul path)
    (hclear : tree.IsClear path) (htrim : IsTrim path) :
    ∃ after, tree.makeFoldersBelow fuel path = (.ok (), after) ∧ after.WellFormed ∧
      after.IsOpen path ∧ Grown tree after (· ∈ way tree.home path) := by
  -- each call goes on with the parent, which has one move less
  induction fuel generalizing path with
  | zero => cases hfuel
  | succ fuel ih =>
    by_cases hopen : tree.IsOpen path
    · exact ⟨tree, makeFoldersBelow_of_isOpen hlimits hnul hopen fuel, hformed, hopen, .refl ..⟩
    have hmoves : moves path ≠ [] := fun h => hopen (isOpen_of_moves_nil hformed h)
    obtain ⟨last, hlast, hnamed⟩ := htrim.resolve_left hmoves
    obtain ⟨before, hsplit⟩ := List.getLast?_eq_some_iff.1 hlast
    have hlastNe := ne_nil_of_named hnamed
    have hne := toList_ne_nil_of_split hsplit hlastNe
    rw [makeFoldersBelow, if_neg (by simp [hne])]
    have hbefore (place : Location) (h : place ∈ before.scanl follow (tree.start path)) :
        place ∈ way tree.home path := by
      rw [way, hsplit]
      exact (mem_scanl_concat _ _ _ _).2 (.inl h)
    rcases arrive_cases hlimits before (tree.start path)
      fun place h => hclear place (hbefore place h) with ⟨hfolders, -⟩ | ⟨-, hwalk⟩
    · obtain ⟨after, hmake, hafter⟩ :=
        makeFolder_new hlimits hformed hnul hclear hopen hsplit hnamed hfolders
      rw [hmake]
      exact ⟨after, rfl, hafter⟩
    · obtain ⟨parent, hparent, hmovesPath, hnulParent, htrimParent, hway⟩ :=
        parent?_of_split tree.home hsplit hnamed
      have hfuelParent : (moves parent).length < fuel := by
        rw [hmovesPath, List.length_append, List.length_singleton] at hfuel
        omega
      obtain ⟨between, hmake, hbetween, hbetweenOpen, hgrown⟩ := ih hfuelParent (hnulParent hnul)
        (fun place h => hclear place (hbefore place ((hway place).1 h))) htrimParent
      have hgrown' := hgrown.mono fun place h => hbefore place ((hway place).1 h)
      have hlimits' := hgrown.limits.trans hlimits
      rw [makeFolder_notFound hlimits hnul hsplit hlastNe hwalk]
      simp only [hparent, hmake, ensureFolder]
      -- a last piece that leads up again makes nothing new
      by_cases hopen' : between.IsOpen path
      · rw [makeFolder_of_isOpen hlimits' hnul hne hopen']
        simp only [isFolder_of_isOpen hlimits' hnul hne hopen', if_true]
        exact ⟨between, rfl, hbetween, hopen', hgrown'⟩
      · have hstart : between.start path = tree.start path := by
          rw [start, start, hgrown.home]
        obtain ⟨after, hmakeLast, hafter, hafterOpen, hafterGrown⟩ :=
          makeFolder_new hlimits' hbetween hnul (hgrown.isClear hclear) hopen' hsplit hnamed
            fun place h => hbetweenOpen place (by
              rw [hstart] at h
              rw [hgrown.home, hway]
              exact h)
        rw [hgrown.home] at hafterGrown
        simp only [hmakeLast]
        exact ⟨after, rfl, hafter, hafterOpen, hgrown'.trans hafterGrown⟩

theorem makeFolders_spec (hlimits : tree.limits = none) (hformed : tree.WellFormed) {path : String}
    (hnul : NoNul path) (hclear : tree.IsClear path) (htrim : IsTrim path) :
    ∃ after, tree.makeFolders path = (.ok (), after) ∧ after.WellFormed ∧
      after.IsOpen path ∧ Grown tree after (· ∈ way tree.home path) :=
  makeFoldersBelow_spec hlimits hformed _ (Nat.lt_succ_of_le (length_moves_le path)) hnul hclear
    htrim

/-! ## Writing -/

/-- A file is written in a tree that has grown by the folders it lies in. -/
theorem write_spec (hlimits : tree.limits = none) (hformed : tree.WellFormed) {path : String}
    (hnul : NoNul path) {before : List (List Char)} {last : List Char}
    (hsplit : Text.splitChars '/' path.toList = before ++ [last]) (hlast : isIdle last = false)
    (hup : last ≠ ['.', '.'])
    (hclear : ∀ folder ∈ before.scanl follow (tree.start path), ∀ contents,
      tree.node? folder ≠ some (.file contents))
    (hplace : tree.node? (place tree.home path) ≠ some .folder)
    (hfresh : place tree.home path ∉ before.scanl follow (tree.start path)) (text : String) :
    ∃ between, Disk.write path text tree =
        (.ok (), between.put (place tree.home path) (.file (.text text))) ∧
      Grown tree between (· ∈ before.scanl follow (tree.start path)) ∧ between.WellFormed ∧
      (between.put (place tree.home path) (.file (.text text))).WellFormed := by
  obtain ⟨parent, hparent, -, hnulParent, htrim, hway⟩ := parent?_of_split tree.home hsplit hlast
  obtain ⟨between, hmake, hformed', hopen, hgrown⟩ := makeFolders_spec hlimits hformed
    (hnulParent hnul) (fun folder h => hclear folder ((hway folder).1 h)) htrim
  have hgrown' := hgrown.mono fun folder h => (hway folder).1 h
  have hlimits' := hgrown.limits.trans hlimits
  have hstart : between.start path = tree.start path := by
    rw [start, start, hgrown.home]
  have hfolders : ∀ folder ∈ before.scanl follow (between.start path),
      between.node? folder = some .folder := by
    intro folder h
    refine hopen folder ?_
    rw [hstart] at h
    rw [hgrown.home, hway]
    exact h
  let folder := followAll (tree.start path) before
  have hend : place tree.home path = folder ++ [String.ofList last] := by
    rw [place, hsplit, followAll_append]
    simp [followAll, follow, hlast, hup, folder, start]
  have hfolder : between.node? folder = some .folder :=
    hfolders folder (by rw [hstart]; exact foldl_mem_scanl _ _)
  have hinner : between.node? (folder ++ [String.ofList last]) ≠ some .folder := by
    rw [← hend]
    intro hthere
    rcases hgrown'.node? (place tree.home path) with heq | ⟨-, hmem, -⟩
    · exact hplace (heq ▸ hthere)
    · exact hfresh hmem
  have hlastNe := ne_nil_of_named hlast
  have hwrite : between.write path text =
      .ok (between.put (folder ++ [String.ofList last]) (.file (.text text))) := by
    have hfollow : follow folder last = folder ++ [String.ofList last] := by
      simp [follow, hlast, hup]
    have hwalk := arrive_of_folders hlimits' hfolders
    rw [hstart] at hwalk
    simp only [write, target_of_last hlimits' hnul hsplit hlastNe, hstart, hwalk, Except.map]
    rw [if_neg (by simp [hlast, hup]), enter_of_folder hlimits' hfolder, hfollow]
    dsimp only
    split
    · next hthere => exact absurd hthere hinner
    · rfl
  refine ⟨between, ?_, hgrown', hformed', ?_⟩
  · simp only [Disk.write, Disk.prepare, hparent, hmake, hwrite, hend]
  · rw [hend]
    exact hformed'.put _ hfolder hinner

/-! ## Reading -/

theorem walk_congr {after : FileTree} (hlimits : after.limits = tree.limits)
    (pieces : List (List Char)) (start : Location)
    (h : ∀ place ∈ pieces.scanl follow start, after.node? place = tree.node? place) :
    after.walk start pieces = tree.walk start pieces := by
  induction pieces generalizing start with
  | nil => rfl
  | cons piece rest ih =>
    rw [List.scanl_cons] at h
    obtain ⟨hstart, hrest⟩ := List.forall_mem_cons.1 h
    have henter : after.enter start piece = tree.enter start piece := by
      unfold enter isLongName
      rw [hstart, hlimits]
    rw [walk_cons, walk_cons, henter]
    cases hnext : tree.enter start piece with
    | error fault => rfl
    | ok next =>
      obtain rfl := eq_follow_of_enter hnext
      exact ih _ hrest

theorem read_congr {after : FileTree} (hhome : after.home = tree.home)
    (hlimits : after.limits = tree.limits) {path : String}
    (h : ∀ place ∈ way tree.home path, after.node? place = tree.node? place) :
    after.read path = tree.read path := by
  have hlocate : after.locate path = tree.locate path := by
    have hfault : after.pathFault? path = tree.pathFault? path := by
      unfold pathFault? isLongPath
      rw [hlimits]
    have hstart : after.start path = tree.start path := by
      rw [start, start, hhome]
    rw [locate, locate, hfault, hstart, walk_congr hlimits _ (tree.start path) h]
  simp only [read, hlocate]
  cases hplace : tree.locate path with
  | error fault => rfl
  | ok place =>
    have hend : place ∈ way tree.home path := by
      unfold locate at hplace
      split at hplace
      · cases hplace
      · rw [eq_followAll_of_walk hplace]
        exact foldl_mem_scanl _ _
    simp only [h place hend]

end

end FileTree

end Modforge
