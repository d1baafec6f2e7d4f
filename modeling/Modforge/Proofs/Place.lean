import Modforge.Files.Tree

/-! # Where a path leads -/

namespace Modforge

/-! ## Pieces of a text -/

namespace Text

theorem splitChars_append (sep : Char) (before after : List Char) :
    splitChars sep (before ++ sep :: after) =
      splitChars sep before ++ splitChars sep after := by
  induction before with
  | nil => simp [splitChars]
  | cons c rest ih =>
    rw [List.cons_append, splitChars, ih, splitChars]
    have hne := splitChars_ne_nil sep rest
    cases hs : splitChars sep rest with
    | nil => exact absurd hs hne
    | cons piece pieces => split <;> rfl

theorem splitChars_of_not_mem {sep : Char} {text : List Char} (h : sep ∉ text) :
    splitChars sep text = [text] := by
  induction text with
  | nil => rfl
  | cons c rest ih =>
    rw [List.mem_cons, not_or] at h
    rw [splitChars, if_neg (Ne.symm h.1), ih h.2]

theorem splitChars_append_of_not_mem {sep : Char} (text : List Char) {ending : List Char}
    (h : sep ∉ ending) :
    ∃ before last, splitChars sep text = before ++ [last] ∧
      splitChars sep (text ++ ending) = before ++ [last ++ ending] := by
  induction text with
  | nil => exact ⟨[], [], rfl, splitChars_of_not_mem h⟩
  | cons c rest ih =>
    obtain ⟨before, last, hrest, hmore⟩ := ih
    rw [List.cons_append, splitChars, splitChars, hrest, hmore]
    split
    · exact ⟨[] :: before, last, rfl, rfl⟩
    · cases before with
      | nil => exact ⟨[], c :: last, rfl, rfl⟩
      | cons piece more => exact ⟨(c :: piece) :: more, last, rfl, rfl⟩

end Text

namespace Path

open Text

/-! ## Following a path -/

def follow (place : Location) (piece : List Char) : Location :=
  if isIdle piece then place
  else if piece == ['.', '.'] then place.dropLast
  else place ++ [String.ofList piece]

def followAll (place : Location) (pieces : List (List Char)) : Location :=
  pieces.foldl follow place

def place (home : Location) (path : String) : Location :=
  followAll (if isAbsolute path then [] else home) (Text.splitChars '/' path.toList)

def Inside (folder place : Location) : Prop := ∃ more, more ≠ [] ∧ place = folder ++ more

instance (folder place : Location) : Decidable (Inside folder place) :=
  decidable_of_iff (folder <+: place ∧ folder ≠ place) <| by
    constructor
    · rintro ⟨⟨more, rfl⟩, hne⟩
      exact ⟨more, fun h => hne (by simp [h]), rfl⟩
    · rintro ⟨more, hmore, rfl⟩
      exact ⟨List.prefix_append _ _, fun h => hmore (List.self_eq_append_right.1 h)⟩

/-! ## Joining -/

theorem followAll_append (place : Location) (first second : List (List Char)) :
    followAll place (first ++ second) = followAll (followAll place first) second :=
  List.foldl_append

theorem followAll_of_empty (place : Location) {pieces : List (List Char)}
    (h : ∀ piece ∈ pieces, piece = []) : followAll place pieces = place := by
  induction pieces with
  | nil => rfl
  | cons piece rest ih =>
    obtain ⟨rfl, hrest⟩ := List.forall_mem_cons.1 h
    exact ih hrest

theorem isAbsolute_append {left : String} (hleft : left.toList ≠ []) (right : String) :
    isAbsolute (left ++ right) = isAbsolute left := by
  unfold isAbsolute
  rw [String.toList_append]
  obtain ⟨c, rest, hchars⟩ := List.exists_cons_of_ne_nil hleft
  rw [hchars, List.cons_append, List.head?_cons, List.head?_cons]

/-- A relative path is followed from where the path before it leads. -/
theorem place_join (home : Location) (left : String) {right : String}
    (hright : isAbsolute right = false) :
    place home (join left right) = place (place home left) right := by
  have hfrom (from' : Location) :
      place from' right = followAll from' (Text.splitChars '/' right.toList) := by
    simp [place, hright]
  rw [hfrom, join, if_neg (by simp [hright])]
  by_cases hleft : left.toList = []
  · -- nothing stands before the right side
    obtain rfl : left = "" := String.toList_eq_nil_iff.1 hleft
    rw [if_pos (by simp), String.empty_append, hfrom]
    rfl
  · by_cases hslash : left.toList.getLast? = some '/'
    · -- the slash at the end of the left side ends its last, empty piece
      rw [if_pos (by simp [hslash])]
      obtain ⟨before, hbefore⟩ := List.getLast?_eq_some_iff.1 hslash
      rw [place, isAbsolute_append hleft, place, String.toList_append, hbefore,
        List.append_assoc, List.singleton_append, splitChars_append, splitChars_append,
        followAll_append, followAll_append]
      rfl
    · rw [if_neg (by simp [hleft, hslash]), place, isAbsolute_append (by simp [hleft]),
        isAbsolute_append hleft, place, String.toList_append, String.toList_append,
        List.append_assoc]
      show followAll _ (Text.splitChars '/' (left.toList ++ '/' :: right.toList)) = _
      rw [splitChars_append, followAll_append]

theorem place_of_absolute (home : Location) {path : String} (h : isAbsolute path = true) :
    place home path = followAll [] (Text.splitChars '/' path.toList) := by
  simp [place, h]

/-! ## Plain names -/

/-- A name that leads one folder down. -/
def IsPlain (name : String) : Prop :=
  '/' ∉ name.toList ∧ isIdle name.toList = false ∧ name.toList ≠ ['.', '.']

namespace IsPlain

variable {name : String}

theorem isAbsolute_eq_false (h : IsPlain name) : isAbsolute name = false := by
  unfold isAbsolute
  cases hs : name.toList with
  | nil => rfl
  | cons c rest =>
    have hc : c ≠ '/' := by
      rintro rfl
      exact h.1 (hs ▸ List.mem_cons_self)
    simp [hc]

theorem place_eq (h : IsPlain name) (home : Location) : place home name = home ++ [name] := by
  rw [place, h.isAbsolute_eq_false, splitChars_of_not_mem h.1]
  simp [followAll, follow, h.2.1, h.2.2]

theorem of_no_dot (hne : name.toList ≠ []) (hslash : '/' ∉ name.toList)
    (hdot : '.' ∉ name.toList) : IsPlain name := by
  have hone : name.toList ≠ ['.'] := fun he => hdot (by simp [he])
  exact ⟨hslash, by simp [isIdle, hne, hone], fun he => hdot (by simp [he])⟩

theorem append (h : IsPlain name) {ending : String} (hslash : '/' ∉ ending.toList) :
    IsPlain (name ++ ending) := by
  obtain ⟨hname, hidle, hup⟩ := h
  refine ⟨by simp [hname, hslash], ?_, ?_⟩
  · cases hchars : name.toList with
    | nil => simp [isIdle, hchars] at hidle
    | cons c rest => simp_all [isIdle]
  · intro heq
    rw [String.toList_append] at heq
    cases hchars : name.toList with
    | nil => simp [isIdle, hchars] at hidle
    | cons c rest => cases rest <;> simp_all [isIdle]

end IsPlain

theorem isAbsolute_join_eq (left : String) {right : String} (hright : isAbsolute right = false) :
    isAbsolute (join left right) = isAbsolute left := by
  rw [join, if_neg (by simp [hright])]
  by_cases hnil : left.toList = []
  · obtain rfl : left = "" := String.toList_eq_nil_iff.1 hnil
    rw [if_pos (by simp), String.empty_append, hright]
    rfl
  · split
    · rw [isAbsolute_append hnil]
    · rw [isAbsolute_append (by simp [hnil]), isAbsolute_append hnil]

theorem isAbsolute_join {left right : String} (hleft : isAbsolute left = false)
    (hright : isAbsolute right = false) : isAbsolute (join left right) = false :=
  (isAbsolute_join_eq left hright).trans hleft

theorem place_joinAll {names : List String} (h : ∀ name ∈ names, IsPlain name) :
    isAbsolute (joinAll names) = false ∧
      ∀ home, place home (joinAll names) = home ++ names := by
  have hfrom : ∀ start, isAbsolute start = false →
      isAbsolute (names.foldl join start) = false ∧
        ∀ home, place home (names.foldl join start) = place home start ++ names := by
    induction names with
    | nil => exact fun start hstart => ⟨hstart, fun home => (List.append_nil _).symm⟩
    | cons name rest ih =>
      intro start hstart
      obtain ⟨hname, hrest⟩ := List.forall_mem_cons.1 h
      obtain ⟨habs, hplace⟩ := ih hrest (join start name)
        (isAbsolute_join hstart hname.isAbsolute_eq_false)
      refine ⟨habs, fun home => ?_⟩
      rw [List.foldl_cons, hplace, place_join home start hname.isAbsolute_eq_false, hname.place_eq,
        List.append_assoc, List.singleton_append]
  exact hfrom "" rfl

/-! ## Up and down -/

/-- How far a path goes up, and where it leads down from there. -/
structure Climb where
  ups : Nat
  names : Location
  deriving DecidableEq, Repr

/-- Going up first leaves what was gone down before. -/
def Climb.step (climb : Climb) (piece : List Char) : Climb :=
  if isIdle piece then climb
  else if piece == ['.', '.'] then
    if climb.names = [] then { climb with ups := climb.ups + 1 }
    else { climb with names := climb.names.dropLast }
  else { climb with names := climb.names ++ [String.ofList piece] }

def climb (path : String) : Climb := (Text.splitChars '/' path.toList).foldl Climb.step ⟨0, []⟩

def Climb.from (climb : Climb) (folder : Location) : Location :=
  folder.take (folder.length - climb.ups) ++ climb.names

theorem Climb.from_step (climb : Climb) (folder : Location) (piece : List Char) :
    (climb.step piece).from folder = follow (climb.from folder) piece := by
  unfold Climb.step follow
  by_cases hidle : isIdle piece
  · rw [if_pos hidle, if_pos hidle]
  rw [if_neg hidle, if_neg hidle]
  by_cases hup : piece == ['.', '.']
  · rw [if_pos hup, if_pos hup]
    by_cases hnames : climb.names = []
    · rw [if_pos hnames]
      simp only [Climb.from, hnames, List.append_nil]
      rw [List.dropLast_eq_take, List.take_take, List.length_take]
      congr 1
      omega
    · rw [if_neg hnames]
      simp only [Climb.from]
      rw [List.dropLast_append_of_ne_nil hnames]
  · rw [if_neg hup, if_neg hup]
    simp only [Climb.from, List.append_assoc]

theorem followAll_eq_from (folder : Location) (path : String) :
    followAll folder (Text.splitChars '/' path.toList) = (climb path).from folder := by
  have hgen (pieces : List (List Char)) (start : Climb) :
      followAll (start.from folder) pieces = (pieces.foldl Climb.step start).from folder := by
    induction pieces generalizing start with
    | nil => rfl
    | cons piece rest ih =>
      rw [List.foldl_cons, ← ih, Climb.from_step]
      rfl
  have hstart : Climb.from ⟨0, []⟩ folder = folder := by
    simp [Climb.from]
  rw [climb, ← hgen, hstart]

/-- A climb ends inside the folder again if it goes down through the names it went up from, and
then on. -/
theorem inside_from_iff (climb : Climb) (folder : Location) :
    Inside folder (climb.from folder) ↔
      Inside (folder.drop (folder.length - climb.ups)) climb.names := by
  unfold Inside Climb.from
  refine exists_congr fun more => and_congr_right fun _ => ?_
  have hfolder : folder ++ more =
      folder.take (folder.length - climb.ups) ++
        (folder.drop (folder.length - climb.ups) ++ more) := by
    rw [← List.append_assoc, List.take_append_drop]
  rw [hfolder, List.append_cancel_left_eq]

theorem getElem?_names_of_inside {climb : Climb} {folder : Location}
    (h : Inside folder (climb.from folder)) (hups : 0 < climb.ups)
    (hdepth : climb.ups ≤ folder.length) :
    climb.names[climb.ups - 1]? = folder.getLast? := by
  obtain ⟨more, _, hnames⟩ := (inside_from_iff climb folder).1 h
  have hlast : folder.length - climb.ups + (climb.ups - 1) = folder.length - 1 := by omega
  have hlength : climb.ups - 1 < (folder.drop (folder.length - climb.ups)).length := by
    rw [List.length_drop]
    omega
  rw [hnames, List.getElem?_append_left hlength, List.getElem?_drop, hlast,
    ← List.getLast?_eq_getElem?]

end Path

/-! ## Files -/

namespace FileTree

theorem eq_follow_of_enter {tree : FileTree} {place next : Location} {piece : List Char}
    (h : tree.enter place piece = .ok next) : next = Path.follow place piece := by
  unfold enter at h
  unfold Path.follow
  split at h
  · cases h
  · cases h
  · split at h
    · next hidle =>
      cases h
      rw [if_pos hidle]
    · next hidle =>
      rw [if_neg hidle]
      split at h
      · next hup =>
        cases h
        rw [if_pos hup]
      · next hup =>
        rw [if_neg hup]
        split at h
        · cases h
        · cases h
          rfl

theorem eq_followAll_of_walk {tree : FileTree} {place last : Location}
    {pieces : List (List Char)} (h : tree.walk place pieces = .ok last) :
    last = Path.followAll place pieces := by
  induction pieces generalizing place with
  | nil =>
    cases h
    rfl
  | cons piece rest ih =>
    rw [walk, List.foldlM_cons] at h
    cases henter : tree.enter place piece with
    | error fault =>
      rw [henter] at h
      cases h
    | ok next =>
      rw [henter] at h
      rw [ih h, eq_follow_of_enter henter]
      rfl

theorem split_of_target {tree : FileTree} {path : String} {folder : Location} {name : List Char}
    {slash : Bool} (h : tree.target path = .ok (some (folder, name, slash))) :
    ∃ before empties, Text.splitChars '/' path.toList = before ++ [name] ++ empties ∧
      (∀ piece ∈ empties, piece = []) ∧ (slash = false → empties = []) ∧
      tree.pathFault? path = none ∧ tree.walk (tree.start path) before = .ok folder := by
  unfold target at h
  split at h
  · cases h
  next hfault =>
  dsimp only at h
  split at h
  · cases h
  next last before hpieces =>
  cases hwalk : tree.walk (tree.start path) before.reverse with
  | error fault =>
    rw [hwalk] at h
    cases h
  | ok place =>
    rw [hwalk] at h
    cases henter : tree.enter place [] with
    | error fault =>
      simp only [bind, Except.bind, henter] at h
      cases h
    | ok _ =>
      simp only [bind, Except.bind, henter, pure, Except.pure, Except.ok.injEq,
        Option.some.injEq, Prod.mk.injEq] at h
      obtain ⟨rfl, rfl, hslash⟩ := h
      let empties := (Text.splitChars '/' path.toList).reverse.takeWhile (·.isEmpty)
      have hreverse : (Text.splitChars '/' path.toList).reverse = empties ++ last :: before := by
        rw [← hpieces, List.takeWhile_append_dropWhile]
      have hempty : ∀ piece ∈ empties, piece = [] := fun piece hpiece =>
        List.isEmpty_iff.1 (List.all_eq_true.1 List.all_takeWhile piece hpiece)
      refine ⟨before.reverse, empties.reverse, ?_, fun piece hpiece =>
        hempty piece (List.mem_reverse.1 hpiece), fun hnone => ?_, hfault, hwalk⟩
      · rw [← List.reverse_reverse (Text.splitChars '/' path.toList), hreverse]
        simp
      · cases hempties : empties with
        | nil => rfl
        | cons piece rest =>
          rw [hempties] at hreverse hempty
          rw [hreverse, hempty piece List.mem_cons_self, hnone] at hslash
          simp at hslash

theorem place_of_target {tree : FileTree} {path : String} {place : Location} {name : List Char}
    {slash : Bool} (h : tree.target path = .ok (some (place, name, slash))) :
    Path.place tree.home path = Path.follow place name := by
  obtain ⟨before, empties, hsplit, hempty, -, -, hwalk⟩ := split_of_target h
  rw [Path.place, hsplit, Path.followAll_append, Path.followAll_append,
    Path.followAll_of_empty _ hempty, eq_followAll_of_walk hwalk]
  rfl

theorem eq_put_of_write {tree after : FileTree} {path text : String}
    (h : tree.write path text = .ok after) :
    after = tree.put (Path.place tree.home path) (.file (.text text)) := by
  unfold write at h
  split at h
  · cases h
  · cases h
  · next place name slash htarget =>
    split at h
    · cases h
    · split at h
      · cases h
      · next inner henter =>
        split at h
        · cases h
        · cases h
          congr 1
          rw [eq_follow_of_enter henter, place_of_target htarget]

end FileTree

end Modforge
