import Mathlib.Data.List.Basic
import Mathlib.Data.List.Induction
import Modforge.Proofs.Place

/-!
# The way of a path

The places that a path leads through, by its text alone. What names nothing can be left out, and
the way to the parent is the way without its last step.
-/

namespace Modforge

/-! ## Pieces -/

namespace Text

theorem splitChars_joinChars (sep : Char) {pieces : List (List Char)} (hne : pieces ≠ [])
    (h : ∀ piece ∈ pieces, sep ∉ piece) : splitChars sep (joinChars [sep] pieces) = pieces := by
  fun_induction joinChars [sep] pieces with
  | case1 => exact absurd rfl hne
  | case2 piece => exact splitChars_of_not_mem (h piece List.mem_cons_self)
  | case3 piece pieces hpieces ih =>
    obtain ⟨hpiece, hrest⟩ := List.forall_mem_cons.1 h
    rw [List.append_assoc, List.singleton_append, splitChars_append,
      splitChars_of_not_mem hpiece, ih hpieces hrest, List.singleton_append]

theorem mem_joinChars {sep : List Char} {pieces : List (List Char)} {c : Char}
    (h : c ∈ joinChars sep pieces) : c ∈ sep ∨ ∃ piece ∈ pieces, c ∈ piece := by
  fun_induction joinChars sep pieces with
  | case1 => cases h
  | case2 piece => exact .inr ⟨piece, List.mem_cons_self, h⟩
  | case3 piece pieces hne ih =>
    simp only [List.mem_append] at h
    rcases h with (h | h) | h
    · exact .inr ⟨piece, List.mem_cons_self, h⟩
    · exact .inl h
    · refine (ih h).imp_right ?_
      rintro ⟨other, hother, hmem⟩
      exact ⟨other, List.mem_cons_of_mem _ hother, hmem⟩

theorem mem_joinChars_of_mem {sep piece : List Char} {pieces : List (List Char)} {c : Char}
    (hpiece : piece ∈ pieces) (hc : c ∈ piece) : c ∈ joinChars sep pieces := by
  fun_induction joinChars sep pieces with
  | case1 => cases hpiece
  | case2 other =>
    obtain rfl := List.mem_singleton.1 hpiece
    exact hc
  | case3 other pieces hne ih =>
    rcases List.mem_cons.1 hpiece with rfl | hpiece
    · simp [hc]
    · simp [ih hpiece]

theorem not_mem_of_mem_splitChars {sep : Char} {text piece : List Char}
    (h : piece ∈ splitChars sep text) : sep ∉ piece := by
  induction text generalizing piece with
  | nil =>
    obtain rfl := List.mem_singleton.1 h
    exact List.not_mem_nil
  | cons c rest ih =>
    rw [splitChars] at h
    split at h
    · rcases List.mem_cons.1 h with rfl | h
      · exact List.not_mem_nil
      · exact ih h
    · next hc =>
      split at h
      · obtain rfl := List.mem_singleton.1 h
        simpa using Ne.symm hc
      · next first more hs =>
        rw [hs] at ih
        rcases List.mem_cons.1 h with rfl | h
        · rw [List.mem_cons, not_or]
          exact ⟨Ne.symm hc, ih List.mem_cons_self⟩
        · exact ih (List.mem_cons_of_mem _ h)

theorem joinChars_append (sep : List Char) {first second : List (List Char)} (hfirst : first ≠ [])
    (hsecond : second ≠ []) :
    joinChars sep (first ++ second) = joinChars sep first ++ sep ++ joinChars sep second := by
  fun_induction joinChars sep first with
  | case1 => exact absurd rfl hfirst
  | case2 piece =>
    obtain ⟨next, more, rfl⟩ := List.exists_cons_of_ne_nil hsecond
    rfl
  | case3 piece pieces hpieces ih =>
    obtain ⟨next, more, rfl⟩ := List.exists_cons_of_ne_nil hpieces
    show piece ++ sep ++ joinChars sep ((next :: more) ++ second) = _
    rw [ih hpieces]
    simp only [List.append_assoc]

end Text

namespace Path

open Text

/-! ## Ways -/

/-- The places that a path leads through, from where it starts to where it ends. -/
def way (home : Location) (path : String) : List Location :=
  (splitChars '/' path.toList).scanl follow (if isAbsolute path then [] else home)

def moves (path : String) : List (List Char) :=
  (splitChars '/' path.toList).filter fun piece => !isIdle piece

theorem mem_scanl_filter (pieces : List (List Char)) (start place : Location) :
    place ∈ (pieces.filter fun piece => !isIdle piece).scanl follow start ↔
      place ∈ pieces.scanl follow start := by
  induction pieces generalizing start with
  | nil => rfl
  | cons piece rest ih =>
    by_cases hidle : isIdle piece
    · have hstay : follow start piece = start := by rw [follow, if_pos hidle]
      rw [List.filter_cons_of_neg (by simp [hidle]), ih, List.scanl_cons, hstay, List.mem_cons,
        or_iff_right_of_imp]
      rintro rfl
      cases rest <;> simp
    · rw [List.filter_cons_of_pos (by simp [hidle]), List.scanl_cons, List.scanl_cons,
        List.mem_cons, List.mem_cons, ih]

theorem mem_way_iff {home place : Location} {path : String} :
    place ∈ way home path ↔
      place ∈ (moves path).scanl follow (if isAbsolute path then [] else home) :=
  (mem_scanl_filter _ _ _).symm

theorem place_eq_moves (home : Location) (path : String) :
    place home path = (moves path).foldl follow (if isAbsolute path then [] else home) := by
  have hgen (pieces : List (List Char)) (start : Location) :
      pieces.foldl follow start = (pieces.filter fun piece => !isIdle piece).foldl follow start := by
    induction pieces generalizing start with
    | nil => rfl
    | cons piece rest ih =>
      by_cases hidle : isIdle piece
      · rw [List.filter_cons_of_neg (by simp [hidle]), List.foldl_cons, follow, if_pos hidle, ih]
      · rw [List.filter_cons_of_pos (by simp [hidle]), List.foldl_cons, List.foldl_cons, ih]
  exact hgen _ _

theorem mem_scanl_append (first second : List (List Char)) (start place : Location) :
    place ∈ (first ++ second).scanl follow start ↔
      place ∈ first.scanl follow start ∨
        place ∈ second.scanl follow (first.foldl follow start) := by
  induction first generalizing start with
  | nil =>
    cases second with
    | nil => simp
    | cons piece rest => simp
  | cons piece rest ih =>
    rw [List.cons_append, List.scanl_cons, List.scanl_cons, List.mem_cons, List.mem_cons, ih,
      or_assoc]
    rfl

theorem foldl_mem_scanl (pieces : List (List Char)) (start : Location) :
    pieces.foldl follow start ∈ pieces.scanl follow start := by
  induction pieces generalizing start with
  | nil => simp
  | cons piece rest ih =>
    rw [List.scanl_cons, List.mem_cons]
    exact .inr (ih _)

theorem mem_scanl_concat (before : List (List Char)) (last : List Char) (start place : Location) :
    place ∈ (before ++ [last]).scanl follow start ↔
      place ∈ before.scanl follow start ∨ place = follow (before.foldl follow start) last := by
  have hend : place = before.foldl follow start → place ∈ before.scanl follow start := by
    rintro rfl
    exact foldl_mem_scanl before start
  rw [mem_scanl_append, List.scanl_cons, List.scanl_nil, List.mem_cons, List.mem_singleton,
    ← or_assoc, or_iff_left_of_imp hend]

/-! ## NUL -/

def NoNul (path : String) : Prop := ∀ c ∈ path.toList, c.toNat ≠ 0

instance (path : String) : Decidable (NoNul path) :=
  List.decidableBAll _ path.toList

theorem NoNul.append {left right : String} (hleft : NoNul left) (hright : NoNul right) :
    NoNul (left ++ right) := by
  intro c hc
  rw [String.toList_append, List.mem_append] at hc
  exact hc.elim (hleft c) (hright c)

theorem noNul_iff_moves {path : String} :
    NoNul path ↔ ∀ piece ∈ moves path, ∀ c ∈ piece, c.toNat ≠ 0 := by
  constructor
  · intro h piece hpiece c hc
    refine h c ?_
    rw [← joinChars_splitChars '/' path.toList]
    exact mem_joinChars_of_mem (List.mem_filter.1 hpiece).1 hc
  · intro h c hc
    rw [← joinChars_splitChars '/' path.toList] at hc
    rcases mem_joinChars hc with hslash | ⟨piece, hpiece, hmem⟩
    · obtain rfl := List.mem_singleton.1 hslash
      decide
    · cases hidle : isIdle piece with
      | false => exact h piece (List.mem_filter.2 ⟨hpiece, by simp [hidle]⟩) c hmem
      | true =>
        rw [isIdle, Bool.or_eq_true, beq_iff_eq, beq_iff_eq] at hidle
        rcases hidle with rfl | rfl
        · cases hmem
        · obtain rfl := List.mem_singleton.1 hmem
          decide

/-! ## Joining -/

theorem splitChars_join (left : String) {right : String} (hright : isAbsolute right = false) :
    ∃ front, splitChars '/' (join left right).toList = front ++ splitChars '/' right.toList ∧
      front.filter (fun piece => !isIdle piece) = moves left := by
  rw [join, if_neg (by simp [hright])]
  by_cases hleft : left.toList = []
  · obtain rfl : left = "" := String.toList_eq_nil_iff.1 hleft
    exact ⟨[], by simp, rfl⟩
  · by_cases hslash : left.toList.getLast? = some '/'
    · obtain ⟨before, hbefore⟩ := List.getLast?_eq_some_iff.1 hslash
      refine ⟨splitChars '/' before, ?_, ?_⟩
      · rw [if_pos (by simp [hslash]), String.toList_append, hbefore, List.append_assoc,
          List.singleton_append, splitChars_append]
      · rw [moves, hbefore, splitChars_append, List.filter_append]
        simp [splitChars, isIdle]
    · refine ⟨splitChars '/' left.toList, ?_, rfl⟩
      rw [if_neg (by simp [hleft, hslash]), String.toList_append, String.toList_append,
        List.append_assoc]
      exact splitChars_append '/' left.toList right.toList

theorem moves_join (left : String) {right : String} (hright : isAbsolute right = false) :
    moves (join left right) = moves left ++ moves right := by
  obtain ⟨front, hsplit, hfront⟩ := splitChars_join left hright
  rw [moves, hsplit, List.filter_append, hfront]
  rfl

theorem getLast?_join (left : String) {right : String} (hright : isAbsolute right = false) :
    (splitChars '/' (join left right).toList).getLast? =
      (splitChars '/' right.toList).getLast? := by
  obtain ⟨front, hsplit, -⟩ := splitChars_join left hright
  rw [hsplit, List.getLast?_append_of_ne_nil _ (splitChars_ne_nil '/' _)]

/-! ## Parents -/

def EndsNamed (pieces : List (List Char)) : Prop :=
  ∃ last, pieces.getLast? = some last ∧ isIdle last = false

theorem endsNamed_cons_iff (piece : List Char) {pieces : List (List Char)} (h : pieces ≠ []) :
    EndsNamed (piece :: pieces) ↔ EndsNamed pieces := by
  obtain ⟨first, more, rfl⟩ := List.exists_cons_of_ne_nil h
  rw [EndsNamed, EndsNamed, List.getLast?_cons_cons]

theorem not_endsNamed_nil : ¬ EndsNamed [] := by
  rintro ⟨last, h, -⟩
  cases h

theorem trimPieces_append (before : List (List Char)) (last : List Char) :
    trimPieces (before ++ [last]) = if isIdle last then trimPieces before else before ++ [last] := by
  rw [trimPieces, List.reverse_append, List.reverse_singleton, List.singleton_append,
    List.dropWhile_cons]
  split
  · rfl
  · simp

theorem trimPieces_spec (pieces : List (List Char)) :
    (∃ idles, pieces = trimPieces pieces ++ idles ∧ ∀ piece ∈ idles, isIdle piece = true) ∧
      (trimPieces pieces = [] ∨ EndsNamed (trimPieces pieces)) := by
  induction pieces using List.reverseRecOn with
  | nil => exact ⟨⟨[], rfl, by simp⟩, .inl rfl⟩
  | append_singleton before last ih =>
    rw [trimPieces_append]
    split
    · next hidle =>
      obtain ⟨⟨idles, hbefore, hidles⟩, hend⟩ := ih
      refine ⟨⟨idles ++ [last], by rw [← List.append_assoc, ← hbefore], ?_⟩, hend⟩
      simpa [or_imp, forall_and] using ⟨hidles, hidle⟩
    · next hidle => exact ⟨⟨[], by simp, by simp⟩, .inr ⟨last, by simp, by simpa using hidle⟩⟩

theorem trimPieces_initial (pieces : List (List Char)) : trimPieces pieces <+: pieces := by
  obtain ⟨⟨idles, hpieces, -⟩, -⟩ := trimPieces_spec pieces
  exact ⟨idles, hpieces.symm⟩

theorem filter_trimPieces (pieces : List (List Char)) :
    (trimPieces pieces).filter (fun piece => !isIdle piece) =
      pieces.filter fun piece => !isIdle piece := by
  obtain ⟨⟨idles, hpieces, hidles⟩, -⟩ := trimPieces_spec pieces
  have hnone : idles.filter (fun piece => !isIdle piece) = [] := by
    simpa [List.filter_eq_nil_iff] using hidles
  have hfilter := congrArg (List.filter fun piece => !isIdle piece) hpieces
  rw [List.filter_append, hnone, List.append_nil] at hfilter
  exact hfilter.symm

theorem joinChars_initial (sep : List Char) {first pieces : List (List Char)}
    (h : first <+: pieces) : joinChars sep first <+: joinChars sep pieces := by
  obtain ⟨second, rfl⟩ := h
  by_cases hfirst : first = []
  · rw [hfirst]
    exact List.nil_prefix
  · by_cases hsecond : second = []
    · simp [hsecond]
    · rw [joinChars_append sep hfirst hsecond, List.append_assoc]
      exact List.prefix_append _ _

theorem lead_cases (text : List Char) :
    (∃ rest, text = '/' :: rest ∧ lead text = (['/'], splitChars '/' rest)) ∨
      (text = ['.'] ∧ lead text = (['.'], [])) ∨
      (∃ rest, text = '.' :: '/' :: rest ∧ lead text = (['.'], [] :: splitChars '/' rest)) ∨
      (text.head? ≠ some '/' ∧ lead text = ([], splitChars '/' text)) := by
  unfold lead
  split
  · next rest => exact .inl ⟨rest, rfl, rfl⟩
  · exact .inr (.inl ⟨rfl, rfl⟩)
  · next rest => exact .inr (.inr (.inl ⟨rest, rfl, rfl⟩))
  · next hslash _ _ =>
    refine .inr (.inr (.inr ⟨fun hhead => ?_, rfl⟩))
    obtain ⟨rest, hrest⟩ := List.head?_eq_some_iff.1 hhead
    exact hslash rest hrest

theorem lead_append (text : List Char) :
    (lead text).1 ++ joinChars ['/'] (lead text).2 = text := by
  rcases lead_cases text with ⟨rest, rfl, hlead⟩ | ⟨rfl, hlead⟩ | ⟨rest, rfl, hlead⟩ | ⟨-, hlead⟩ <;>
    rw [hlead]
  · rw [joinChars_splitChars]
    rfl
  · rfl
  · have hslash := joinChars_append ['/'] (List.cons_ne_nil [] []) (splitChars_ne_nil '/' rest)
    rw [joinChars_splitChars] at hslash
    exact congrArg (List.cons '.') hslash
  · rw [joinChars_splitChars]
    rfl

theorem splitChars_joinChars_named {pieces : List (List Char)} (h : ∀ piece ∈ pieces, '/' ∉ piece) :
    let again := splitChars '/' (joinChars ['/'] pieces)
    again.filter (fun piece => !isIdle piece) = pieces.filter (fun piece => !isIdle piece) ∧
      (EndsNamed pieces → EndsNamed again) := by
  intro again
  by_cases hne : pieces = []
  · subst hne
    exact ⟨rfl, fun hend => absurd hend not_endsNamed_nil⟩
  · have hagain : again = pieces := splitChars_joinChars '/' hne h
    rw [hagain]
    exact ⟨rfl, id⟩

theorem lead_keep (text : List Char) {kept : List (List Char)} (hkept : kept <+: (lead text).2) :
    let left := (lead text).1 ++ joinChars ['/'] kept
    (splitChars '/' left).filter (fun piece => !isIdle piece) =
        kept.filter (fun piece => !isIdle piece) ∧
      (EndsNamed kept → EndsNamed (splitChars '/' left)) ∧
      (left.head? = some '/' ↔ text.head? = some '/') := by
  have hcut {rest : List Char} {pieces : List (List Char)} (h : pieces <+: splitChars '/' rest) :=
    splitChars_joinChars_named fun piece hpiece => not_mem_of_mem_splitChars (h.subset hpiece)
  -- a path from the root, a lone dot, a path from a dot, and any other
  rcases lead_cases text with ⟨rest, rfl, hlead⟩ | ⟨rfl, hlead⟩ | ⟨rest, rfl, hlead⟩ | ⟨hhead, hlead⟩
  · rw [hlead] at hkept ⊢
    obtain ⟨hfilter, hend⟩ := hcut hkept
    simp only [List.singleton_append, splitChars, if_true, List.head?_cons, and_true]
    exact ⟨hfilter, fun h => (endsNamed_cons_iff [] (splitChars_ne_nil _ _)).2 (hend h)⟩
  · rw [hlead] at hkept ⊢
    obtain rfl := List.prefix_nil.1 hkept
    exact ⟨rfl, fun h => absurd h not_endsNamed_nil, by simp [joinChars]⟩
  · rw [hlead] at hkept ⊢
    cases kept with
    | nil => exact ⟨rfl, fun h => absurd h not_endsNamed_nil, by simp [joinChars]⟩
    | cons first more =>
      obtain ⟨rfl, hmore⟩ := List.cons_prefix_cons.1 hkept
      by_cases hne : more = []
      · subst hne
        refine ⟨rfl, ?_, by simp [joinChars]⟩
        rintro ⟨last, hlast, hnamed⟩
        cases hlast
        cases hnamed
      · obtain ⟨hfilter, hend⟩ := hcut hmore
        have hleft : joinChars ['/'] ([] :: more) = '/' :: joinChars ['/'] more :=
          joinChars_append ['/'] (List.cons_ne_nil [] []) hne
        have hsplit : splitChars '/' (['.'] ++ '/' :: joinChars ['/'] more) =
            ['.'] :: splitChars '/' (joinChars ['/'] more) := splitChars_append '/' ['.'] _
        rw [hleft]
        dsimp only
        rw [hsplit]
        refine ⟨hfilter, fun h => ?_, by simp⟩
        exact (endsNamed_cons_iff _ (splitChars_ne_nil _ _)).2
          (hend ((endsNamed_cons_iff [] hne).1 h))
  · rw [hlead] at hkept ⊢
    obtain ⟨hfilter, hend⟩ := hcut hkept
    refine ⟨hfilter, hend, iff_of_false (fun h => hhead ?_) hhead⟩
    have hinitial : joinChars ['/'] kept <+: text := by
      have := joinChars_initial ['/'] hkept
      rwa [joinChars_splitChars] at this
    obtain ⟨rest, rfl⟩ := hinitial
    rw [List.nil_append] at h
    rw [List.head?_append, h]
    rfl

theorem moves_eq_lead (path : String) :
    moves path = (lead path.toList).2.filter fun piece => !isIdle piece := by
  have h := (lead_keep path.toList List.prefix_rfl).1
  rwa [lead_append] at h

/-- A path that ends where it moves, or that does not move. -/
def IsTrim (path : String) : Prop := moves path = [] ∨ EndsNamed (splitChars '/' path.toList)

theorem parent?_of_moves {path : String} {before : List (List Char)} {last : List Char}
    (h : moves path = before ++ [last]) :
    ∃ parent, parent? path = some parent ∧ moves parent = before ∧
      isAbsolute parent = isAbsolute path ∧ parent.toList <+: path.toList ∧ IsTrim parent := by
  have hmoves : moves path = (trimPieces (lead path.toList).2).filter fun piece => !isIdle piece := by
    rw [moves_eq_lead, filter_trimPieces]
  rcases (trimPieces_spec (lead path.toList).2).2 with hnil | ⟨name, hname, hnamed⟩
  · rw [hnil, h] at hmoves
    simp at hmoves
  · obtain ⟨front, hfront⟩ := List.getLast?_eq_some_iff.1 hname
    rw [hfront, List.filter_append, List.filter_cons_of_pos (by simpa using hnamed), List.filter_nil,
      h] at hmoves
    obtain ⟨rfl, -⟩ := List.append_inj' hmoves rfl
    have hkept : trimPieces front <+: (lead path.toList).2 :=
      (trimPieces_initial front).trans
        ((List.prefix_append front [name]).trans (hfront ▸ trimPieces_initial _))
    obtain ⟨hfilter, hends, hhead⟩ := lead_keep path.toList hkept
    have hinitial := (List.prefix_append_right_inj (lead path.toList).1).2
      (joinChars_initial ['/'] hkept)
    rw [lead_append] at hinitial
    have hparent : moves (String.ofList
        ((lead path.toList).1 ++ joinChars ['/'] (trimPieces front))) =
        front.filter fun piece => !isIdle piece := by
      rw [moves, String.toList_ofList, hfilter, filter_trimPieces]
    refine ⟨String.ofList ((lead path.toList).1 ++ joinChars ['/'] (trimPieces front)), ?_, hparent,
      ?_, ?_, ?_⟩
    · have hreverse : (trimPieces (lead path.toList).2).reverse = name :: front.reverse := by
        simp [hfront]
      simp only [parent?, hreverse, List.reverse_reverse]
    · rw [isAbsolute, isAbsolute, String.toList_ofList, Bool.eq_iff_iff, beq_iff_eq, beq_iff_eq, hhead]
    · rwa [String.toList_ofList]
    · rcases (trimPieces_spec front).2 with hnone | hend
      · refine .inl ?_
        rw [hparent, ← filter_trimPieces, hnone, List.filter_nil]
      · refine .inr ?_
        rw [String.toList_ofList]
        exact hends hend

theorem ne_nil_of_named {piece : List Char} (h : isIdle piece = false) : piece ≠ [] := by
  rintro rfl
  cases h

theorem toList_ne_nil_of_split {path : String} {before : List (List Char)} {last : List Char}
    (hsplit : splitChars '/' path.toList = before ++ [last]) (hlast : last ≠ []) :
    path.toList ≠ [] := by
  intro hnil
  rw [hnil] at hsplit
  obtain ⟨-, heq⟩ := List.append_inj' (show [] ++ [[]] = before ++ [last] from hsplit) rfl
  exact hlast (List.singleton_inj.1 heq).symm

theorem parent?_of_split (home : Location) {path : String} {before : List (List Char)}
    {last : List Char} (hsplit : splitChars '/' path.toList = before ++ [last])
    (hlast : isIdle last = false) :
    ∃ parent, parent? path = some parent ∧ moves path = moves parent ++ [last] ∧
      (NoNul path → NoNul parent) ∧ IsTrim parent ∧
      ∀ folder, folder ∈ way home parent ↔
        folder ∈ before.scanl follow (if isAbsolute path then [] else home) := by
  have hmoves : moves path = before.filter (fun piece => !isIdle piece) ++ [last] := by
    rw [moves, hsplit, List.filter_append, List.filter_cons_of_pos (by simp [hlast]),
      List.filter_nil]
  obtain ⟨parent, hparent, hmovesParent, habsolute, hinitial, htrim⟩ := parent?_of_moves hmoves
  refine ⟨parent, hparent, by rw [hmoves, hmovesParent], fun hnul c hc => hnul c (hinitial.subset hc),
    htrim, fun folder => ?_⟩
  rw [mem_way_iff, hmovesParent, mem_scanl_filter, habsolute]

theorem length_moves_le (path : String) : (moves path).length ≤ path.toList.length := by
  have hgen (text : List Char) :
      ((splitChars '/' text).filter fun piece => !isIdle piece).length ≤ text.length := by
    induction text with
    | nil => simp [splitChars, isIdle]
    | cons c rest ih =>
      rw [splitChars]
      split
      · exact Nat.le_succ_of_le ih
      · cases hs : splitChars '/' rest with
        | nil => exact absurd hs (splitChars_ne_nil '/' rest)
        | cons first more =>
          rw [hs, List.filter_cons] at ih
          have hmore : (more.filter fun piece => !isIdle piece).length ≤ rest.length := by
            split at ih
            · exact Nat.le_of_succ_le ih
            · exact ih
          rw [List.filter_cons, List.length_cons]
          split
          · exact Nat.succ_le_succ hmore
          · exact Nat.le_succ_of_le hmore
  exact hgen path.toList

/-! ## Plain names -/

theorem moves_of_plain {path : String} (h : ∀ name ∈ split '/' path, IsPlain name) :
    moves path = (split '/' path).map String.toList ∧ isAbsolute path = false := by
  have hlist : (split '/' path).map String.toList = splitChars '/' path.toList := by
    simp [split, Function.comp_def]
  have hnamed : ∀ piece ∈ splitChars '/' path.toList, isIdle piece = false := by
    intro piece hpiece
    have hplain := (h _ (List.mem_map_of_mem hpiece)).2.1
    rwa [String.toList_ofList] at hplain
  constructor
  · rw [hlist, moves, List.filter_eq_self]
    simpa using hnamed
  · cases hchars : path.toList with
    | nil => simp [isAbsolute, hchars]
    | cons c rest =>
      have hc : c ≠ '/' := by
        rintro rfl
        cases hnamed [] (by simp [hchars, splitChars])
      simp [isAbsolute, hchars, hc]

theorem moves_joinAll {names : List String} (h : ∀ name ∈ names, IsPlain name) :
    moves (joinAll names) = names.map String.toList := by
  have hgen (start : String) : moves (names.foldl join start) =
      moves start ++ names.map String.toList := by
    induction names generalizing start with
    | nil => simp
    | cons name rest ih =>
      obtain ⟨hname, hrest⟩ := List.forall_mem_cons.1 h
      have hone : moves name = [name.toList] := by
        rw [moves, splitChars_of_not_mem hname.1, List.filter_cons_of_pos (by simp [hname.2.1]),
          List.filter_nil]
      rw [List.foldl_cons, ih hrest, moves_join start hname.isAbsolute_eq_false, hone,
        List.append_assoc, List.map_cons, List.singleton_append]
  exact hgen ""

theorem follow_of_plain {name : String} (h : IsPlain name) (folder : Location) :
    follow folder name.toList = folder ++ [name] := by
  simp [follow, h.2.1, h.2.2]

theorem foldl_plain {names : List String} (h : ∀ name ∈ names, IsPlain name) (start : Location) :
    (names.map String.toList).foldl follow start = start ++ names := by
  induction names generalizing start with
  | nil => simp
  | cons name rest ih =>
    obtain ⟨hname, hrest⟩ := List.forall_mem_cons.1 h
    rw [List.map_cons, List.foldl_cons, follow_of_plain hname, ih hrest, List.append_assoc,
      List.singleton_append]

theorem mem_scanl_plain {names : List String} (h : ∀ name ∈ names, IsPlain name)
    (start place : Location) :
    place ∈ (names.map String.toList).scanl follow start ↔
      ∃ first, first <+: names ∧ place = start ++ first := by
  induction names generalizing start with
  | nil => simp
  | cons name rest ih =>
    obtain ⟨hname, hrest⟩ := List.forall_mem_cons.1 h
    rw [List.map_cons, List.scanl_cons, List.mem_cons, ih hrest, follow_of_plain hname]
    constructor
    · rintro (rfl | ⟨first, hfirst, rfl⟩)
      · exact ⟨[], List.nil_prefix, by simp⟩
      · exact ⟨name :: first, List.cons_prefix_cons.2 ⟨rfl, hfirst⟩, by simp⟩
    · rintro ⟨first, hfirst, rfl⟩
      cases first with
      | nil => exact .inl (by simp)
      | cons other more =>
        obtain ⟨rfl, hmore⟩ := List.cons_prefix_cons.1 hfirst
        exact .inr ⟨more, hmore, by simp⟩

end Path

end Modforge
