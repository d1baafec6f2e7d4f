import Mathlib.Data.List.Chain
import Mathlib.Data.List.DropRight
import Modforge.Proofs.Resolved
import Modforge.Proofs.Way

/-! # Snake case is canonical -/

namespace Modforge

namespace Text

/-! ## Trimming -/

section

variable {drop : Char → Bool}

theorem trimChars_prefix_dropWhile (text : List Char) :
    trimChars drop text <+: text.dropWhile drop :=
  List.rdropWhile_prefix drop _

theorem trimChars_within (text : List Char) : trimChars drop text <:+: text :=
  (trimChars_prefix_dropWhile text).isInfix.trans (List.dropWhile_suffix drop).isInfix

theorem head?_dropWhile_eq_some {text : List Char} {c : Char}
    (h : (text.dropWhile drop).head? = some c) : drop c = false := by
  have hhead := List.head?_dropWhile_not drop text
  rw [h] at hhead
  simpa using hhead

theorem head?_trimChars_eq_some {text : List Char} {c : Char}
    (h : (trimChars drop text).head? = some c) : drop c = false := by
  obtain ⟨rest, hrest⟩ : trimChars drop text <+: text.dropWhile drop :=
    trimChars_prefix_dropWhile text
  have hhead : (text.dropWhile drop).head? = some c := by
    rw [← hrest, List.head?_append, h, Option.some_or]
  exact head?_dropWhile_eq_some hhead

theorem getLast?_trimChars_eq_some {text : List Char} {c : Char}
    (h : (trimChars drop text).getLast? = some c) : drop c = false := by
  rw [trimChars, List.getLast?_reverse] at h
  exact head?_dropWhile_eq_some h

theorem dropWhile_of_head? {text : List Char} (h : ∀ c, text.head? = some c → drop c = false) :
    text.dropWhile drop = text := by
  cases text with
  | nil => rfl
  | cons c rest => rw [List.dropWhile_cons_of_neg (by simp [h c rfl])]

theorem trimChars_of_ends {text : List Char}
    (hhead : ∀ c, text.head? = some c → drop c = false)
    (hlast : ∀ c, text.getLast? = some c → drop c = false) : trimChars drop text = text := by
  rw [trimChars, dropWhile_of_head? hhead, dropWhile_of_head?, List.reverse_reverse]
  rwa [List.head?_reverse]

theorem filter_dropWhile (text : List Char) :
    (text.dropWhile drop).filter (fun c => !drop c) = text.filter fun c => !drop c := by
  induction text with
  | nil => rfl
  | cons c rest ih => by_cases h : drop c <;> simp [h, ih]

theorem filter_trimChars (text : List Char) :
    (trimChars drop text).filter (fun c => !drop c) = text.filter fun c => !drop c := by
  rw [trimChars, List.filter_reverse, filter_dropWhile, List.filter_reverse, List.reverse_reverse,
    filter_dropWhile]

end

/-! ## Underscores one at a time -/

/-- Underscores stand between other characters, and only one at a time. -/
structure Tidy (text : List Char) : Prop where
  head : text.head? ≠ some '_'
  last : text.getLast? ≠ some '_'
  apart : ¬['_', '_'] <:+: text

def Apart (a b : Char) : Prop := ¬(a = '_' ∧ b = '_')

theorem isChain_apart_iff {text : List Char} :
    text.IsChain Apart ↔ ¬['_', '_'] <:+: text := by
  rw [List.isChain_iff_forall_rel_of_append_cons_cons]
  constructor
  · rintro h ⟨before, after, rfl⟩
    have hpair : before ++ ['_', '_'] ++ after = before ++ '_' :: '_' :: after := by simp
    exact h hpair ⟨rfl, rfl⟩
  · rintro h a b before after rfl ⟨rfl, rfl⟩
    exact h ⟨before, after, by simp⟩

theorem isChain_apart_of_not_mem {text : List Char} (h : '_' ∉ text) : text.IsChain Apart := by
  rw [isChain_apart_iff]
  exact fun hpair => h (hpair.subset List.mem_cons_self)

theorem eq_of_ofNat_eq_underscore {n : Nat} (h : Char.ofNat n = '_') : n = 95 := by
  by_cases hvalid : n.isValidChar
  · rw [Char.ofNat, dif_pos hvalid] at h
    exact congrArg Char.toNat h
  · rw [Char.ofNat, dif_neg hvalid] at h
    cases h

theorem forall_ascii {P : Char → Prop} (h : ∀ n < 128, P (Char.ofNat n)) {c : Char}
    (hc : isAscii c = true) : P c := by
  have hn := h c.toNat (by simpa [isAscii] using hc)
  rwa [Char.ofNat_toNat] at hn

theorem shiftCase_toLower_ne {c : Char} (h : c ≠ '_') :
    shiftCase CaseTable.toLower c ≠ '_' := by
  have hrows : ∀ row ∈ CaseTable.toLower, (95 : Int) < row.1 + row.2.2.2 := by decide +kernel
  unfold shiftCase
  split
  · next low high step distance hfind =>
    intro hline
    have hrow := hrows _ (List.mem_of_find?_eq_some hfind)
    have hlow := List.find?_some hfind
    have hn := eq_of_ofNat_eq_underscore hline
    simp only [Bool.and_eq_true, decide_eq_true_eq] at hrow hlow
    omega
  · exact h

theorem underscore_not_mem_lowerForm {c : Char} (h : c ≠ '_') : '_' ∉ lowerForm c := by
  cases hc : isAscii c with
  | true =>
    exact forall_ascii (P := fun c => c ≠ '_' → '_' ∉ lowerForm c) (by decide) hc h
  | false =>
    unfold lowerForm
    simp only [hc, Bool.false_eq_true, if_false]
    split
    · next long hlong =>
      have hrows : ∀ row ∈ CaseTable.toLowerLong, '_' ∉ row.2.map Char.ofNat := by decide
      exact hrows _ (Keyed.mem_of_lookup_eq_some hlong)
    · rw [List.mem_singleton]
      exact (shiftCase_toLower_ne h).symm

/-- Before the edges are trimmed: the flag is only up where a word has been begun. -/
structure Begun (state : List Char × Bool) : Prop where
  apart : state.1.IsChain Apart
  ends : state.2 = true → state.1.getLast? ≠ some '_'

theorem isChain_apart_concat_underscore {text : List Char} (h : text.IsChain Apart)
    (hlast : text.getLast? ≠ some '_') : (text ++ ['_']).IsChain Apart := by
  refine List.isChain_append.2 ⟨h, List.isChain_singleton _, ?_⟩
  rintro a ha b - ⟨rfl, -⟩
  exact hlast ha

theorem isChain_apart_append {text more : List Char} (h : text.IsChain Apart)
    (hmore : '_' ∉ more) : (text ++ more).IsChain Apart := by
  refine List.isChain_append.2 ⟨h, isChain_apart_of_not_mem hmore, ?_⟩
  rintro a - b hb ⟨-, rfl⟩
  exact hmore (List.mem_of_mem_head? hb)

theorem Begun.step {state : List Char × Bool} (h : Begun state) (c : Char) :
    Begun (snakeStep state c) := by
  obtain ⟨done, afterLower⟩ := state
  have hupper : isUpper '_' = false := by decide
  have halnum : isAlphanumeric '_' = false := by decide
  simp only [snakeStep]
  split
  · next hc =>
    -- an underscore is put before the capital, which has none in its lower case form
    have hne : c ≠ '_' := by rintro rfl; simp [hupper] at hc
    refine ⟨isChain_apart_append ?_ (underscore_not_mem_lowerForm hne), by simp⟩
    split
    · next hflag => exact isChain_apart_concat_underscore h.apart (h.ends hflag)
    · exact h.apart
  split
  · next hc =>
    have hne : c ≠ '_' := by rintro rfl; simp [halnum] at hc
    exact ⟨isChain_apart_append h.apart (by simpa using hne.symm), fun _ => by simpa using hne⟩
  split
  · refine ⟨?_, by simp⟩
    simp only
    split
    · exact h.apart
    · next hdone =>
      simp only [Bool.or_eq_true, beq_iff_eq, not_or] at hdone
      exact isChain_apart_concat_underscore h.apart hdone.2
  · exact h

theorem Begun.foldl {state : List Char × Bool} (h : Begun state) (text : List Char) :
    Begun (text.foldl snakeStep state) := by
  induction text generalizing state with
  | nil => exact h
  | cons c rest ih => exact ih (h.step c)

theorem tidy_snakeChars (text : List Char) : Tidy (snakeChars text) := by
  have hbegun : Begun (text.foldl snakeStep ([], false)) :=
    Begun.foldl ⟨List.isChain_nil, by simp⟩ text
  refine ⟨fun h => ?_, fun h => ?_, fun hpair => ?_⟩
  · cases head?_trimChars_eq_some h
  · cases getLast?_trimChars_eq_some h
  · exact isChain_apart_iff.1 hbegun.apart (hpair.trans (trimChars_within _))

/-! ## The letters and digits of an ASCII text -/

def isSnakeChar (c : Char) : Bool := isAsciiLower c || isDigit c

theorem isAscii_of_isSnakeChar {c : Char} (h : isSnakeChar c = true) : isAscii c = true := by
  simp only [isSnakeChar, isAsciiLower, isDigit, Bool.or_eq_true, Bool.and_eq_true,
    decide_eq_true_eq, Char.le_def, UInt32.le_iff_toNat_le] at h
  simp only [isAscii, decide_eq_true_eq]
  have hz : ('z' : Char).val.toNat = 122 := rfl
  have hnine : ('9' : Char).val.toNat = 57 := rfl
  have hc : c.toNat = c.val.toNat := rfl
  omega

section

variable {c : Char} (h : isAscii c = true)
include h

theorem lowerForm_of_isAscii : lowerForm c = [c.toLower] :=
  forall_ascii (P := fun c => lowerForm c = [c.toLower]) (by decide) h

theorem isAlphanumeric_of_isAscii : isAlphanumeric c = c.isAlphanum :=
  forall_ascii (P := fun c => isAlphanumeric c = c.isAlphanum) (by decide) h

theorem isAlphanum_of_isUpper : isUpper c = true → c.isAlphanum = true :=
  forall_ascii (P := fun c => isUpper c = true → c.isAlphanum = true) (by decide) h

theorem toLower_of_not_isUpper : isUpper c = false → c.toLower = c :=
  forall_ascii (P := fun c => isUpper c = false → c.toLower = c) (by decide) h

theorem isSnakeChar_toLower : c.isAlphanum = true → isSnakeChar c.toLower = true :=
  forall_ascii (P := fun c => c.isAlphanum = true → isSnakeChar c.toLower = true) (by decide) h

end

theorem ne_underscore_of_isSnakeChar {c : Char} (h : isSnakeChar c = true) : c ≠ '_' := by
  rintro rfl
  cases h

theorem isUpper_of_isSnakeChar {c : Char} (h : isSnakeChar c = true) : isUpper c = false :=
  forall_ascii (P := fun c => isSnakeChar c = true → isUpper c = false) (by decide)
    (isAscii_of_isSnakeChar h) h

theorem isAlphanumeric_of_isSnakeChar {c : Char} (h : isSnakeChar c = true) :
    isAlphanumeric c = true :=
  forall_ascii (P := fun c => isSnakeChar c = true → isAlphanumeric c = true) (by decide)
    (isAscii_of_isSnakeChar h) h

def lowered (text : List Char) : List Char := (text.filter Char.isAlphanum).map Char.toLower

theorem isSnakeChar_of_mem_lowered {text : List Char} (h : ∀ c ∈ text, isAscii c = true) {c : Char}
    (hc : c ∈ lowered text) : isSnakeChar c = true := by
  obtain ⟨d, hd, rfl⟩ := List.mem_map.1 hc
  obtain ⟨hmem, halnum⟩ := List.mem_filter.1 hd
  exact isSnakeChar_toLower (h d hmem) halnum

theorem filter_snakeStep (state : List Char × Bool) {c : Char} (h : isAscii c = true) :
    (snakeStep state c).1.filter (· != '_') = state.1.filter (· != '_') ++ lowered [c] := by
  obtain ⟨done, afterLower⟩ := state
  have hkeep (halnum : c.isAlphanum = true) :
      [c.toLower].filter (· != '_') = [c.toLower] ∧ lowered [c] = [c.toLower] := by
    have hne := ne_underscore_of_isSnakeChar (isSnakeChar_toLower h halnum)
    exact ⟨by simp [hne], by simp [lowered, halnum]⟩
  simp only [snakeStep, isAlphanumeric_of_isAscii h, lowerForm_of_isAscii h]
  split
  · next hupper =>
    obtain ⟨hself, hlowered⟩ := hkeep (isAlphanum_of_isUpper h hupper)
    rw [List.filter_append, hself, hlowered]
    split <;> simp
  · next hupper =>
    split
    · next halnum =>
      obtain ⟨hself, hlowered⟩ := hkeep halnum
      rw [toLower_of_not_isUpper h (by simpa using hupper)] at hself hlowered
      rw [List.filter_append, hself, hlowered]
    · next halnum =>
      have hnone : lowered [c] = [] := by simp [lowered, halnum]
      rw [hnone, List.append_nil]
      split
      · simp only
        split <;> simp
      · rfl

theorem filter_foldl_snakeStep (state : List Char × Bool) {text : List Char}
    (h : ∀ c ∈ text, isAscii c = true) :
    (text.foldl snakeStep state).1.filter (· != '_') =
      state.1.filter (· != '_') ++ lowered text := by
  induction text generalizing state with
  | nil => simp [lowered]
  | cons c rest ih =>
    obtain ⟨hc, hrest⟩ := List.forall_mem_cons.1 h
    have hcons : lowered (c :: rest) = lowered [c] ++ lowered rest := by
      rw [lowered, ← List.singleton_append, List.filter_append, List.map_append]
      rfl
    rw [List.foldl_cons, ih _ hrest, filter_snakeStep state hc, List.append_assoc, hcons]

theorem filter_snakeChars {text : List Char} (h : ∀ c ∈ text, isAscii c = true) :
    (snakeChars text).filter (· != '_') = lowered text :=
  (filter_trimChars _).trans (filter_foldl_snakeStep ([], false) h)

theorem snakeChars_class {text : List Char} (h : ∀ c ∈ text, isAscii c = true) :
    ∀ c ∈ snakeChars text, isSnakeChar c = true ∨ c = '_' := by
  intro c hc
  by_cases hline : c = '_'
  · exact .inr hline
  · have hmem : c ∈ (snakeChars text).filter (· != '_') := List.mem_filter.2 ⟨hc, by simpa⟩
    rw [filter_snakeChars h] at hmem
    exact .inl (isSnakeChar_of_mem_lowered h hmem)

/-! ## Texts that are in snake case -/

structure Snake (text : List Char) : Prop extends Tidy text where
  chars : ∀ c ∈ text, isSnakeChar c = true ∨ c = '_'

theorem foldl_snakeStep_of_snake {text : List Char}
    (hclass : ∀ c ∈ text, isSnakeChar c = true ∨ c = '_') (hhead : text.head? ≠ some '_')
    (hapart : text.IsChain Apart) : (text.foldl snakeStep ([], false)).1 = text := by
  induction text using List.reverseRecOn with
  | nil => rfl
  | append_singleton text c ih =>
    obtain ⟨htext, hc⟩ := List.forall_mem_append.1 hclass
    obtain ⟨happart, -, hnext⟩ := List.isChain_append.1 hapart
    have hdone := ih htext (fun h => hhead (by rw [List.head?_append, h, Option.some_or])) happart
    rw [List.foldl_concat]
    simp only [snakeStep, hdone]
    rcases hc c List.mem_cons_self with hsnake | rfl
    · simp [isUpper_of_isSnakeChar hsnake, isAlphanumeric_of_isSnakeChar hsnake]
    · have hne : text ≠ [] := by rintro rfl; exact hhead rfl
      have hlast : text.getLast? ≠ some '_' := fun h => hnext _ h '_' rfl ⟨rfl, rfl⟩
      have hgap : isUpper '_' = false ∧ isAlphanumeric '_' = false ∧ isWordGap '_' = true := by
        decide
      simp [hgap, hne, hlast]

theorem snakeChars_of_snake {text : List Char} (h : Snake text) : snakeChars text = text := by
  rw [snakeChars, foldl_snakeStep_of_snake h.chars h.head (isChain_apart_iff.2 h.apart)]
  refine trimChars_of_ends (fun c hc => ?_) (fun c hc => ?_)
  · exact beq_eq_false_iff_ne.2 fun hline => h.head (hline ▸ hc)
  · exact beq_eq_false_iff_ne.2 fun hline => h.last (hline ▸ hc)

theorem snake_snakeChars {text : List Char} (h : ∀ c ∈ text, isAscii c = true) :
    Snake (snakeChars text) :=
  { tidy_snakeChars text with chars := snakeChars_class h }

/-- Words of lower case letters and digits, joined by single underscores. -/
def IsSnakeCase (text : String) : Prop :=
  ∃ words : List String,
    (∀ word ∈ words, Naming.isWordOf isSnakeChar word = true) ∧ text = join "_" words

theorem joinChars_ne_nil {sep : List Char} {pieces : List (List Char)} (hne : pieces ≠ [])
    (h : ∀ piece ∈ pieces, piece ≠ []) : joinChars sep pieces ≠ [] := by
  fun_induction joinChars sep pieces with
  | case1 => exact absurd rfl hne
  | case2 piece => exact h piece List.mem_cons_self
  | case3 piece pieces _ _ =>
    have hpiece := h piece List.mem_cons_self
    simp [hpiece]

theorem Snake.of_word {word : List Char} (h : ∀ c ∈ word, isSnakeChar c = true) : Snake word where
  head := fun hline => ne_underscore_of_isSnakeChar (h '_' (List.mem_of_mem_head? hline)) rfl
  last := fun hline => ne_underscore_of_isSnakeChar (h '_' (List.mem_of_mem_getLast? hline)) rfl
  apart := fun hpair => ne_underscore_of_isSnakeChar (h '_' (hpair.subset List.mem_cons_self)) rfl
  chars := fun c hc => .inl (h c hc)

theorem Snake.join {word rest : List Char} (hword : word ≠ [])
    (hchars : ∀ c ∈ word, isSnakeChar c = true) (h : Snake rest) (hrest : rest ≠ []) :
    Snake (word ++ '_' :: rest) where
  head := by
    rw [List.head?_append_of_ne_nil word hword]
    exact (Snake.of_word hchars).head
  last := by
    rw [List.getLast?_append_cons, List.getLast?_cons_of_ne_nil hrest]
    exact h.last
  apart := by
    refine isChain_apart_iff.1 (List.isChain_append.2 ⟨?_, ?_, ?_⟩)
    · exact isChain_apart_iff.2 (Snake.of_word hchars).apart
    · refine List.isChain_cons.2 ⟨?_, isChain_apart_iff.2 h.apart⟩
      rintro b hb ⟨-, rfl⟩
      exact h.head hb
    · rintro a ha b - ⟨rfl, -⟩
      exact (Snake.of_word hchars).last ha
  chars := by
    refine List.forall_mem_append.2 ⟨(Snake.of_word hchars).chars, ?_⟩
    exact List.forall_mem_cons.2 ⟨.inr rfl, h.chars⟩

theorem snake_joinChars {words : List (List Char)}
    (h : ∀ word ∈ words, word ≠ [] ∧ ∀ c ∈ word, isSnakeChar c = true) :
    Snake (joinChars ['_'] words) := by
  fun_induction joinChars ['_'] words with
  | case1 => exact Snake.of_word (by simp)
  | case2 word => exact Snake.of_word (h word List.mem_cons_self).2
  | case3 word words hwords ih =>
    obtain ⟨hword, hrest⟩ := List.forall_mem_cons.1 h
    rw [List.append_assoc, List.singleton_append]
    exact Snake.join hword.1 hword.2 (ih hrest)
      (joinChars_ne_nil hwords fun word hmem => (hrest word hmem).1)

theorem Snake.of_append (before : List Char) {text : List Char} (h : Snake (before ++ text))
    (hne : text ≠ []) (hhead : text.head? ≠ some '_') : Snake text where
  head := hhead
  last := by
    have hlast := h.last
    rwa [List.getLast?_append_of_ne_nil before hne] at hlast
  apart := fun hpair => h.apart (hpair.trans (List.suffix_append before text).isInfix)
  chars := fun c hc => h.chars c (List.mem_append_right before hc)

/-- The words are read off from the front: a character begins the next word, or stands before an
underscore as a word of its own. -/
theorem Snake.exists_words : ∀ {text : List Char}, Snake text →
    ∃ words : List (List Char), (∀ word ∈ words, word ≠ [] ∧ ∀ c ∈ word, isSnakeChar c = true) ∧
      text = joinChars ['_'] words
  | [], _ => ⟨[], by simp, rfl⟩
  | [c], h => by
    have hc := (h.chars c List.mem_cons_self).resolve_right fun hline => h.head (by simp [hline])
    exact ⟨[[c]], by simp [hc], rfl⟩
  | c :: d :: rest, h => by
    have hc := (h.chars c List.mem_cons_self).resolve_right fun hline => h.head (by simp [hline])
    by_cases hd : d = '_'
    · subst hd
      have hne : rest ≠ [] := by rintro rfl; exact h.last rfl
      have hhead : rest.head? ≠ some '_' := by
        intro hline
        obtain ⟨more, rfl⟩ := List.head?_eq_some_iff.1 hline
        exact h.apart ⟨[c], more, rfl⟩
      obtain ⟨words, hwords, hrest⟩ :=
        (Snake.of_append [c, '_'] h hne hhead).exists_words
      cases words with
      | nil => exact absurd hrest hne
      | cons word words =>
        refine ⟨[c] :: word :: words, List.forall_mem_cons.2 ⟨by simp [hc], hwords⟩, ?_⟩
        rw [hrest]
        rfl
    · obtain ⟨words, hwords, hrest⟩ :=
        (Snake.of_append [c] h (by simp) (by simpa using hd)).exists_words
      cases words with
      | nil => cases hrest
      | cons word words =>
        obtain ⟨hword, hmore⟩ := List.forall_mem_cons.1 hwords
        refine ⟨(c :: word) :: words, List.forall_mem_cons.2 ⟨⟨by simp, ?_⟩, hmore⟩, ?_⟩
        · exact List.forall_mem_cons.2 ⟨hc, hword.2⟩
        · rw [hrest]
          cases words <;> rfl

theorem isSnakeCase_iff {text : String} : IsSnakeCase text ↔ Snake text.toList := by
  constructor
  · rintro ⟨words, hwords, rfl⟩
    rw [Text.join, String.toList_ofList]
    refine snake_joinChars (List.forall_mem_map.2 fun word hmem => ?_)
    simpa [Naming.isWordOf] using hwords word hmem
  · intro h
    obtain ⟨words, hwords, htext⟩ := h.exists_words
    refine ⟨words.map String.ofList, List.forall_mem_map.2 fun word hmem => ?_, ?_⟩
    · simpa [Naming.isWordOf] using hwords word hmem
    · simp [Text.join, Function.comp_def, ← htext]

theorem toSnakeCase_eq_self_iff {text : String} (h : ∀ c ∈ text.toList, isAscii c = true) :
    toSnakeCase text = text ↔ IsSnakeCase text := by
  rw [isSnakeCase_iff]
  constructor
  · intro hself
    have hsnake := snake_snakeChars h
    rwa [← String.toList_ofList (l := snakeChars text.toList), ← toSnakeCase, hself] at hsnake
  · intro hsnake
    rw [toSnakeCase, snakeChars_of_snake hsnake, String.ofList_toList]

/-! ## Suggestions -/

theorem isIdChar_of_snake {c : Char} (h : isSnakeChar c = true ∨ c = '_') :
    Naming.isIdChar c = true := by
  rcases h with hsnake | rfl
  · rw [isSnakeChar] at hsnake
    simp [Naming.isIdChar, Naming.isNamespaceChar, hsnake]
  · decide

theorem snakeChars_eq_nil_iff {text : List Char} (h : ∀ c ∈ text, isAscii c = true) :
    snakeChars text = [] ↔ lowered text = [] := by
  rw [← filter_snakeChars h]
  constructor
  · intro hnil
    rw [hnil]
    rfl
  · intro hnone
    cases hsnake : snakeChars text with
    | nil => rfl
    | cons c rest =>
      have hhead := (tidy_snakeChars text).head
      rw [hsnake] at hnone hhead
      have hline : c = '_' := by
        have := List.filter_eq_nil_iff.1 hnone c List.mem_cons_self
        simpa using this
      exact absurd (congrArg some hline) hhead

theorem lowered_ne_nil_iff {text : List Char} :
    lowered text ≠ [] ↔ ∃ c ∈ text, c.isAlphanum = true := by
  simp [lowered, List.filter_eq_nil_iff]

theorem isWordOf_toSnakeCase {id : String} (h : ∀ c ∈ id.toList, isAscii c = true) :
    Naming.isWordOf Naming.isIdChar (toSnakeCase id) = true ↔
      ∃ c ∈ id.toList, c.isAlphanum = true := by
  have hall : (snakeChars id.toList).all Naming.isIdChar = true :=
    List.all_eq_true.2 fun c hc => isIdChar_of_snake ((snake_snakeChars h).chars c hc)
  rw [← lowered_ne_nil_iff, ne_eq, ← snakeChars_eq_nil_iff h]
  simp [Naming.isWordOf, toSnakeCase, hall]

theorem checkId_of_rejected {id : String} (hne : id ≠ "") (h : Naming.checkId id ≠ .ok ()) :
    Naming.checkId id = .error (
      if Naming.isWordOf Naming.isIdChar (toSnakeCase id) then .idSpelling id (toSnakeCase id)
      else .idCharacters id) := by
  have hempty : id.toList.isEmpty = false := by simpa using hne
  unfold Naming.checkId at h ⊢
  simp only [hempty, Bool.false_eq_true, if_false] at h ⊢
  split
  · next hall => exact absurd (if_pos hall) h
  · split <;> rfl

/-- Snake case has no underscore at its ends and no two side by side. Of an ASCII text it keeps the
letters and digits, it changes exactly the texts that are not in snake case, and no text twice. An
ASCII id that is refused is corrected if and only if it has a letter or a digit, and then to an id
that is accepted. -/
theorem snakeCase_canonical (text : String) :
    let snake := toSnakeCase text
    (snake.toList.head? ≠ some '_' ∧ snake.toList.getLast? ≠ some '_' ∧
      ¬['_', '_'] <:+: snake.toList) ∧
    ((∀ c ∈ text.toList, isAscii c = true) →
      (∀ c ∈ snake.toList, isSnakeChar c = true ∨ c = '_') ∧
      snake.toList.filter (· != '_') =
        (text.toList.filter Char.isAlphanum).map Char.toLower ∧
      (snake = text ↔ IsSnakeCase text) ∧
      toSnakeCase snake = snake ∧
      (text ≠ "" → Naming.checkId text ≠ .ok () →
        (Naming.checkId text = .error (.idSpelling text snake) ↔
          ∃ c ∈ text.toList, c.isAlphanum = true) ∧
        (Naming.checkId text = .error (.idCharacters text) ↔
          ¬∃ c ∈ text.toList, c.isAlphanum = true) ∧
        ∀ suggestion, Naming.checkId text = .error (.idSpelling text suggestion) →
          Naming.checkId suggestion = .ok ())) := by
  intro snake
  have hlist : snake.toList = snakeChars text.toList := String.toList_ofList
  rw [hlist]
  obtain ⟨hhead, hlast, hapart⟩ := tidy_snakeChars text.toList
  refine ⟨⟨hhead, hlast, hapart⟩, fun hascii => ?_⟩
  have hsnake : Snake snake.toList := hlist ▸ snake_snakeChars hascii
  refine ⟨snakeChars_class hascii, filter_snakeChars hascii, toSnakeCase_eq_self_iff hascii, ?_,
    fun hne hrejected => ?_⟩
  · rw [toSnakeCase, snakeChars_of_snake hsnake, String.ofList_toList]
  · rw [checkId_of_rejected hne hrejected, ← isWordOf_toSnakeCase hascii]
    cases hword : Naming.isWordOf Naming.isIdChar (toSnakeCase text) with
    | false => simp
    | true =>
      refine ⟨by simp [snake], by simp, fun suggestion h => ?_⟩
      simp only [if_true, Except.error.injEq, Naming.Flaw.idSpelling.injEq, true_and] at h
      exact h ▸ checkId_eq_ok_iff.2 hword

theorem snakeCase_canonical_copper :
    toSnakeCase "Copper--Ore!" = "copper_ore" ∧ toSnakeCase "copper_ore" = "copper_ore" ∧
      Naming.checkId "Copper--Ore!" = .error (.idSpelling "Copper--Ore!" "copper_ore") ∧
      Naming.checkId "copper_ore" = .ok () := by
  have hsnake : toSnakeCase "Copper--Ore!" = "copper_ore" := by decide
  obtain ⟨-, -, -, -, hself, hid⟩ :=
    (snakeCase_canonical "Copper--Ore!").imp_right fun h => h (List.all_eq_true.1 (by decide))
  obtain ⟨hsuggested, -, haccepted⟩ := hid (by decide) (by decide)
  have hid := hsuggested.2 ⟨'C', by decide, by decide⟩
  rw [hsnake] at hself hid
  exact ⟨hsnake, hself, hid, haccepted _ hid⟩

end Text
end Modforge
