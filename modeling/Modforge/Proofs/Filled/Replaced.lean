import Modforge.Proofs.Filled.Spec
import Modforge.Proofs.Slot.Escaped

/-! # Replacing is a filling -/

namespace Modforge

section

variable {pattern new : List Char}

theorem mem_replaceFrom {skip : Nat} {text : List Char} {c : Char}
    (h : c ∈ Text.replaceFrom pattern new skip text) : c ∈ new ∨ c ∈ text := by
  induction text generalizing skip with
  | nil => cases skip <;> cases h
  | cons d rest ih =>
    have hlater {skip : Nat} (h : c ∈ Text.replaceFrom pattern new skip rest) :
        c ∈ new ∨ c ∈ d :: rest := (ih h).imp_right (List.mem_cons_of_mem d)
    cases skip with
    | succ skip => exact hlater h
    | zero =>
      rw [Text.replaceFrom] at h
      split at h
      · rcases List.mem_append.1 h with hnew | hrest
        · exact .inl hnew
        · exact hlater hrest
      · rcases List.mem_cons.1 h with rfl | hrest
        · exact .inr List.mem_cons_self
        · exact hlater hrest

theorem prefix_of_prefix_append_cons {c : Char} (hc : c ∉ pattern) (letters : List Char)
    {rest : List Char} (h : pattern <+: letters ++ c :: rest) : pattern <+: letters := by
  induction letters generalizing pattern with
  | nil =>
    cases pattern with
    | nil => exact List.nil_prefix
    | cons d pattern => exact absurd (List.cons_prefix_cons.1 h).1.symm (by simp_all)
  | cons d letters ih =>
    cases pattern with
    | nil => exact List.nil_prefix
    | cons first pattern =>
      obtain ⟨rfl, hrest⟩ := List.cons_prefix_cons.1 h
      rw [List.mem_cons, not_or] at hc
      exact List.cons_prefix_cons.2 ⟨rfl, ih hc.2 hrest⟩

theorem replaceFrom_append_cons (hne : pattern ≠ []) {c : Char} (hc : c ∉ pattern)
    (letters rest : List Char) {skip : Nat} (hskip : skip ≤ letters.length) :
    Text.replaceFrom pattern new skip (letters ++ c :: rest) =
      Text.replaceFrom pattern new skip letters ++ c :: Text.replaceFrom pattern new 0 rest := by
  induction letters generalizing skip with
  | nil =>
    obtain rfl := Nat.le_zero.1 hskip
    refine replaceFrom_cons (fun hprefix => hne ?_) new
    exact List.prefix_nil.1 (prefix_of_prefix_append_cons hc [] hprefix)
  | cons d letters ih =>
    cases skip with
    | succ skip => exact ih (Nat.le_of_succ_le_succ hskip)
    | zero =>
      by_cases hprefix : pattern <+: d :: letters
      · -- the occurrence ends before the letter, and so does what is skipped for it
        have hlength : pattern.length - 1 ≤ letters.length := by
          have := hprefix.length_le
          rw [List.length_cons] at this
          omega
        have hlonger : pattern <+: d :: (letters ++ c :: rest) :=
          hprefix.trans (List.prefix_append _ _)
        rw [List.cons_append, Text.replaceFrom, Text.replaceFrom,
          if_pos (List.isPrefixOf_iff_prefix.2 hlonger),
          if_pos (List.isPrefixOf_iff_prefix.2 hprefix), ih hlength, List.append_assoc]
      · have hlonger : ¬ pattern <+: d :: (letters ++ c :: rest) := fun h =>
          hprefix (prefix_of_prefix_append_cons hc (d :: letters) h)
        rw [List.cons_append, replaceFrom_cons hlonger, replaceFrom_cons hprefix,
          ih (Nat.zero_le _), List.cons_append]

theorem replaceFrom_append_of_not_mem {first : Char} {letters : List Char} (h : first ∉ letters)
    (more new rest : List Char) :
    Text.replaceFrom (first :: more) new 0 (letters ++ rest) =
      letters ++ Text.replaceFrom (first :: more) new 0 rest := by
  induction letters with
  | nil => rfl
  | cons c letters ih =>
    rw [List.mem_cons, not_or] at h
    have hnone : ¬ first :: more <+: c :: (letters ++ rest) := fun hprefix =>
      h.1 (List.cons_prefix_cons.1 hprefix).1
    rw [List.cons_append, replaceFrom_cons hnone, ih h.2, List.cons_append]

theorem replaceFrom_once {first : Char} {more before after : List Char} (hbefore : first ∉ before)
    (hafter : first ∉ after) :
    Text.replaceFrom (first :: more) new 0 (before ++ (first :: more ++ after)) =
      before ++ (new ++ after) := by
  have hrest := replaceFrom_append_of_not_mem hafter more new []
  rw [List.append_nil, Text.replaceFrom, List.append_nil] at hrest
  rw [replaceFrom_append_of_not_mem hbefore, replaceFrom_append (List.cons_ne_nil _ _), hrest]

end

def Json.TextFilling.replacing (mark new : String) (hne : mark ≠ "") (hquote : '"' ∉ mark.toList)
    (hnew : ∀ c ∈ new.toList, isVerbatim c = true) : TextFilling where
  fill := Text.replaceFrom mark.toList new.toList 0
  opens c := mark.toList.head? == some c
  fill_nil := rfl
  fill_cons {c} h rest := by
    refine replaceFrom_cons (fun hprefix => ?_) _
    have hnonempty : mark.toList ≠ [] := by simpa using hne
    obtain ⟨first, more, hmark⟩ := List.exists_cons_of_ne_nil hnonempty
    rw [hmark] at hprefix h
    obtain ⟨rfl, -⟩ := List.cons_prefix_cons.1 hprefix
    simp at h
  fill_quote letters rest :=
    replaceFrom_append_cons (by simpa using hne) hquote letters rest (Nat.zero_le _)
  isVerbatim_fill h c hc := (mem_replaceFrom hc).elim (hnew c) (h c)

theorem Json.TextFilling.text_replacing {mark new : String} (hne : mark ≠ "")
    (hquote : '"' ∉ mark.toList) (hnew : ∀ c ∈ new.toList, isVerbatim c = true) (text : String) :
    (replacing mark new hne hquote hnew).text text = Text.replace mark new text := by
  have hne : mark.toList ≠ [] := by simpa using hne
  unfold Text.replace Text.replaceChars
  split
  · contradiction
  · rfl

end Modforge
