import Modforge.Proofs.Slot.Scanned

/-! # Percent signs written twice -/

namespace Modforge

namespace Slot

def escapeChar (c : Char) : List Char := if c = '%' then ['%', '%'] else [c]

def escaped (text : String) : String := String.ofList (text.toList.flatMap escapeChar)

@[simp] theorem escapeChar_percent : escapeChar '%' = ['%', '%'] := rfl

theorem escapeChar_of_ne {c : Char} (h : c ≠ '%') : escapeChar c = [c] := if_neg h

/-! ## Slots -/

theorem scanFrom_escaped (letters rest : List Char) :
    scanFrom 0 (letters.flatMap escapeChar ++ rest) = letters.map .char ++ scanFrom 0 rest := by
  induction letters with
  | nil => rfl
  | cons c more ih =>
    rw [List.flatMap_cons, List.append_assoc, List.map_cons, List.cons_append, ← ih]
    generalize more.flatMap escapeChar ++ rest = after
    by_cases hc : c = '%'
    · subst hc
      have hopen : open? ('%' :: after) = some (.char '%', 1) :=
        open?_written ⟨none, .percent⟩ after
      simp [scanFrom, hopen]
    · simp [escapeChar_of_ne hc, scanFrom, hc]

theorem fill_chars (args : List String) (used : Nat) (letters : List Char) :
    fill args used (letters.map .char) = .ok letters := by
  induction letters with
  | nil => rfl
  | cons c more ih => simp [fill, ih, Except.map]

/-! ## Marks -/

section

variable {word : List Char} (hpercent : '%' ∉ word)

include hpercent

theorem prefix_of_prefix_escaped {letters : List Char}
    (h : word <+: letters.flatMap escapeChar) : word <+: letters := by
  induction letters generalizing word with
  | nil => exact h
  | cons c more ih =>
    cases word with
    | nil => exact List.nil_prefix
    | cons d word =>
      rw [List.mem_cons, not_or] at hpercent
      have hc : c ≠ '%' := by
        rintro rfl
        exact hpercent.1 (List.cons_prefix_cons.1 h).1.symm
      rw [List.flatMap_cons, escapeChar_of_ne hc, List.singleton_append,
        List.cons_prefix_cons] at h
      exact List.cons_prefix_cons.2 ⟨h.1, ih hpercent.2 h.2⟩

theorem infix_of_infix_escaped (hne : word ≠ []) {letters : List Char}
    (h : word <:+: letters.flatMap escapeChar) : word <:+: letters := by
  induction letters with
  | nil => exact h
  | cons c more ih =>
    rw [List.infix_cons_iff]
    by_cases hc : c = '%'
    · subst hc
      -- the word begins behind both percent signs
      have hlater (rest : List Char) : word <:+: '%' :: rest → word <:+: rest := by
        intro hrest
        rcases List.infix_cons_iff.1 hrest with hprefix | hinfix
        · obtain ⟨d, word, rfl⟩ := List.exists_cons_of_ne_nil hne
          rw [List.cons_prefix_cons] at hprefix
          exact absurd (List.mem_cons.2 (.inl hprefix.1.symm)) hpercent
        · exact hinfix
      exact .inr (ih (hlater _ (hlater _ h)))
    · rw [List.flatMap_cons, escapeChar_of_ne hc, List.singleton_append,
        List.infix_cons_iff] at h
      rcases h with hprefix | hinfix
      · left
        apply prefix_of_prefix_escaped hpercent
        rwa [List.flatMap_cons, escapeChar_of_ne hc]
      · exact .inr (ih hinfix)

end

end Slot

theorem replaceFrom_of_absent {pattern text : List Char} (h : ¬ pattern <:+: text)
    (new : List Char) : Text.replaceFrom pattern new 0 text = text := by
  induction text with
  | nil => rfl
  | cons c rest ih =>
    rw [List.infix_cons_iff, not_or] at h
    rw [replaceFrom_cons h.1, ih h.2]

theorem replace_escaped {mark text : String} (hne : mark ≠ "") (hpercent : '%' ∉ mark.toList)
    (h : ¬ mark.toList <:+: text.toList) (new : String) :
    Text.replace mark new (Slot.escaped text) = Slot.escaped text := by
  have hne : mark.toList ≠ [] := by simpa using hne
  have hnone : ¬ mark.toList <:+: (Slot.escaped text).toList := by
    intro hmark
    rw [Slot.escaped, String.toList_ofList] at hmark
    exact h (Slot.infix_of_infix_escaped hpercent hne hmark)
  unfold Text.replace Text.replaceChars
  split
  · contradiction
  · rw [replaceFrom_of_absent hnone, String.ofList_toList]

/-! ## Rendering -/

/-- A text without marks is rendered as it is if its percent signs are written twice. None of it
is taken for a slot, and no argument is taken. -/
theorem render_escaped {text : String}
    (hspace : ¬ Template.namespaceMark.toList <:+: text.toList)
    (hid : ¬ Template.idMark.toList <:+: text.toList) (name : String) (kind : TemplateKind)
    (space : String) (origin : Origin) (id : String) :
    let template := Template.make name kind (Slot.escaped text) space origin
    template.pieces id = text.toList.map .char ∧
      ∀ args, template.render id args = .ok text := by
  intro template
  have hbody : template.body = Slot.escaped text :=
    replace_escaped (by decide) (by decide) hspace space
  have hpieces : template.pieces id = text.toList.map .char := by
    rw [Template.pieces, hbody, replace_escaped (by decide) (by decide) hid, Slot.scan,
      Slot.escaped, String.toList_ofList]
    simpa [Slot.scanFrom] using Slot.scanFrom_escaped text.toList []
  refine ⟨hpieces, fun args => ?_⟩
  rw [Template.render, hpieces, Slot.fill_chars]
  simp

theorem render_escaped_slots :
    let text := "100%s, %1$s%%%n $%\x7bmodid\x7d $\x7b id\x7d 5%"
    let template := Template.make "t" .loot (Slot.escaped text) "m" .builtin
    ¬ Template.namespaceMark.toList <:+: text.toList ∧
      ¬ Template.idMark.toList <:+: text.toList ∧
      template.body = "100%%s, %%1$s%%%%%%n $%%\x7bmodid\x7d $\x7b id\x7d 5%%" ∧
      template.pieces "tin" = text.toList.map .char ∧
      ∀ args, template.render "tin" args = .ok text := by
  intro text template
  have hspace : ¬ Template.namespaceMark.toList <:+: text.toList := by decide
  have hid : ¬ Template.idMark.toList <:+: text.toList := by decide
  exact ⟨hspace, hid, by decide, render_escaped hspace hid "t" .loot "m" .builtin "tin"⟩

end Modforge
