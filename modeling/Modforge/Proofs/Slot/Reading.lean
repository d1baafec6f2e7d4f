import Modforge.Text.Split

/-!
# Reading a text for forms

A text is read from the left: where a form is written the form is taken as a whole, and any other
letter stands for itself. Where no form is empty and none begins like another, there is exactly
one reading. When letters are spelled out the forms stay the same unless a new one comes about.
-/

namespace Modforge

variable {α β τ : Type}

/-- What a text consists of, its letters and the forms that are written in it. -/
inductive ReadAs (written : τ → List α) : List α → List (α ⊕ τ) → Prop
  | nil : ReadAs written [] []
  | form (t : τ) {rest : List α} {parts : List (α ⊕ τ)} (h : ReadAs written rest parts) :
    ReadAs written (written t ++ rest) (.inr t :: parts)
  | letter {a : α} {rest : List α} {parts : List (α ⊕ τ)}
    (hnone : ∀ t, ¬ written t <+: a :: rest) (h : ReadAs written rest parts) :
    ReadAs written (a :: rest) (.inl a :: parts)

structure PrefixFree (written : τ → List α) : Prop where
  ne_nil : ∀ t, written t ≠ []
  eq_of_append : ∀ {t t' : τ} {rest rest' : List α},
    written t ++ rest = written t' ++ rest' → t = t'

theorem PrefixFree.map {written : τ → List α} (h : PrefixFree written) {f : α → β}
    (hf : f.Injective) : PrefixFree fun t => (written t).map f where
  ne_nil t := by simpa using h.ne_nil t
  eq_of_append {t t' rest rest'} heq := by
    -- one of the two begins with the other
    rw [List.append_eq_append_iff] at heq
    rcases heq with ⟨more, hmore, -⟩ | ⟨more, hmore, -⟩
    · obtain ⟨front, back, hwritten, hfront, -⟩ := List.map_eq_append_iff.1 hmore
      rw [(List.map_inj_right fun _ _ => @hf _ _).1 hfront] at hwritten
      exact h.eq_of_append (hwritten.symm.trans (List.append_nil _).symm)
    · obtain ⟨front, back, hwritten, hfront, -⟩ := List.map_eq_append_iff.1 hmore
      rw [(List.map_inj_right fun _ _ => @hf _ _).1 hfront] at hwritten
      exact h.eq_of_append ((List.append_nil _).trans hwritten)

/-! ## Text of parts -/

def spellOut (written : τ → List α) (parts : List (α ⊕ τ)) : List α :=
  parts.flatMap (Sum.elim (fun a => [a]) written)

def respell (spell : α → List β) (parts : List (α ⊕ τ)) : List (β ⊕ τ) :=
  parts.flatMap (Sum.elim (fun a => (spell a).map .inl) fun t => [.inr t])

section

variable (written : τ → List α) (spell : α → List β) (parts : List (α ⊕ τ))

@[simp] theorem spellOut_nil : spellOut written [] = [] := rfl

@[simp] theorem spellOut_letter (a : α) :
    spellOut written (.inl a :: parts) = a :: spellOut written parts := rfl

@[simp] theorem spellOut_form (t : τ) :
    spellOut written (.inr t :: parts) = written t ++ spellOut written parts := rfl

@[simp] theorem respell_nil : respell spell ([] : List (α ⊕ τ)) = [] := rfl

@[simp] theorem respell_letter (a : α) :
    respell spell (.inl a :: parts) = (spell a).map .inl ++ respell spell parts := rfl

@[simp] theorem respell_form (t : τ) :
    respell spell (.inr t :: parts) = .inr t :: respell spell parts := rfl

theorem spellOut_append (more : List (α ⊕ τ)) :
    spellOut written (parts ++ more) = spellOut written parts ++ spellOut written more :=
  List.flatMap_append

theorem spellOut_letters (letters : List α) :
    spellOut written (letters.map .inl ++ parts) = letters ++ spellOut written parts := by
  induction letters with
  | nil => rfl
  | cons a rest ih => simp [ih]

theorem respell_append (more : List (α ⊕ τ)) :
    respell spell (parts ++ more) = respell spell parts ++ respell spell more :=
  List.flatMap_append

theorem spellOut_respell {spelled : τ → List β}
    (hforms : ∀ t, (written t).flatMap spell = spelled t) :
    spellOut spelled (respell spell parts) = (spellOut written parts).flatMap spell := by
  induction parts with
  | nil => rfl
  | cons part rest ih =>
    cases part with
    | inl a => simp [spellOut_letters, ih]
    | inr t => simp [ih, hforms]

end

/-! ## Cuts -/

theorem exists_split_of_only {spell : α → List β} {x : α} {d : β} (hx : spell x = [d])
    (honly : ∀ y, d ∈ spell y → y = x) {marks : List α} {before after : List β}
    (h : marks.flatMap spell = before ++ d :: after) :
    ∃ run rest, marks = run ++ x :: rest ∧ run.flatMap spell = before ∧
      rest.flatMap spell = after := by
  induction marks generalizing before with
  | nil => simp at h
  | cons y marks ih =>
    rw [List.flatMap_cons, List.append_eq_append_iff] at h
    rcases h with ⟨more, hbefore, hmarks⟩ | ⟨more, hy, hafter⟩
    · obtain ⟨run, rest, rfl, hrun, hrest⟩ := ih hmarks
      exact ⟨y :: run, rest, rfl, by rw [List.flatMap_cons, hrun, hbefore], hrest⟩
    · cases more with
      | nil =>
        -- what `y` is spelled as ends right before the letter
        obtain ⟨run, rest, rfl, hrun, hrest⟩ := @ih [] hafter.symm
        rw [List.append_nil] at hy
        exact ⟨y :: run, rest, rfl, by rw [List.flatMap_cons, hrun, hy, List.append_nil], hrest⟩
      | cons e more =>
        obtain rfl : d = e := (List.cons.inj hafter).1
        obtain rfl := honly y (by simp [hy])
        rw [hx, List.singleton_eq_append_iff] at hy
        rcases hy with ⟨rfl, hmore⟩ | ⟨-, hmore⟩
        · obtain ⟨-, rfl⟩ := List.cons.inj hmore
          exact ⟨[], marks, rfl, rfl, (List.cons.inj hafter).2.symm⟩
        · cases hmore

theorem exists_letters {parts : List (α ⊕ τ)} (h : ∀ t, .inr t ∉ parts) :
    ∃ letters : List α, parts = letters.map .inl := by
  induction parts with
  | nil => exact ⟨[], rfl⟩
  | cons part rest ih =>
    obtain ⟨letters, rfl⟩ := ih fun t ht => h t (List.mem_cons_of_mem _ ht)
    cases part with
    | inl a => exact ⟨a :: letters, rfl⟩
    | inr t => exact absurd List.mem_cons_self (h t)

namespace ReadAs

variable {written : τ → List α} {text rest : List α} {parts parts' : List (α ⊕ τ)}

theorem spellOut_eq (h : ReadAs written text parts) : spellOut written parts = text := by
  induction h with
  | nil => rfl
  | form t _ ih => rw [spellOut_form, ih]
  | letter _ _ ih => rw [spellOut_letter, ih]

/-! ## There is one reading -/

theorem exists_parts (hne : ∀ t, written t ≠ []) (text : List α) :
    ∃ parts, ReadAs written text parts := by
  induction hlength : text.length using Nat.strongRecOn generalizing text with
  | _ n ih =>
    subst hlength
    by_cases hform : ∃ t, written t <+: text
    · obtain ⟨t, rest, rfl⟩ := hform
      have hpos : 0 < (written t).length := List.length_pos_iff.2 (hne t)
      obtain ⟨parts, h⟩ := ih rest.length (by simp; omega) rest rfl
      exact ⟨_, .form t h⟩
    · cases text with
      | nil => exact ⟨_, .nil⟩
      | cons a rest =>
        obtain ⟨parts, h⟩ := ih rest.length (by simp) rest rfl
        exact ⟨_, .letter (fun t ht => hform ⟨t, ht⟩) h⟩

theorem unique (hfree : PrefixFree written) (h : ReadAs written text parts)
    (h' : ReadAs written text parts') : parts = parts' := by
  -- on the first reading: the other one begins in the same way and goes on with the same text
  induction h generalizing parts' with
  | nil =>
    generalize htext : ([] : List α) = text at h'
    cases h' with
    | nil => rfl
    | form t _ => exact absurd (List.append_eq_nil_iff.1 htext.symm).1 (hfree.ne_nil t)
    | letter _ _ => cases htext
  | @form t rest parts _ ih =>
    generalize htext : written t ++ rest = text at h'
    cases h' with
    | nil => exact absurd (List.append_eq_nil_iff.1 htext).1 (hfree.ne_nil t)
    | form t' h' =>
      obtain rfl := hfree.eq_of_append htext
      obtain rfl := List.append_cancel_left htext
      rw [ih h']
    | letter hnone _ => exact absurd ⟨rest, htext⟩ (hnone t)
  | @letter a rest parts hnone _ ih =>
    generalize htext : a :: rest = text at h'
    cases h' with
    | nil => cases htext
    | form t _ => exact absurd ⟨_, htext.symm⟩ (hnone t)
    | letter _ h' =>
      obtain ⟨rfl, rfl⟩ := List.cons.inj htext
      rw [ih h']

theorem iff_eq (hfree : PrefixFree written) (h : ReadAs written text parts)
    (other : List (α ⊕ τ)) : ReadAs written text other ↔ other = parts :=
  ⟨fun hother => hother.unique hfree h, fun heq => heq ▸ h⟩

/-! ## Spelled out -/

theorem of_append {before : List (α ⊕ τ)} (h : ReadAs written text (before ++ parts)) :
    ReadAs written (spellOut written parts) parts := by
  induction before generalizing text with
  | nil => exact h.spellOut_eq ▸ h
  | cons part more ih =>
    cases h with
    | form t h => exact ih h
    | letter _ h => exact ih h

theorem not_form (h : ReadAs written text parts) {before after : List (α ⊕ τ)} {a : α}
    (hparts : parts = before ++ .inl a :: after) (t : τ) :
    ¬ written t <+: a :: spellOut written after := by
  subst hparts
  have hrest := h.of_append
  generalize htext : spellOut written (.inl a :: after) = rest at hrest
  cases hrest with
  | letter hnone h' => exact h'.spellOut_eq ▸ hnone t

theorem letters (letters : List α) (h : ReadAs written rest parts)
    (hnone : ∀ s a s', letters = s ++ a :: s' → ∀ t, ¬ written t <+: a :: (s' ++ rest)) :
    ReadAs written (letters ++ rest) (letters.map .inl ++ parts) := by
  induction letters with
  | nil => exact h
  | cons a more ih =>
    refine .letter (hnone [] a more rfl) (ih fun s b s' hmore => ?_)
    exact hnone (a :: s) b s' (by rw [hmore, List.cons_append])

theorem of_absent (h : ∀ t, ∃ a ∈ written t, a ∉ text) :
    ReadAs written text (text.map .inl) := by
  have hletters : ReadAs written (text ++ []) (text.map .inl ++ []) := by
    refine ReadAs.nil.letters text fun s a s' htext t hform => ?_
    obtain ⟨b, hb, hnot⟩ := h t
    rw [List.append_nil] at hform
    exact hnot (htext ▸ List.mem_append_right s (hform.subset hb))
  rwa [List.append_nil, List.append_nil] at hletters

/-- Spelled out, a text is read as its parts are, if and only if no form begins inside of what a
letter is spelled as. -/
theorem spelled_iff {spell : α → List β} {spelled : τ → List β}
    (hforms : ∀ t, (written t).flatMap spell = spelled t) (h : ReadAs written text parts) :
    ReadAs spelled (text.flatMap spell) (respell spell parts) ↔
      ∀ before a after, parts = before ++ .inl a :: after →
        ∀ s b s', spell a = s ++ b :: s' →
          ∀ t, ¬ spelled t <+: b :: (s' ++ (spellOut written after).flatMap spell) := by
  constructor
  · intro hspelled before a after hparts s b s' ha t
    have hsplit : respell spell parts = (respell spell before ++ s.map .inl) ++
        .inl b :: (s'.map .inl ++ respell spell after) := by
      rw [hparts, respell_append, respell_letter, ha]
      simp
    have hnone := hspelled.not_form hsplit t
    rwa [spellOut_letters, spellOut_respell written spell after hforms] at hnone
  · intro hquiet
    induction h with
    | nil => exact .nil
    | form t _ ih =>
      rw [List.flatMap_append, hforms, respell_form]
      exact .form t (ih fun before a after hparts => hquiet (.inr t :: before) a after
        (by rw [hparts, List.cons_append]))
    | @letter a rest parts _ h ih =>
      rw [List.flatMap_cons, respell_letter]
      refine (ih fun before a' after hparts => hquiet (.inl a :: before) a' after
        (by rw [hparts, List.cons_append])).letters _ fun s b s' ha t => ?_
      rw [← h.spellOut_eq]
      exact hquiet [] a parts rfl s b s' ha t

theorem prefix_of_spellOut {a : α} (hopen : ∀ t, ∃ tail, written t = a :: tail)
    {letters : List α} (ha : a ∉ letters) (h : letters <+: spellOut written parts) :
    letters.map .inl <+: parts := by
  induction parts generalizing letters with
  | nil =>
    rw [spellOut_nil, List.prefix_nil] at h
    exact h ▸ List.prefix_rfl
  | cons part rest ih =>
    cases letters with
    | nil => exact List.nil_prefix
    | cons b more =>
      cases part with
      | inl c =>
        obtain ⟨rfl, hmore⟩ := List.cons_prefix_cons.1 h
        exact List.cons_prefix_cons.2 ⟨rfl, ih (List.not_mem_of_not_mem_cons ha) hmore⟩
      | inr t =>
        obtain ⟨tail, htail⟩ := hopen t
        rw [spellOut_form, htail, List.cons_append] at h
        obtain ⟨rfl, -⟩ := List.cons_prefix_cons.1 h
        exact absurd List.mem_cons_self ha

theorem spellOut_iff {a : α} (hopen : ∀ t, ∃ tail, written t = a :: tail ∧ a ∉ tail) :
    ReadAs written (spellOut written parts) parts ↔
      ∀ t, ¬ (written t).map .inl <:+: parts := by
  constructor
  · rintro h t ⟨before, after, hparts⟩
    obtain ⟨tail, htail, -⟩ := hopen t
    have hsplit : parts = before ++ .inl a :: (tail.map .inl ++ after) := by
      rw [← hparts, htail, List.map_cons, List.append_assoc, List.cons_append]
    refine h.not_form hsplit t ⟨spellOut written after, ?_⟩
    rw [htail, spellOut_letters, List.cons_append]
  · intro hnone
    induction parts with
    | nil => exact .nil
    | cons part rest ih =>
      have hrest := ih fun t hform => hnone t (List.infix_cons hform)
      cases part with
      | inr t => exact .form t hrest
      | inl c =>
        refine .letter (fun t hform => hnone t ?_) hrest
        obtain ⟨tail, htail, ha⟩ := hopen t
        rw [htail] at hform ⊢
        obtain ⟨rfl, hmore⟩ := List.cons_prefix_cons.1 hform
        have htails := prefix_of_spellOut (fun t => (hopen t).imp fun _ => And.left) ha hmore
        exact (List.cons_prefix_cons.2 ⟨rfl, htails⟩).isInfix

end ReadAs

end Modforge
