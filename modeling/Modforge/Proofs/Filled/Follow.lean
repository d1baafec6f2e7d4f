import Modforge.Proofs.Filled.Spec

/-!
# Reading a filled document

A document and the same document filled are read side by side. Outside of texts the two are alike,
so whenever the first is read, the second is read in the same way.
-/

namespace Modforge

namespace Json

open Reading

/-! ## Two readings side by side -/

/-- From related cursors the second reading is done whenever the first one is, and what they give
is related. -/
def Follows {α β : Type} (before : Cursor → Cursor → Prop) (first : Reading α) (second : Reading β)
    (after : α → β → Cursor → Cursor → Prop) : Prop :=
  ∀ ⦃a b : Cursor⦄, before a b → ∀ ⦃v : α⦄ ⦃a' : Cursor⦄, first a = .done v a' →
    ∃ w b', second b = .done w b' ∧ after v w a' b'

def Same {α : Type} (after : α → Cursor → Cursor → Prop) (v w : α) (a b : Cursor) : Prop :=
  w = v ∧ after v a b

namespace Follows

section

variable {α β γ δ : Type} {before : Cursor → Cursor → Prop} {first : Reading α}
  {second : Reading β} {between : α → β → Cursor → Cursor → Prop} {f : α → Reading γ}
  {g : β → Reading δ} {after : γ → δ → Cursor → Cursor → Prop}

theorem pure {v : γ} {w : δ} (h : ∀ a b, before a b → after v w a b) :
    Follows before (Pure.pure v) (Pure.pure w) after := by
  intro a b hab _ _ hdone
  cases hdone
  exact ⟨w, b, rfl, h a b hab⟩

theorem bind (h : Follows before first second between)
    (hnext : ∀ v w, Follows (between v w) (f v) (g w) after) :
    Follows before (first >>= f) (second >>= g) after := by
  intro a b hab v a' hdone
  simp only [Bind.bind, andThen] at hdone ⊢
  split at hdone
  · next u next hfirst =>
    obtain ⟨w, b', hsecond, hbetween⟩ := h hab hfirst
    rw [hsecond]
    exact hnext u w hbetween hdone
  · cases hdone

theorem pre {before' : Cursor → Cursor → Prop} (h : Follows before' first second between)
    (hbefore : ∀ a b, before a b → before' a b) : Follows before first second between :=
  fun a b hab _ _ hdone => h (hbefore a b hab) hdone

theorem post {between' : α → β → Cursor → Cursor → Prop}
    (h : Follows before first second between')
    (hafter : ∀ v w a b, between' v w a b → between v w a b) :
    Follows before first second between := by
  intro a b hab v a' hdone
  obtain ⟨w, b', hsecond, hbetween⟩ := h hab hdone
  exact ⟨w, b', hsecond, hafter v w a' b' hbetween⟩

theorem map {v : α → γ} {w : β → δ} (h : Follows before first second between)
    (hmap : ∀ x y a b, between x y a b → after (v x) (w y) a b) :
    Follows before (v <$> first) (w <$> second) after :=
  h.bind fun x y => .pure (hmap x y)

theorem given {p : Prop} (h : p → Follows before first second between) :
    Follows (fun a b => p ∧ before a b) first second between :=
  fun _ _ hab _ _ hdone => h hab.1 hab.2 hdone

theorem never (h : ∀ a v a', first a ≠ .done v a') : Follows before first second between :=
  fun a _ _ v a' hdone => absurd hdone (h a v a')

theorem stop (fault : Malformed) : Follows before (Reading.stop fault) second between :=
  never fun _ _ _ h => by cases h

theorem stopAhead (fault : Malformed) : Follows before (Reading.stopAhead fault) second between :=
  never fun _ _ _ h => by cases h

theorem ite {p : Prop} [Decidable p] {first' : Reading α} {second' : Reading β}
    (hpos : p → Follows before first second between)
    (hneg : ¬ p → Follows before first' second' between) :
    Follows before (if p then first else first') (if p then second else second') between := by
  by_cases hp : p
  · simpa only [if_pos hp] using hpos hp
  · simpa only [if_neg hp] using hneg hp

end

theorem same {α γ δ : Type} {before : Cursor → Cursor → Prop} {first second : Reading α}
    {between : α → Cursor → Cursor → Prop} {f : α → Reading γ} {g : α → Reading δ}
    {after : γ → δ → Cursor → Cursor → Prop} (h : Follows before first second (Same between))
    (hnext : ∀ v, Follows (between v) (f v) (g v) after) :
    Follows before (first >>= f) (second >>= g) after :=
  h.bind fun v _ => .given fun hsame => hsame ▸ hnext v

end Follows

/-! ## Cursors in a document and in its filling -/

/-- The second cursor looks at the filling of what the first one looks at, so much being read that
the rest can do with fuel for what is left of it. -/
structure Filled (filling : TextFilling) (spent fuel : Nat) (a b : Cursor) : Prop where
  laid : Laid filling.opens a.rest
  rest : b.rest = filling.fill a.rest
  -- an item costs two calls, and at least one letter is taken for it
  length : 2 * b.rest.length + spent ≤ fuel

/-- Both cursors look at a given letter, or at the end. -/
def FilledAt (filling : TextFilling) (spent fuel : Nat) (next : Option Char) (a b : Cursor) :
    Prop :=
  Filled filling spent fuel a b ∧ a.rest.head? = next

section

variable {filling : TextFilling} {spent fuel : Nat}

theorem Filled.weaken {a b : Cursor} (h : Filled filling spent fuel a b) {spent' : Nat}
    (hspent : spent' ≤ spent) : Filled filling spent' fuel a b :=
  ⟨h.laid, h.rest, by have := h.length; omega⟩

theorem Follows.anywhere {α β : Type} {first : Reading α} {second : Reading β}
    {after : α → β → Cursor → Cursor → Prop} {next : Option Char}
    (h : Follows (Filled filling spent fuel) first second after) :
    Follows (FilledAt filling spent fuel next) first second after :=
  h.pre fun _ _ hat => hat.1

theorem Filled.head? {a b : Cursor} (h : Filled filling spent fuel a b) :
    b.rest.head? = a.rest.head? := by
  obtain ⟨hlaid, hrest, -⟩ := h
  rw [hrest]
  generalize a.rest = document at hlaid
  cases hlaid with
  | nil => rw [filling.fill_nil]
  | outside _ hopens => rw [filling.fill_cons hopens]; rfl
  | text => rw [filling.fill_text]; rfl

theorem FilledAt.outside {a b : Cursor} {c : Char} (h : FilledAt filling spent fuel (some c) a b)
    (hc : c ≠ '"') :
    ∃ rest, a.rest = c :: rest ∧ b.rest = c :: filling.fill rest ∧ Laid filling.opens rest := by
  obtain ⟨⟨hlaid, hrest, -⟩, hhead⟩ := h
  rw [hrest]
  generalize a.rest = document at hlaid hhead
  cases hlaid with
  | nil => cases hhead
  | outside _ hopens hlater =>
    cases hhead
    exact ⟨_, rfl, filling.fill_cons hopens _, hlater⟩
  | text =>
    cases hhead
    exact absurd rfl hc

theorem FilledAt.text {a b : Cursor} (h : FilledAt filling spent fuel (some '"') a b) :
    ∃ letters rest, a.rest = '"' :: (letters ++ '"' :: rest) ∧
      b.rest = '"' :: (filling.fill letters ++ '"' :: filling.fill rest) ∧
      (∀ c ∈ letters, isVerbatim c = true) ∧
      (token? rest = some ':' → ∀ c ∈ letters, filling.opens c = false) ∧
      Laid filling.opens rest := by
  obtain ⟨⟨hlaid, hrest, -⟩, hhead⟩ := h
  rw [hrest]
  generalize a.rest = document at hlaid hhead
  cases hlaid with
  | nil => cases hhead
  | outside hc =>
    cases hhead
    exact absurd rfl hc
  | text hletters hkey hlater =>
    exact ⟨_, _, rfl, filling.fill_text _ _, hletters, hkey, hlater⟩

theorem Filled.takeWhile {a b : Cursor} (h : Filled filling spent fuel a b)
    {inClass : Char → Bool} (hquote : inClass '"' = false) :
    b.rest.takeWhile inClass = a.rest.takeWhile inClass ∧
      Laid filling.opens (a.rest.dropWhile inClass) ∧
      b.rest.dropWhile inClass = filling.fill (a.rest.dropWhile inClass) := by
  obtain ⟨hlaid, hrest, -⟩ := h
  rw [hrest]
  generalize a.rest = document at hlaid
  induction hlaid with
  | nil => simp [filling.fill_nil, Laid.nil]
  | @outside c rest hc hopens hrest ih =>
    rw [filling.fill_cons hopens]
    by_cases hclass : inClass c
    · simpa [hclass] using ih
    · simp [hclass, Laid.outside hc hopens hrest, filling.fill_cons hopens]
  | text hletters hkey hrest =>
    rw [filling.fill_text]
    simp [hquote, Laid.text hletters hkey hrest, filling.fill_text]

/-! ## Single readings -/

theorem follows_peek :
    Follows (Filled filling spent fuel) peek peek (Same (FilledAt filling spent fuel)) := by
  intro a b hab _ _ hdone
  cases hdone
  exact ⟨_, b, rfl, hab.head?, hab, rfl⟩

theorem follows_skip {c : Char} (hc : c ≠ '"') :
    Follows (FilledAt filling spent fuel (some c)) skip skip
      (Same fun _ => Filled filling (spent + 2) fuel) := by
  intro a b hab _ _ hdone
  obtain ⟨rest, ha, hb, hlaid⟩ := hab.outside hc
  have hlength := hab.1.length
  simp only [skip, ha] at hdone
  cases hdone
  rw [hb, List.length_cons] at hlength
  simp only [skip, hb]
  exact ⟨_, _, rfl, rfl, hlaid, rfl, by simp only; omega⟩

theorem follows_pass {c : Char} (hc : c ≠ '"') :
    Follows (FilledAt filling spent fuel (some c)) skip skip
      (Same fun _ => Filled filling spent fuel) :=
  (follows_skip hc).post fun _ _ _ _ h => ⟨h.1, h.2.weaken (Nat.le_add_right _ _)⟩

theorem follows_takeWhile {inClass : Char → Bool} (hquote : inClass '"' = false) :
    Follows (Filled filling spent fuel) (takeWhile inClass) (takeWhile inClass)
      (Same fun _ => Filled filling spent fuel) := by
  intro a b hab _ _ hdone
  obtain ⟨htaken, hlaid, hrest⟩ := hab.takeWhile hquote
  have hlength := hab.length
  have hshort := (List.dropWhile_suffix (l := b.rest) inClass).length_le
  cases hdone
  exact ⟨_, _, rfl, htaken, hlaid, hrest, by simp only; omega⟩

theorem follows_peekToken :
    Follows (Filled filling spent fuel) peekToken peekToken
      (Same (FilledAt filling spent fuel)) :=
  (follows_takeWhile rfl).same fun _ => follows_peek

theorem head?_of_readWord {c : Char} {word : List Char} {cursor next : Cursor}
    (h : readWord (c :: word) cursor = .done () next) : cursor.rest.head? = some c := by
  simp only [readWord] at h
  split at h
  · cases h
  · next hrest =>
    rw [hrest, List.head?_cons]
    split at h
    · next hd => rw [hd]
    · cases h

theorem readWord_cons {c : Char} {word : List Char} {cursor : Cursor}
    (h : cursor.rest.head? = some c) :
    readWord (c :: word) cursor = (skip >>= fun _ => readWord word) cursor := by
  obtain ⟨rest, hrest⟩ := List.head?_eq_some_iff.1 h
  simp only [readWord, Bind.bind, andThen, skip, hrest, if_true]

theorem follows_readWord {word : List Char} (hword : '"' ∉ word) :
    Follows (Filled filling spent fuel) (readWord word) (readWord word)
      (Same fun _ => Filled filling spent fuel) := by
  induction word generalizing spent with
  | nil => exact .pure fun _ _ hab => ⟨rfl, hab⟩
  | cons c word ih =>
    rw [List.mem_cons, not_or] at hword
    intro a b hab v a' hdone
    have hhead := head?_of_readWord hdone
    rw [readWord_cons hhead] at hdone
    rw [readWord_cons (hab.head?.trans hhead)]
    exact ((follows_pass (Ne.symm hword.1)).same fun _ => ih hword.2) ⟨hab, hhead⟩ hdone

end

end Json

end Modforge
