import Modforge.Proofs.Slot.Numbers

/-!
# How many arguments a template takes

The largest number that a text asks for is the number of its arguments. Fewer are refused, more
are left over, and what the arguments say plays no part in it.
-/

namespace Modforge

namespace Slot

/-! ## The largest number -/

def arity (parts : List (Char ⊕ Slot)) : Nat := (numbers counted 0 parts).foldr max 0

theorem arity_le_iff {parts : List (Char ⊕ Slot)} {n : Nat} :
    arity parts ≤ n ↔ ∀ m ∈ numbers counted 0 parts, m ≤ n := by
  unfold arity
  induction numbers counted 0 parts with
  | nil => simp
  | cons m rest ih => simp [ih]

/-! ## Arguments that are asked for -/

section

variable {index : Slot → Option Nat} {args args' : List String}

theorem shownAs_congr {number : Option Nat}
    (h : ∀ m ∈ number, args[m - 1]? = args'[m - 1]?) (part : Char ⊕ Slot) :
    shownAs args number part = shownAs args' number part := by
  rcases part with c | slot
  · rfl
  · unfold shownAs
    cases number with
    | none => rfl
    | some m => simp [h m rfl]

theorem shown_congr {used : Nat} {parts : List (Char ⊕ Slot)}
    (h : ∀ m ∈ numbers index used parts, args[m - 1]? = args'[m - 1]?) :
    shown index args used parts = shown index args' used parts := by
  induction parts generalizing used with
  | nil => rfl
  | cons part rest ih =>
    rw [numbers_cons] at h
    rw [shown_cons, shown_cons]
    rw [shownAs_congr fun m hm => h m (List.mem_append_left _ (Option.mem_toList.2 hm)),
      ih fun m hm => h m (List.mem_append_right _ hm)]

end

theorem outcome_of_arity_le {parts : List (Char ⊕ Slot)} {args : List String}
    (h : arity parts ≤ args.length) (name : String) :
    outcome counted name args parts = .ok (String.ofList (shown counted args 0 parts)) := by
  have hnone : (numbers counted 0 parts).find? (args.length < ·) = none := by
    rw [List.find?_eq_none]
    intro m hm hmissing
    have hle := arity_le_iff.1 h m hm
    simp at hmissing
    omega
  rw [outcome, hnone]

theorem missing_of_outcome {parts : List (Char ⊕ Slot)} {args : List String} {name : String}
    {missing : MissingArgument} (h : outcome counted name args parts = .error missing) :
    missing.template = name ∧ missing.supplied = args.length ∧ args.length < missing.index ∧
      missing.index ≤ arity parts := by
  unfold outcome at h
  split at h
  · cases h
  · next m hm =>
    cases h
    have hmissing : args.length < m := by simpa using List.find?_some hm
    exact ⟨rfl, rfl, hmissing, arity_le_iff.1 le_rfl m (List.mem_of_find?_eq_some hm)⟩

end Slot

/-! ## Rendering -/

structure Template.HasArity (template : Template) (id : String) (n : Nat) : Prop where
  ok_iff : ∀ args, (∃ text, template.render id args = .ok text) ↔ n ≤ args.length
  /-- Whatever stands behind the first `n` arguments can be taken away, and more can follow. -/
  take_append : ∀ args text, template.render id args = .ok text →
    ∀ more, template.render id (args.take n ++ more) = .ok text
  missing : ∀ args missing, template.render id args = .error missing →
    missing.template = template.name ∧ missing.supplied = args.length ∧
      args.length < missing.index ∧ missing.index ≤ n

namespace Template.HasArity

variable {template : Template} {id : String} {n : Nat}

theorem unique (h : template.HasArity id n) {m : Nat} (h' : template.HasArity id m) : m = n := by
  have hle (k : Nat) : n ≤ k ↔ m ≤ k := by
    have hk := (h.ok_iff (List.replicate k "")).symm.trans (h'.ok_iff (List.replicate k ""))
    simpa using hk
  have hn := (hle n).1 le_rfl
  have hm := (hle m).2 le_rfl
  omega

theorem append (h : template.HasArity id n) {args : List String} {text : String}
    (hok : template.render id args = .ok text) (more : List String) :
    template.render id (args ++ more) = .ok text := by
  have hall := h.take_append args text hok (args.drop n ++ more)
  rwa [← List.append_assoc, List.take_append_drop] at hall

end Template.HasArity

theorem hasArity_of_read {template : Template} {id : String} {marks : List (Char ⊕ Unit)}
    {parts : List (Char ⊕ Slot)} (hmarks : ReadAs idMarks template.body.toList marks)
    (hparts : ReadAs Slot.written (withId id marks) parts) :
    template.HasArity id (Slot.arity parts) := by
  have hok (args : List String) : (∃ text, template.render id args = .ok text) ↔
      Slot.arity parts ≤ args.length := by
    rw [render_ok_iff hmarks hparts, Slot.arity_le_iff]
  constructor
  · exact hok
  · intro args text htext more
    have hle := (hok args).1 ⟨text, htext⟩
    have hle' : Slot.arity parts ≤ (args.take (Slot.arity parts) ++ more).length := by
      simp
      omega
    -- every number that counts is that of one of the first arguments
    have hsame : ∀ m ∈ Slot.numbers Slot.counted 0 parts,
        (args.take (Slot.arity parts) ++ more)[m - 1]? = args[m - 1]? := by
      intro m hm
      have hpos := Slot.pos_of_mem_numbers hm
      have hm := Slot.arity_le_iff.1 le_rfl m hm
      rw [List.getElem?_append_left (by simp; omega), List.getElem?_take_of_lt (by omega)]
    rw [render_of_read hmarks hparts, Slot.outcome_of_arity_le hle] at htext
    rw [render_of_read hmarks hparts, Slot.outcome_of_arity_le hle', Slot.shown_congr hsame, htext]
  · intro args missing hmissing
    rw [render_of_read hmarks hparts] at hmissing
    exact Slot.missing_of_outcome hmissing

/-- A template takes one number of arguments with each id. It is rendered just if so many are
there, the text is that of the first ones, and otherwise the number of one that is not there is
reported. Lists of one length are both rendered or both refused, and more arguments change
nothing. -/
theorem exists_unique_arity (template : Template) (id : String) :
    (∃! n, template.HasArity id n) ∧
    (∀ args args' : List String, args.length = args'.length →
      ((∃ text, template.render id args = .ok text) ↔
        ∃ text, template.render id args' = .ok text)) ∧
    ∀ args text, template.render id args = .ok text →
      ∀ more, template.render id (args ++ more) = .ok text := by
  obtain ⟨marks, hmarks⟩ := ReadAs.exists_parts prefixFree_idMarks.ne_nil template.body.toList
  obtain ⟨parts, hparts⟩ := ReadAs.exists_parts Slot.prefixFree_written.ne_nil (withId id marks)
  have harity := hasArity_of_read hmarks hparts
  refine ⟨⟨_, harity, fun m hm => harity.unique hm⟩, ?_, fun args text h => harity.append h⟩
  intro args args' hlength
  rw [harity.ok_iff, harity.ok_iff, hlength]

end Modforge
