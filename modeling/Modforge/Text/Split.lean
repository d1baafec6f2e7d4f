/-! # Cutting and joining text -/

namespace Modforge.Text

/-- The pieces of `text` between the characters `sep`. There is always at least one. -/
def splitChars (sep : Char) : List Char → List (List Char)
  | [] => [[]]
  | c :: rest =>
    if c = sep then [] :: splitChars sep rest
    else match splitChars sep rest with
      | [] => [[c]]
      | piece :: pieces => (c :: piece) :: pieces

def splitLastChars (sep : Char) : List Char → Option (List Char × List Char)
  | [] => none
  | c :: rest =>
    match splitLastChars sep rest with
    | some (before, after) => some (c :: before, after)
    | none => if c = sep then some ([], rest) else none

/-- Replaces `pattern` from the left, skipping the next `skip` characters first. -/
def replaceFrom (pattern new : List Char) : Nat → List Char → List Char
  | _, [] => []
  | skip + 1, _ :: rest => replaceFrom pattern new skip rest
  | 0, c :: rest =>
    if pattern.isPrefixOf (c :: rest) then
      new ++ replaceFrom pattern new (pattern.length - 1) rest
    else
      c :: replaceFrom pattern new 0 rest

/-- Replaces every occurrence of `pattern`, from the left and without overlap. An empty
pattern occurs before every character and at the end. -/
def replaceChars (pattern new text : List Char) : List Char :=
  match pattern with
  | [] => new ++ text.flatMap fun c => c :: new
  | _ => replaceFrom pattern new 0 text

def cutFrom (pattern : List Char) : Nat → List Char → List (List Char)
  | _, [] => [[]]
  | skip + 1, _ :: rest => cutFrom pattern skip rest
  | 0, c :: rest =>
    if pattern.isPrefixOf (c :: rest) then
      [] :: cutFrom pattern (pattern.length - 1) rest
    else match cutFrom pattern 0 rest with
      | [] => [[c]]
      | piece :: pieces => (c :: piece) :: pieces

/-- The pieces between the occurrences of `pattern`. An empty pattern cuts everywhere. -/
def cutChars (pattern text : List Char) : List (List Char) :=
  match pattern with
  | [] => [[]] ++ text.map (fun c => [c]) ++ [[]]
  | _ => cutFrom pattern 0 text

def containsChars (pattern : List Char) : List Char → Bool
  | [] => pattern.isEmpty
  | c :: rest => pattern.isPrefixOf (c :: rest) || containsChars pattern rest

def joinChars (sep : List Char) : List (List Char) → List Char
  | [] => []
  | [piece] => piece
  | piece :: pieces => piece ++ sep ++ joinChars sep pieces

def trimChars (drop : Char → Bool) (text : List Char) : List Char :=
  ((text.dropWhile drop).reverse.dropWhile drop).reverse

def split (sep : Char) (text : String) : List String :=
  (splitChars sep text.toList).map String.ofList

def splitLast (sep : Char) (text : String) : Option (String × String) :=
  (splitLastChars sep text.toList).map fun (before, after) =>
    (String.ofList before, String.ofList after)

def replace (pattern new text : String) : String :=
  String.ofList (replaceChars pattern.toList new.toList text.toList)

def cut (pattern text : String) : List String :=
  (cutChars pattern.toList text.toList).map String.ofList

def contains (pattern text : String) : Bool :=
  containsChars pattern.toList text.toList

def join (sep : String) (pieces : List String) : String :=
  String.ofList (joinChars sep.toList (pieces.map String.toList))

theorem splitChars_ne_nil (sep : Char) (text : List Char) : splitChars sep text ≠ [] := by
  induction text with
  | nil => simp [splitChars]
  | cons c rest ih =>
    unfold splitChars
    split
    · simp
    · split <;> simp

theorem joinChars_splitChars (sep : Char) (text : List Char) :
    joinChars [sep] (splitChars sep text) = text := by
  induction text with
  | nil => rfl
  | cons c rest ih =>
    unfold splitChars
    have hne := splitChars_ne_nil sep rest
    cases hs : splitChars sep rest with
    | nil => exact absurd hs hne
    | cons piece pieces =>
      rw [hs] at ih
      split
      · next h => simp [joinChars, ih, h]
      · cases pieces with
        | nil => simpa [joinChars] using ih
        | cons next more => simpa [joinChars] using ih

theorem not_mem_of_splitLastChars {sep : Char} {text : List Char}
    (h : splitLastChars sep text = none) : sep ∉ text := by
  induction text with
  | nil => exact List.not_mem_nil
  | cons c rest ih =>
    unfold splitLastChars at h
    split at h
    · cases h
    · next hrest =>
      split at h
      · cases h
      · next hc =>
        rw [List.mem_cons, not_or]
        exact ⟨Ne.symm hc, ih hrest⟩

theorem splitLastChars_eq_some {sep : Char} {text before after : List Char}
    (h : splitLastChars sep text = some (before, after)) :
    text = before ++ sep :: after ∧ sep ∉ after := by
  induction text generalizing before after with
  | nil => simp [splitLastChars] at h
  | cons c rest ih =>
    unfold splitLastChars at h
    split at h
    · next b a hr =>
      simp only [Option.some.injEq, Prod.mk.injEq] at h
      obtain ⟨rfl, rfl⟩ := h
      obtain ⟨h₁, h₂⟩ := ih hr
      exact ⟨by simp [h₁], h₂⟩
    · next hr =>
      split at h
      · next hc =>
        simp only [Option.some.injEq, Prod.mk.injEq] at h
        obtain ⟨rfl, rfl⟩ := h
        exact ⟨by simp [hc], not_mem_of_splitLastChars hr⟩
      · simp at h

end Modforge.Text
