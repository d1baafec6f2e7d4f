import Modforge.Json.Parse

/-!
# Documents whose texts are filled

Marks that stand within the texts of a document are filled in. It is said here what a filling may
do to a document, where its marks may stand, and what becomes of the value of the document;
nothing is said of how either is read.
-/

namespace Modforge

namespace Json

/-! ## Values -/

mutual

/-- The value with every text in it changed, keys too. -/
def mapTexts (change : String → String) : Json → Json
  | .text value => .text (change value)
  | .list items => .list (mapItems change items)
  | .object entries => .object (mapEntries change entries)
  | value => value

def mapItems (change : String → String) : List Json → List Json
  | [] => []
  | item :: rest => item.mapTexts change :: mapItems change rest

def mapEntries (change : String → String) : List (String × Json) → List (String × Json)
  | [] => []
  | (key, value) :: rest => (change key, value.mapTexts change) :: mapEntries change rest

end

/-! ## Documents -/

/-- Whether a letter of a text is written as it is. -/
def isVerbatim (c : Char) : Bool := c != '"' && c != '\\' && 32 ≤ c.toNat

def token? (document : List Char) : Option Char := (document.dropWhile Reading.isBlank).head?

/-- Marks begin with letters of their own. They stand within texts, which are written as they are,
and no key has one. -/
inductive Laid (opens : Char → Bool) : List Char → Prop
  | nil : Laid opens []
  | outside {c : Char} {rest : List Char} (hquote : c ≠ '"') (hopens : opens c = false)
    (hrest : Laid opens rest) : Laid opens (c :: rest)
  | text {letters rest : List Char} (hletters : ∀ c ∈ letters, isVerbatim c = true)
    (hkey : token? rest = some ':' → ∀ c ∈ letters, opens c = false)
    (hrest : Laid opens rest) : Laid opens ('"' :: (letters ++ '"' :: rest))

theorem Laid.mono {opens opens' : Char → Bool} (h : ∀ c, opens' c = true → opens c = true)
    {document : List Char} (hlaid : Laid opens document) : Laid opens' document := by
  have hclosed {c : Char} (hc : opens c = false) : opens' c = false :=
    Bool.eq_false_iff.2 fun hopen => Bool.eq_false_iff.1 hc (h c hopen)
  induction hlaid with
  | nil => exact .nil
  | outside hquote hopens _ ih => exact .outside hquote (hclosed hopens) ih
  | text hletters hkey _ ih =>
    exact .text hletters (fun hcolon c hc => hclosed (hkey hcolon c hc)) ih

/-- Marks are filled one by one. No mark goes on past a quote, and what is filled in can be written
as it is. -/
structure TextFilling where
  fill : List Char → List Char
  opens : Char → Bool
  fill_nil : fill [] = []
  fill_cons {c : Char} (h : opens c = false) (rest : List Char) :
    fill (c :: rest) = c :: fill rest
  fill_quote (letters rest : List Char) :
    fill (letters ++ '"' :: rest) = fill letters ++ '"' :: fill rest
  isVerbatim_fill {letters : List Char} (h : ∀ c ∈ letters, isVerbatim c = true) :
    ∀ c ∈ fill letters, isVerbatim c = true

namespace TextFilling

def text (filling : TextFilling) (value : String) : String :=
  String.ofList (filling.fill value.toList)

def andThen (first second : TextFilling) : TextFilling where
  fill letters := second.fill (first.fill letters)
  opens c := first.opens c || second.opens c
  fill_nil := by rw [first.fill_nil, second.fill_nil]
  fill_cons {c} h rest := by
    rw [Bool.or_eq_false_iff] at h
    rw [first.fill_cons h.1, second.fill_cons h.2]
  fill_quote letters rest := by rw [first.fill_quote, second.fill_quote]
  isVerbatim_fill h := second.isVerbatim_fill (first.isVerbatim_fill h)

theorem text_andThen (first second : TextFilling) (value : String) :
    (first.andThen second).text value = second.text (first.text value) := by
  simp [text, andThen]

variable (filling : TextFilling)

theorem fill_of_absent {letters : List Char} (h : ∀ c ∈ letters, filling.opens c = false) :
    filling.fill letters = letters := by
  induction letters with
  | nil => exact filling.fill_nil
  | cons c rest ih =>
    rw [List.forall_mem_cons] at h
    rw [filling.fill_cons h.1, ih h.2]

theorem fill_text (letters rest : List Char) :
    filling.fill ('"' :: (letters ++ '"' :: rest)) =
      '"' :: (filling.fill letters ++ '"' :: filling.fill rest) := by
  have hquote := filling.fill_quote [] (letters ++ '"' :: rest)
  rwa [filling.fill_nil, List.nil_append, List.nil_append, filling.fill_quote] at hquote

end TextFilling

/-! ## Laid documents can be told -/

/-- Whether a document goes on as it should, outside of texts or within one, which may have a mark
already. -/
def isLaid (opens : Char → Bool) : Option Bool → List Char → Bool
  | none, [] => true
  | some _, [] => false
  | none, c :: rest =>
    if c = '"' then isLaid opens (some false) rest else !opens c && isLaid opens none rest
  | some marked, c :: rest =>
    if c = '"' then !(marked && token? rest == some ':') && isLaid opens none rest
    else isVerbatim c && isLaid opens (some (marked || opens c)) rest

theorem laid_of_isLaid {opens : Char → Bool} {document : List Char} :
    (isLaid opens none document = true → Laid opens document) ∧
      ∀ marked, isLaid opens (some marked) document = true →
        ∃ letters rest, document = letters ++ '"' :: rest ∧
          (∀ c ∈ letters, isVerbatim c = true) ∧
          (token? rest = some ':' → marked = false ∧ ∀ c ∈ letters, opens c = false) ∧
          Laid opens rest := by
  induction document with
  | nil => exact ⟨fun _ => .nil, fun _ h => by cases h⟩
  | cons c more ih =>
    obtain ⟨houtside, hwithin⟩ := ih
    constructor
    · intro h
      rw [isLaid] at h
      split at h
      · next hc =>
        obtain ⟨letters, rest, rfl, hletters, hkey, hrest⟩ := hwithin false h
        exact hc ▸ .text hletters (fun hcolon => (hkey hcolon).2) hrest
      · next hc =>
        rw [Bool.and_eq_true, Bool.not_eq_true'] at h
        exact .outside hc h.1 (houtside h.2)
    · intro marked h
      rw [isLaid] at h
      split at h
      · next hc =>
        rw [Bool.and_eq_true] at h
        refine ⟨[], more, by rw [hc, List.nil_append], by simp, fun hcolon => ?_, houtside h.2⟩
        simpa [hcolon] using h.1
      · rw [Bool.and_eq_true] at h
        obtain ⟨letters, rest, rfl, hletters, hkey, hrest⟩ := hwithin _ h.2
        refine ⟨c :: letters, rest, rfl, List.forall_mem_cons.2 ⟨h.1, hletters⟩, ?_, hrest⟩
        intro hcolon
        obtain ⟨hmarked, hopens⟩ := hkey hcolon
        rw [Bool.or_eq_false_iff] at hmarked
        exact ⟨hmarked.1, List.forall_mem_cons.2 ⟨hmarked.2, hopens⟩⟩

end Json

end Modforge
