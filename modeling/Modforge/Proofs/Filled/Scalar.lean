import Modforge.Proofs.Filled.Follow
import Modforge.Proofs.Numeral

/-! # Words, texts and numbers of a filled document -/

namespace Modforge

namespace Json

open Reading

section

variable {filling : TextFilling} {spent fuel : Nat}

/-! ## Texts -/

theorem readTextBelow_verbatim {letters : List Char} (h : ∀ c ∈ letters, isVerbatim c = true)
    {n : Nat} (hn : letters.length < n) (done rest : List Char) (place : Place) :
    ∃ place', readTextBelow n done ⟨letters ++ '"' :: rest, place⟩ =
      .done (String.ofList (done.reverse ++ letters)) ⟨rest, place'⟩ := by
  induction letters generalizing n done place with
  | nil =>
    obtain ⟨n, rfl⟩ := Nat.exists_eq_succ_of_ne_zero (Nat.ne_of_gt hn)
    exact ⟨place.after '"', by simp [readTextBelow]⟩
  | cons c letters ih =>
    obtain ⟨n, rfl⟩ := Nat.exists_eq_succ_of_ne_zero (Nat.ne_zero_of_lt hn)
    rw [List.forall_mem_cons] at h
    obtain ⟨hc, hletters⟩ := h
    simp only [isVerbatim, Bool.and_eq_true, bne_iff_ne, ne_eq, decide_eq_true_eq] at hc
    obtain ⟨⟨hquote, hbackslash⟩, hcontrol⟩ := hc
    obtain ⟨place', hread⟩ :=
      ih hletters (Nat.lt_of_succ_lt_succ hn) (c :: done) (place.after c)
    refine ⟨place', ?_⟩
    rw [List.cons_append, readTextBelow]
    simp only [if_neg hquote, if_neg hbackslash, if_neg (Nat.not_lt.2 hcontrol), hread,
      List.reverse_cons, List.append_assoc, List.singleton_append]

theorem readText_verbatim {letters : List Char} (h : ∀ c ∈ letters, isVerbatim c = true)
    (rest : List Char) (place : Place) :
    ∃ place', readText ⟨letters ++ '"' :: rest, place⟩ =
      .done (String.ofList letters) ⟨rest, place'⟩ :=
  readTextBelow_verbatim h (by simp only [List.length_append]; omega) [] rest place

/-- Both cursors are within a text, whose opening quote was taken. -/
def FilledText (filling : TextFilling) (spent fuel : Nat) (a b : Cursor) : Prop :=
  ∃ letters rest, a.rest = letters ++ '"' :: rest ∧
    b.rest = filling.fill letters ++ '"' :: filling.fill rest ∧
    (∀ c ∈ letters, isVerbatim c = true) ∧
    (token? rest = some ':' → ∀ c ∈ letters, filling.opens c = false) ∧
    Laid filling.opens rest ∧ 2 * b.rest.length + spent ≤ fuel

theorem follows_quote :
    Follows (FilledAt filling spent fuel (some '"')) skip skip
      fun _ _ => FilledText filling (spent + 2) fuel := by
  intro a b hab _ _ hdone
  obtain ⟨letters, rest, ha, hb, hletters, hkey, hlaid⟩ := hab.text
  have hlength := hab.1.length
  simp only [skip, ha] at hdone
  cases hdone
  rw [hb, List.length_cons] at hlength
  simp only [skip, hb]
  exact ⟨_, _, rfl, letters, rest, rfl, rfl, hletters, hkey, hlaid, by simp only; omega⟩

theorem follows_readText :
    Follows (FilledText filling spent fuel) readText readText
      fun v w a b => w = filling.text v ∧ (token? a.rest = some ':' → w = v) ∧
        Filled filling spent fuel a b := by
  rintro ⟨_, place⟩ ⟨_, place'⟩ ⟨letters, rest, rfl, rfl, hletters, hkey, hlaid, hlength⟩ v a' hdone
  obtain ⟨next, hread⟩ := readText_verbatim hletters rest place
  obtain ⟨next', hread'⟩ :=
    readText_verbatim (filling.isVerbatim_fill hletters) (filling.fill rest) place'
  rw [hread] at hdone
  cases hdone
  refine ⟨_, _, hread', ?_, fun hcolon => ?_, hlaid, rfl, ?_⟩
  · rw [TextFilling.text, String.toList_ofList]
  · rw [filling.fill_of_absent (hkey hcolon)]
  · simp only [List.length_append, List.length_cons] at hlength ⊢
    omega

/-! ## Numbers -/

theorem ne_quote_of_isDigit {c : Char} (h : Text.isDigit c = true) : c ≠ '"' := by
  rintro rfl
  cases h

abbrev Mapped (filling : TextFilling) (spent fuel : Nat) (v w : Json) (a b : Cursor) : Prop :=
  w = v.mapTexts filling.text ∧ Filled filling spent fuel a b

theorem takeDigits_fill {document : List Char} (hlaid : Laid filling.opens document)
    (limit n count : Nat) (place place' : Place) :
    ∃ result next next', takeDigits limit n count document place = (result, next) ∧
      takeDigits limit n count (filling.fill document) place' = (result, next') ∧
      Laid filling.opens next.rest ∧ next'.rest = filling.fill next.rest ∧
      next'.rest.length ≤ (filling.fill document).length := by
  -- digits end where a text begins, so what is within texts is never looked at
  induction hlaid generalizing n count place place' with
  | nil =>
    rw [filling.fill_nil]
    exact ⟨_, _, _, rfl, rfl, .nil, filling.fill_nil.symm, Nat.le_refl _⟩
  | @outside c rest hc hopens hrest ih =>
    rw [filling.fill_cons hopens]
    simp only [takeDigits]
    split
    · obtain ⟨result, next, next', h, h', hlaid, hfill, hlength⟩ :=
        ih (n * 10 + (c.toNat - 48)) (count + 1) (place.after c) (place'.after c)
      exact ⟨result, next, next', h, h', hlaid, hfill, Nat.le_succ_of_le hlength⟩
    · exact ⟨_, _, _, rfl, rfl, .outside hc hopens hrest, (filling.fill_cons hopens _).symm,
        Nat.le_refl _⟩
  | text hletters hkey hrest =>
    rw [filling.fill_text]
    exact ⟨_, _, _, rfl, rfl, .text hletters hkey hrest, (filling.fill_text _ _).symm,
      Nat.le_refl _⟩

theorem follows_readDigits (limit n : Nat) :
    Follows (Filled filling spent fuel) (readDigits limit n) (readDigits limit n)
      (Same fun _ => Filled filling spent fuel) := by
  rintro a b ⟨hlaid, hrest, hlength⟩ v a' hdone
  obtain ⟨result, next, next', h, h', hlaid', hrest', hlength'⟩ :=
    takeDigits_fill hlaid limit n 0 a.place b.place
  simp only [readDigits, h] at hdone
  cases hdone
  refine ⟨_, next', by simp only [readDigits, hrest, h'], rfl, hlaid', hrest', ?_⟩
  rw [hrest] at hlength
  omega

theorem follows_readDigits_at {c : Char} (hc : Text.isDigit c = true) {limit : Nat}
    (hlimit : 10 ≤ limit) :
    Follows (FilledAt filling spent fuel (some c)) (readDigits limit 0) (readDigits limit 0)
      (Same fun _ => Filled filling (spent + 2) fuel) := by
  intro a b hab v a' hdone
  obtain ⟨rest, ha, hb, hlaid⟩ := hab.outside (ne_quote_of_isDigit hc)
  have hlength := hab.1.length
  have hdigit := Text.isDigit_iff.1 hc
  have hfits : (Text.isDigit c && decide (0 * 10 + (c.toNat - 48) < limit)) = true := by
    rw [hc, Bool.true_and, decide_eq_true_eq]
    omega
  obtain ⟨result, next, next', h, h', hlaid', hrest', hlength'⟩ :=
    takeDigits_fill hlaid limit (0 * 10 + (c.toNat - 48)) 1 (a.place.after c) (b.place.after c)
  simp only [readDigits, ha, takeDigits, if_pos hfits, h] at hdone
  cases hdone
  refine ⟨_, next', by simp only [readDigits, hb, takeDigits, if_pos hfits, h'], rfl, hlaid',
    hrest', ?_⟩
  rw [hb, List.length_cons] at hlength
  omega

def DigitAhead (more : Bool) (a : Cursor) : Prop :=
  more = true → ∃ c, Text.isDigit c = true ∧ a.rest.head? = some c

theorem follows_peekDigit :
    Follows (Filled filling spent fuel) peekDigit peekDigit
      (Same fun more a b => Filled filling spent fuel a b ∧ DigitAhead more a) := by
  refine follows_peek.same fun next => ?_
  cases next with
  | none => exact .pure fun a b hab => ⟨rfl, hab.1, nofun⟩
  | some c => exact .pure fun a b hab => ⟨rfl, hab.1, fun hc => ⟨c, hc, hab.2⟩⟩

theorem follows_passDigit :
    Follows (fun a b => Filled filling spent fuel a b ∧ DigitAhead true a) skip skip
      (Same fun _ => Filled filling spent fuel) := by
  rintro a b ⟨hab, hdigit⟩
  obtain ⟨c, hc, hhead⟩ := hdigit rfl
  exact follows_pass (ne_quote_of_isDigit hc) ⟨hab, hhead⟩

theorem follows_optional {α : Type} {next : Option Char} {p : Prop} [Decidable p]
    (hp : p → ∃ c, next = some c ∧ c ≠ '"') {reading : Reading α}
    {after : α → α → Cursor → Cursor → Prop}
    (h : Follows (Filled filling spent fuel) reading reading after) :
    Follows (FilledAt filling spent fuel next) (if p then skip >>= fun _ => reading else reading)
      (if p then skip >>= fun _ => reading else reading) after := by
  refine .ite (fun hpos => ?_) fun _ => h.anywhere
  obtain ⟨c, rfl, hc⟩ := hp hpos
  exact (follows_pass hc).same fun _ => h

section

variable (negative : Bool) (digits : Nat) (exponent : Int)

theorem follows_finishFloat :
    Follows (Filled filling spent fuel) (finishFloat negative digits exponent)
      (finishFloat negative digits exponent) (Mapped filling spent fuel) := by
  unfold finishFloat
  cases floatOfParts? digits exponent with
  | none => exact .stop _
  | some x => exact .pure fun _ _ hab => ⟨rfl, hab⟩

theorem follows_readExponent {c : Char} (hc : c ≠ '"') :
    Follows (FilledAt filling spent fuel (some c)) (readExponent negative digits exponent)
      (readExponent negative digits exponent) (Mapped filling spent fuel) := by
  unfold readExponent
  refine (follows_pass hc).same fun _ => follows_peek.same fun sign => ?_
  refine follows_optional (fun hsign => ?_) (follows_peek.same fun next => ?_)
  · rw [Bool.or_eq_true, beq_iff_eq, beq_iff_eq] at hsign
    rcases hsign with rfl | rfl
    · exact ⟨_, rfl, by decide⟩
    · exact ⟨_, rfl, by decide⟩
  cases next with
  | none => exact .stop _
  | some d =>
    refine .ite (fun _ => .never fun _ _ _ h => by cases h) fun _ => ?_
    refine (follows_readDigits _ _).anywhere.same fun (n, _) =>
      follows_peekDigit.same fun more => ?_
    refine .ite (fun hmore => ?_) fun _ => ?_
    · subst hmore
      refine follows_passDigit.same fun _ => .ite (fun _ => .stop _) fun _ => ?_
      exact (follows_takeWhile rfl).same fun _ => .pure fun _ _ hab => ⟨rfl, hab⟩
    · exact (follows_finishFloat _ _ _).pre fun _ _ h => h.1

theorem follows_readFloatEnd :
    Follows (Filled filling spent fuel) (readFloatEnd negative digits exponent)
      (readFloatEnd negative digits exponent) (Mapped filling spent fuel) := by
  refine follows_peek.same fun next => ?_
  cases next with
  | none => exact (follows_finishFloat _ _ _).anywhere
  | some c =>
    refine .ite (fun hmark => follows_readExponent _ _ _ ?_) fun _ =>
      (follows_finishFloat _ _ _).anywhere
    rintro rfl
    cases hmark

theorem follows_readFraction {c : Char} (hc : c ≠ '"') :
    Follows (FilledAt filling spent fuel (some c)) (readFraction negative digits exponent)
      (readFraction negative digits exponent) (Mapped filling spent fuel) := by
  refine (follows_pass hc).same fun _ => (follows_readDigits _ _).same fun (n, count) =>
    follows_peekDigit.same fun more => ?_
  refine .pre ?_ fun _ _ h => h.1
  refine .ite (fun _ => (follows_takeWhile rfl).same fun _ => follows_readFloatEnd _ _ _)
    fun _ => .ite (fun _ => follows_peek.same fun next => ?_) fun _ => follows_readFloatEnd _ _ _
  cases next with
  | none => exact .stopAhead _
  | some d => exact .stopAhead _

theorem follows_whole (exponent : Nat) :
    Follows (Filled filling spent fuel) (readNumberEnd.whole negative digits exponent)
      (readNumberEnd.whole negative digits exponent) (Mapped filling spent fuel) := by
  exact .ite (fun _ => follows_finishFloat _ _ _) fun _ =>
    .ite (fun _ => .pure fun _ _ hab => ⟨rfl, hab⟩) fun _ =>
    .ite (fun _ => .pure fun _ _ hab => ⟨rfl, hab⟩) fun _ => .pure fun _ _ hab => ⟨rfl, hab⟩

theorem follows_readNumberEnd (exponent : Nat) :
    Follows (Filled filling spent fuel) (readNumberEnd negative digits exponent)
      (readNumberEnd negative digits exponent) (Mapped filling spent fuel) := by
  refine follows_peek.same fun next => ?_
  cases next with
  | none => exact (follows_whole _ _ _).anywhere
  | some c =>
    refine .ite (fun hpoint => ?_) fun _ => .ite (fun hmark => ?_) fun _ =>
      (follows_whole _ _ _).anywhere
    · exact follows_readFraction _ _ _ (hpoint ▸ by decide)
    · refine follows_readExponent _ _ _ ?_
      rintro rfl
      cases hmark

end

theorem follows_readNumber (negative : Bool) :
    Follows (Filled filling spent fuel) (readNumber negative) (readNumber negative)
      (Mapped filling (spent + 2) fuel) := by
  refine follows_peek.same fun next => ?_
  cases next with
  | none => exact .stop _
  | some c =>
    refine .ite (fun hzero => ?_) fun _ => .ite (fun hdigit => ?_) fun _ =>
      .never fun _ _ _ h => by cases h
    · refine (follows_skip (hzero ▸ by decide)).same fun _ => follows_peekDigit.same fun more => ?_
      refine .ite (fun _ => .stopAhead _) fun _ => ?_
      exact (follows_readNumberEnd _ _ _).pre fun _ _ h => h.1
    · exact (follows_readDigits_at hdigit (by decide)).same fun (n, _) =>
        (follows_takeWhile rfl).same fun more => follows_readNumberEnd _ _ _

end

end Json

end Modforge
