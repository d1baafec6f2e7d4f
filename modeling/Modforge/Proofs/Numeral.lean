import Modforge.Text.Digits

/-! # Numerals -/

namespace Modforge.Text

theorem isDigit_iff {c : Char} : isDigit c = true ↔ 48 ≤ c.toNat ∧ c.toNat ≤ 57 := by
  rw [isDigit, Bool.and_eq_true, decide_eq_true_iff, decide_eq_true_iff]
  exact Iff.rfl

theorem digitChar_of_isDigit {c : Char} (h : isDigit c = true) :
    Nat.digitChar (c.toNat - 48) = c := by
  have hrange := isDigit_iff.1 h
  apply Char.toNat_inj.1
  rw [Nat.toNat_digitChar_of_lt_ten (by omega)]
  omega

theorem hexValue?_of_isDigit {c : Char} (h : isDigit c = true) :
    hexValue? c = some (c.toNat - 48) := by
  rw [hexValue?, if_pos h]

theorem isDigit_digitChar {d : Nat} (h : d < 10) : isDigit (Nat.digitChar d) = true := by
  rw [isDigit_iff, Nat.toNat_digitChar_of_lt_ten h]
  omega

theorem isDigit_of_mem_toDigits {n : Nat} {c : Char} (h : c ∈ Nat.toDigits 10 n) :
    isDigit c = true := by
  have hdigit := Nat.isDigit_of_mem_toDigits (by decide) (by decide) h
  rw [Char.isDigit, Bool.and_eq_true, decide_eq_true_iff, decide_eq_true_iff] at hdigit
  exact isDigit_iff.2 hdigit

theorem valueOfDigits_toDigits (n : Nat) : valueOfDigits (Nat.toDigits 10 n) = n := by
  induction n using Nat.strongRecOn with
  | _ n ih =>
    have hvalue {d : Nat} (hd : d < 10) : (hexValue? (Nat.digitChar d)).getD 0 = d := by
      rw [hexValue?_of_isDigit (isDigit_digitChar hd), Nat.toNat_digitChar_of_lt_ten hd]
      simp
    by_cases hn : n < 10
    · rw [Nat.toDigits_of_lt_base hn]
      simpa [valueOfDigits, valueIn] using hvalue hn
    · have hfront := ih (n / 10) (by omega)
      rw [valueOfDigits] at hfront
      rw [Nat.toDigits_of_base_le (by decide) (by omega), valueOfDigits, valueIn_concat, hfront,
        hvalue (Nat.mod_lt n (by decide))]
      omega

theorem head?_toDigits_ne_zero {n : Nat} (h : 0 < n) : (Nat.toDigits 10 n).head? ≠ some '0' := by
  induction n using Nat.strongRecOn with
  | _ n ih =>
    by_cases hn : n < 10
    · rw [Nat.toDigits_of_lt_base hn, List.head?_cons, ne_eq, Option.some.injEq]
      intro hzero
      have hcode := congrArg Char.toNat hzero
      rw [Nat.toNat_digitChar_of_lt_ten hn, show '0'.toNat = 48 from rfl] at hcode
      omega
    · have hfront := ih (n / 10) (by omega) (by omega)
      rw [Nat.toDigits_of_base_le (by decide) (by omega)]
      cases hdigits : Nat.toDigits 10 (n / 10) with
      | nil => exact absurd hdigits Nat.toDigits_ne_nil
      | cons c rest =>
        rw [hdigits] at hfront
        exact hfront

structure IsNumeral (digits : List Char) : Prop where
  ne_nil : digits ≠ []
  head : digits.head? ≠ some '0'
  digit : ∀ c ∈ digits, isDigit c = true

theorem isNumeral_toDigits {n : Nat} (h : 0 < n) : IsNumeral (Nat.toDigits 10 n) :=
  ⟨Nat.toDigits_ne_nil, head?_toDigits_ne_zero h, fun _ => isDigit_of_mem_toDigits⟩

theorem toDigits_append {n : Nat} (hn : 0 < n) {digits : List Char}
    (hdigits : ∀ c ∈ digits, isDigit c = true) :
    ∃ m, 0 < m ∧ Nat.toDigits 10 n ++ digits = Nat.toDigits 10 m := by
  induction digits generalizing n with
  | nil => exact ⟨n, hn, List.append_nil _⟩
  | cons c rest ih =>
    obtain ⟨hc, hrest⟩ := List.forall_mem_cons.1 hdigits
    have hd : c.toNat - 48 < 10 := by
      have hrange := isDigit_iff.1 hc
      omega
    have hnext := Nat.toDigits_append_toDigits (by decide : 1 < 10) hn hd
    rw [Nat.toDigits_of_lt_base hd, digitChar_of_isDigit hc] at hnext
    obtain ⟨m, hm, heq⟩ := ih (n := 10 * n + (c.toNat - 48)) (by omega) hrest
    exact ⟨m, hm, by rw [← heq, ← hnext, List.append_assoc, List.singleton_append]⟩

theorem IsNumeral.exists_toDigits {digits : List Char} (h : IsNumeral digits) :
    ∃ n, 0 < n ∧ digits = Nat.toDigits 10 n := by
  cases digits with
  | nil => exact absurd rfl h.ne_nil
  | cons c rest =>
    obtain ⟨hc, hrest⟩ := List.forall_mem_cons.1 h.digit
    have hrange := isDigit_iff.1 hc
    have hpos : 0 < c.toNat - 48 := by
      have hne : c.toNat ≠ '0'.toNat := fun he => h.head (congrArg some (Char.toNat_inj.1 he))
      rw [show '0'.toNat = 48 from rfl] at hne
      omega
    obtain ⟨n, hn, heq⟩ := toDigits_append hpos hrest
    rw [Nat.toDigits_of_lt_base (by omega), digitChar_of_isDigit hc] at heq
    exact ⟨n, hn, heq⟩

end Modforge.Text
