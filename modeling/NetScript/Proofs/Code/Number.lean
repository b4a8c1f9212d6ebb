import Mathlib.Data.List.TakeWhile
import NetScript.Code.Number
import NetScript.Proofs.Decimal.Shortest

/-!
This module contains the number literals of finite numbers. Such a literal has the digits of the
magnitude behind its sign, maybe with a point among them, and it determines the number.
-/

namespace NetScript

namespace Decimal

theorem isDigit_of_mem_padded {d : Decimal} {zeros : ℕ} {c : Char}
    (h : c ∈ List.replicate zeros '0' ++ d.digits) : c.isDigit := by
  rcases List.mem_append.mp h with hzero | hdigit
  · rw [List.eq_of_mem_replicate hzero]
    rfl
  · exact Nat.isDigit_of_mem_toDigits (by decide) (by decide) hdigit

theorem positional_cases (d : Decimal) :
    (0 ≤ d.exponent ∧ d.positional = d.digits ++ List.replicate d.exponent.toNat '0') ∨
    ∃ whole fraction zeros, d.positional = whole ++ '.' :: fraction ∧ whole ≠ [] ∧ fraction ≠ [] ∧
      whole ++ fraction = List.replicate zeros '0' ++ d.digits ∧
      d.exponent = -fraction.length := by
  have hne : d.digits ≠ [] := Nat.toDigits_ne_nil
  unfold positional
  dsimp only
  split
  · next h => exact .inl ⟨h, rfl⟩
  · split
    · next hlt =>
      refine .inr ⟨_, _, 0, rfl, ?_, ?_, ?_, ?_⟩
      · rw [ne_eq, List.take_eq_nil_iff, not_or]
        exact ⟨by omega, hne⟩
      · rw [ne_eq, List.drop_eq_nil_iff]
        omega
      · rw [List.take_append_drop]
        rfl
      · rw [List.length_drop]
        omega
    · refine .inr ⟨['0'], _, 1 + ((-d.exponent).toNat - d.digits.length), rfl, by simp, ?_, ?_, ?_⟩
      · simp [hne]
      · simp [List.replicate_add]
      · simp
        omega

theorem isDigit_of_mem_positional {d : Decimal} {c : Char} (h : c ∈ d.positional) :
    c.isDigit ∨ c = '.' := by
  rcases d.positional_cases with ⟨_, heq⟩ | ⟨whole, fraction, zeros, heq, _, _, hdigits, _⟩
  · rw [heq, List.mem_append] at h
    exact .inl (isDigit_of_mem_padded (d := d) (List.mem_append.mpr h.symm))
  · rw [heq, List.mem_append, List.mem_cons] at h
    rcases h with hwhole | rfl | hfraction
    · exact .inl (isDigit_of_mem_padded (hdigits ▸ List.mem_append_left _ hwhole))
    · exact .inr rfl
    · exact .inl (isDigit_of_mem_padded (hdigits ▸ List.mem_append_right _ hfraction))

def positionalValue (cs : List Char) : ℚ :=
  Nat.ofDigitChars 10 (cs.filter (· ≠ '.')) 0 / 10 ^ (cs.dropWhile (· ≠ '.')).tail.length

theorem positionalValue_positional (d : Decimal) : positionalValue d.positional = d.value := by
  have hvalue : Nat.ofDigitChars 10 d.digits 0 = d.significand := Nat.ofDigitChars_ten_toDigits
  -- The point is no digit, so it is found where it was put.
  have hpoint (cs : List Char) (zeros : ℕ)
      (h : ∀ c ∈ cs, c ∈ List.replicate zeros '0' ++ d.digits) : ∀ c ∈ cs, decide (c ≠ '.') := by
    intro c hc
    rw [decide_eq_true_eq]
    rintro rfl
    have hdigit := isDigit_of_mem_padded (h '.' hc)
    contradiction
  rcases d.positional_cases with
    ⟨hexponent, heq⟩ | ⟨whole, fraction, zeros, heq, _, _, hdigits, hexponent⟩
  · obtain ⟨n, hn⟩ := Int.eq_ofNat_of_zero_le hexponent
    rw [hn, Int.toNat_natCast] at heq
    have hno := hpoint (d.digits ++ List.replicate n '0') n
      fun c hc => List.mem_append.mpr (List.mem_append.mp hc).symm
    rw [positionalValue, heq, List.filter_eq_self.mpr hno, List.dropWhile_eq_nil_iff.mpr hno,
      Nat.ofDigitChars_append, Nat.ofDigitChars_replicate_zero, hvalue, value, hn, zpow_natCast]
    simp [mul_comm]
  · have hwhole := hpoint whole zeros fun c hc => by
      rw [← hdigits]
      exact List.mem_append_left _ hc
    have hfraction := hpoint fraction zeros fun c hc => by
      rw [← hdigits]
      exact List.mem_append_right _ hc
    have hfilter : (whole ++ '.' :: fraction).filter (· ≠ '.') =
        List.replicate zeros '0' ++ d.digits := by
      rw [List.filter_append, List.filter_eq_self.mpr hwhole,
        List.filter_cons_of_neg (by simp), List.filter_eq_self.mpr hfraction, hdigits]
    rw [positionalValue, heq, hfilter, List.dropWhile_append_of_pos hwhole,
      List.dropWhile_cons_of_neg (by simp), List.tail_cons, Nat.ofDigitChars_append,
      Nat.ofDigitChars_replicate_zero, Nat.mul_zero, hvalue, value, hexponent, zpow_neg,
      zpow_natCast, div_eq_mul_inv]

end Decimal

namespace Code

theorem toList_number {x : Binary64} (hx : x.isFinite) :
    (number x).toList = if x.isNegative then '-' :: (Decimal.shortest .up x).positional
      else (Decimal.shortest .up x).positional := by
  have hlt : x.magnitude < Binary64.infiniteMagnitude := of_decide_eq_true hx
  have hnan : x.isNaN = false := decide_eq_false (by omega)
  have hinfinite : x.isInfinite = false := decide_eq_false (by omega)
  rw [number, String.toList_ofList, NumberFormat.render, if_neg (by simp [hnan]),
    if_neg (by simp [hinfinite]), numberFormat_finite]
  rfl

theorem eq_of_number_eq {x y : Binary64} (hx : x.isFinite) (hy : y.isFinite)
    (h : number x = number y) : x = y := by
  -- A minus is no digit, so the sign can be told from the magnitude.
  have hsign {d : Decimal} {cs : List Char} : d.positional ≠ '-' :: cs := by
    intro hcs
    have hminus := d.isDigit_of_mem_positional (c := '-') (by rw [hcs]; exact List.mem_cons_self)
    simp at hminus
  have hsame {d d' : Decimal} (heq : d.positional = d'.positional) : d.value = d'.value := by
    rw [← d.positionalValue_positional, heq, d'.positionalValue_positional]
  have hlist : (number x).toList = (number y).toList := by rw [h]
  rw [toList_number hx, toList_number hy] at hlist
  obtain ⟨hnegative, hpositional⟩ : x.isNegative = y.isNegative ∧
      (Decimal.shortest .up x).positional = (Decimal.shortest .up y).positional := by
    split at hlist <;> split at hlist
    · next hx hy => exact ⟨hx.trans hy.symm, List.tail_eq_of_cons_eq hlist⟩
    · exact absurd hlist.symm hsign
    · exact absurd hlist hsign
    · next hx hy =>
      rw [Bool.not_eq_true] at hx hy
      exact ⟨hx.trans hy.symm, hlist⟩
  rw [← x.ofMagnitude_magnitude, ← y.ofMagnitude_magnitude, hnegative,
    Decimal.magnitude_eq_of_value_eq (hsame hpositional)]

end Code

end NetScript
