import Mathlib.Algebra.Order.Field.Power
import Mathlib.Data.Rat.Cast.Order
import Mathlib.Tactic.Positivity
import Mathlib.Tactic.Ring
import Mathlib.Tactic.Linarith
import NetScript.Decimal.Shortest

/-!
This module contains the shortest decimals. The decimal of a number lies in the interval around it,
even if all the coarser grids have no point there, and no two intervals have a point in common. A
number is therefore determined by its decimal.
-/

namespace NetScript

namespace Decimal

def value (d : Decimal) : ℚ :=
  d.significand * 10 ^ d.exponent

theorem value_strip (d : Decimal) : d.strip.value = d.value := by
  obtain ⟨zeros, hsignificand, hexponent⟩ := d.strip_eq
  unfold value
  rw [hsignificand, hexponent, zpow_add₀ (by norm_num), zpow_natCast]
  push_cast [Nat.pow_eq]
  ring

theorem pow_toNat {b : ℚ} (hb : b ≠ 0) (e : ℤ) : b ^ e.toNat = b ^ e * b ^ (-e).toNat := by
  rw [← zpow_natCast, ← zpow_natCast, ← zpow_add₀ hb]
  congr 1
  omega

namespace Interval

def lowEnd (i : Interval) : ℚ :=
  i.low * 2 ^ i.exponent

def center (i : Interval) : ℚ :=
  i.value * 2 ^ i.exponent

def highEnd (i : Interval) : ℚ :=
  i.high * 2 ^ i.exponent

def Covers (i : Interval) (q : ℚ) : Prop :=
  if i.closed then i.lowEnd ≤ q ∧ q ≤ i.highEnd else i.lowEnd < q ∧ q < i.highEnd

variable {i : Interval} {e : ℤ} {q : ℚ}

theorem Covers.lowEnd_le (h : i.Covers q) : i.lowEnd ≤ q := by
  unfold Covers at h
  split at h
  · exact h.1
  · exact h.1.le

theorem Covers.le_highEnd (h : i.Covers q) : q ≤ i.highEnd := by
  unfold Covers at h
  split at h
  · exact h.2
  · exact h.2.le

theorem Covers.closed (h : i.Covers q) (hend : q = i.lowEnd ∨ q = i.highEnd) : i.closed := by
  by_contra hopen
  rw [Covers, if_neg hopen] at h
  rcases hend with rfl | rfl
  · exact lt_irrefl _ h.1
  · exact lt_irrefl _ h.2

theorem covers_of_lt (hlow : i.lowEnd < q) (hhigh : q < i.highEnd) : i.Covers q := by
  unfold Covers
  split
  · exact ⟨hlow.le, hhigh.le⟩
  · exact ⟨hlow, hhigh⟩

/-! The grids. Points and quarters are compared by their multiples of a common measure. -/

theorem exists_common (i : Interval) (e : ℤ) : ∃ common : ℚ, 0 < common ∧
    ((i.scales e).1 : ℚ) = 10 ^ e * common ∧ ((i.scales e).2 : ℚ) = 2 ^ i.exponent * common := by
  -- The common measure takes away the negative exponents.
  refine ⟨10 ^ (-e).toNat * 2 ^ (-i.exponent).toNat, by positivity, ?_, ?_⟩
  · simp only [scales, Nat.pow_eq, Nat.shiftLeft_eq]
    push_cast
    rw [pow_toNat (by norm_num) e]
    ring
  · simp only [scales, Nat.pow_eq, Nat.shiftLeft_eq]
    push_cast
    rw [pow_toNat (by norm_num) i.exponent]
    ring

theorem scales_pos (i : Interval) (e : ℤ) : 0 < (i.scales e).1 := by
  obtain ⟨common, hpos, hstep, -⟩ := exists_common i e
  have hcast : (0 : ℚ) < (i.scales e).1 := by
    rw [hstep]
    positivity
  exact_mod_cast hcast

theorem le_point_iff {a p : ℕ} : a * (i.scales e).2 ≤ p * (i.scales e).1 ↔
    (a : ℚ) * 2 ^ i.exponent ≤ p * 10 ^ e := by
  obtain ⟨common, hpos, hstep, hquarter⟩ := exists_common i e
  rw [← Nat.cast_le (α := ℚ)]
  push_cast
  rw [hstep, hquarter, ← mul_assoc, ← mul_assoc, mul_le_mul_iff_left₀ hpos]

theorem point_le_iff {a p : ℕ} : p * (i.scales e).1 ≤ a * (i.scales e).2 ↔
    (p : ℚ) * 10 ^ e ≤ a * 2 ^ i.exponent := by
  obtain ⟨common, hpos, hstep, hquarter⟩ := exists_common i e
  rw [← Nat.cast_le (α := ℚ)]
  push_cast
  rw [hstep, hquarter, ← mul_assoc, ← mul_assoc, mul_le_mul_iff_left₀ hpos]

theorem contains_iff {point : ℕ} : i.contains e point ↔ i.Covers (point * 10 ^ e) := by
  unfold contains Covers lowEnd highEnd
  dsimp only
  split
  · rw [Bool.and_eq_true, decide_eq_true_eq, decide_eq_true_eq, le_point_iff, point_le_iff]
  · rw [Bool.and_eq_true, decide_eq_true_eq, decide_eq_true_eq, ← not_le, ← not_le, ← not_le,
      ← not_le, le_point_iff, point_le_iff]

theorem floor_le (i : Interval) (e : ℤ) : (i.floor e : ℚ) * 10 ^ e ≤ i.center :=
  point_le_iff.mp (Nat.div_mul_le_self _ _)

theorem nearest_cases (tie : Tie) (i : Interval) (e : ℤ) :
    (i.nearest tie e = i.floor e ∧
      2 * (i.value * (i.scales e).2 % (i.scales e).1) ≤ (i.scales e).1) ∨
    (i.nearest tie e = i.floor e + 1 ∧
      (i.scales e).1 ≤ 2 * (i.value * (i.scales e).2 % (i.scales e).1)) := by
  have hfloor : i.floor e = i.value * (i.scales e).2 / (i.scales e).1 := rfl
  have hsplit := Nat.div_add_mod (i.value * (i.scales e).2) (i.scales e).1
  have hnext : (i.floor e + 1) * (i.scales e).1 = i.floor e * (i.scales e).1 + (i.scales e).1 :=
    Nat.succ_mul _ _
  rw [← hfloor, Nat.mul_comm] at hsplit
  unfold nearest
  dsimp only
  split
  · exact .inl ⟨rfl, by omega⟩
  · split
    · exact .inr ⟨rfl, by omega⟩
    · cases tie with
      | toEven =>
        dsimp only
        split
        · exact .inl ⟨rfl, by omega⟩
        · exact .inr ⟨rfl, by omega⟩
      | up => exact .inr ⟨rfl, by omega⟩

theorem nearest_scaled (tie : Tie) (i : Interval) (e : ℤ) :
    2 * (i.value * (i.scales e).2) ≤ (2 * i.nearest tie e + 1) * (i.scales e).1 ∧
    (2 * i.nearest tie e) * (i.scales e).1 ≤ 2 * (i.value * (i.scales e).2) + (i.scales e).1 := by
  have hfloor : i.floor e = i.value * (i.scales e).2 / (i.scales e).1 := rfl
  have hsplit := Nat.div_add_mod (i.value * (i.scales e).2) (i.scales e).1
  -- In terms of the multiples of the step all that follows is linear.
  have hmultiple (p : ℕ) :
      (2 * p + 1) * (i.scales e).1 = 2 * (p * (i.scales e).1) + (i.scales e).1 ∧
        2 * p * (i.scales e).1 = 2 * (p * (i.scales e).1) := ⟨by ring, by ring⟩
  have hnext : (i.floor e + 1) * (i.scales e).1 = i.floor e * (i.scales e).1 + (i.scales e).1 :=
    Nat.succ_mul _ _
  rw [← hfloor, Nat.mul_comm] at hsplit
  rw [(hmultiple _).1, (hmultiple _).2]
  rcases nearest_cases tie i e with ⟨heq, hle⟩ | ⟨heq, hle⟩
  · rw [heq]
    omega
  · have hlt := Nat.mod_lt (i.value * (i.scales e).2) (scales_pos i e)
    rw [heq, hnext]
    omega

theorem nearest_near (tie : Tie) (i : Interval) (e : ℤ) :
    i.center - 10 ^ e / 2 ≤ i.nearest tie e * 10 ^ e ∧
    i.nearest tie e * 10 ^ e ≤ i.center + 10 ^ e / 2 := by
  obtain ⟨common, hpos, hstep, hquarter⟩ := exists_common i e
  obtain ⟨hlow, hhigh⟩ := nearest_scaled tie i e
  rw [← Nat.cast_le (α := ℚ)] at hlow hhigh
  push_cast at hlow hhigh
  rw [hstep, hquarter] at hlow hhigh
  have hlow' : 2 * i.center * common ≤ (2 * i.nearest tie e * 10 ^ e + 10 ^ e) * common := by
    rw [center]
    linarith
  have hhigh' : 2 * i.nearest tie e * 10 ^ e * common ≤ (2 * i.center + 10 ^ e) * common := by
    rw [center]
    linarith
  have hlow'' := le_of_mul_le_mul_right hlow' hpos
  have hhigh'' := le_of_mul_le_mul_right hhigh' hpos
  constructor <;> linarith

theorem covers_of_hit? {tie : Tie} {point : ℕ} (h : i.hit? tie e = some point) :
    i.Covers (point * 10 ^ e) := by
  rw [← contains_iff]
  unfold hit? at h
  dsimp only at h
  split at h
  · next hbelow habove =>
    cases h
    rcases nearest_cases tie i e with ⟨heq, _⟩ | ⟨heq, _⟩
    · rwa [heq]
    · rwa [heq]
  · cases h
    assumption
  · cases h
    assumption
  · cases h

theorem covers_search {tie : Tie} {count : ℕ}
    (hlow : i.lowEnd < i.center - 10 ^ (e - count) / 2)
    (hhigh : i.center + 10 ^ (e - count) / 2 < i.highEnd) :
    i.Covers (i.search tie e count).value := by
  induction count generalizing e with
  | zero =>
    -- On the last grid the nearest point is taken unseen, and it is near enough.
    obtain ⟨habove, hbelow⟩ := nearest_near tie i e
    rw [Nat.cast_zero, sub_zero] at hlow hhigh
    exact covers_of_lt (hlow.trans_le habove) (hbelow.trans_lt hhigh)
  | succ count ih =>
    rw [search]
    split
    · next hhit => exact covers_of_hit? hhit
    · have hgrid : e - (count + 1 : ℕ) = e - 1 - count := by
        push_cast
        ring
      rw [hgrid] at hlow hhigh
      exact ih hlow hhigh

/-! The first grid -/

theorem pow_length_toDigits_le {n : ℕ} (h : n ≠ 0) : 10 ^ ((Nat.toDigits 10 n).length - 1) ≤ n := by
  by_contra hlt
  by_cases hone : (Nat.toDigits 10 n).length - 1 = 0
  · rw [hone, pow_zero] at hlt
    omega
  · have hle := (Nat.length_toDigits_le_iff (by decide) (Nat.pos_of_ne_zero hone)).mpr
      (Nat.lt_of_not_le hlt)
    omega

theorem floor_fineGrid_ne_zero (h : 10 ^ (-324 : ℤ) ≤ i.center) : i.floor i.fineGrid ≠ 0 := by
  unfold fineGrid
  split
  · assumption
  · split
    · assumption
    -- The last grid is finer than the smallest number.
    · have hle : 1 * (i.scales (-324)).1 ≤ i.value * (i.scales (-324)).2 := by
        rw [point_le_iff, Nat.cast_one, one_mul]
        exact h
      rw [one_mul] at hle
      exact (Nat.div_pos hle (scales_pos i (-324))).ne'

theorem le_center (h : 10 ^ (-324 : ℤ) ≤ i.center) : 10 ^ (i.magnitude - 1) ≤ i.center := by
  have hne := floor_fineGrid_ne_zero h
  have hlength : 0 < (Nat.toDigits 10 (i.floor i.fineGrid)).length :=
    List.length_pos_iff.mpr Nat.toDigits_ne_nil
  have hdigits : (10 : ℚ) ^ ((Nat.toDigits 10 (i.floor i.fineGrid)).length - 1) ≤
      i.floor i.fineGrid := by
    exact_mod_cast pow_length_toDigits_le hne
  calc (10 : ℚ) ^ (i.magnitude - 1)
    _ = 10 ^ ((Nat.toDigits 10 (i.floor i.fineGrid)).length - 1) * 10 ^ i.fineGrid := by
      rw [← zpow_natCast, ← zpow_add₀ (by norm_num), magnitude]
      congr 1
      omega
    _ ≤ i.floor i.fineGrid * 10 ^ i.fineGrid := by gcongr
    _ ≤ i.center := floor_le i _

end Interval

open NetScript.Decimal.Interval

/-! Seventeen digits -/

theorem significand_pos {x : Binary64} (h : x.isZero = false) : 0 < x.significand := by
  have hne : x.magnitude ≠ 0 := of_decide_eq_false h
  unfold Binary64.significand
  split
  · omega
  · simp only [Binary64.hiddenBit]
    omega

theorem significand_lt (x : Binary64) : x.significand < 2 * Binary64.hiddenBit := by
  unfold Binary64.significand
  simp only [Binary64.hiddenBit]
  split <;> omega

theorem exponent_ge (x : Binary64) : -1074 ≤ x.exponent := by
  unfold Binary64.exponent
  simp only [Binary64.hiddenBit]
  split <;> omega

theorem le_center_around {x : Binary64} (h : x.isZero = false) :
    10 ^ (-324 : ℤ) ≤ (around x).center := by
  have hone : (1 : ℚ) ≤ x.significand := by exact_mod_cast significand_pos h
  have hpow : (2 : ℚ) ^ (-1076 : ℤ) ≤ 2 ^ (x.exponent - 2) := by
    apply zpow_le_zpow_right₀ (by norm_num)
    have := exponent_ge x
    omega
  -- Powers of ten and of two are compared by their sixth roots, which are small enough.
  calc (10 : ℚ) ^ (-324 : ℤ)
    _ = (10 ^ (-54 : ℤ)) ^ 6 := by
      rw [← zpow_natCast, ← zpow_mul]
      rfl
    _ ≤ (2 ^ (-179 : ℤ)) ^ 6 := pow_le_pow_left₀ (by positivity) (by norm_num) 6
    _ = 4 * 2 ^ (-1076 : ℤ) := by
      have hfour : (4 : ℚ) = 2 ^ (2 : ℤ) := by norm_num
      rw [← zpow_natCast, ← zpow_mul, hfour, ← zpow_add₀ (by norm_num)]
      rfl
    _ ≤ 4 * x.significand * 2 ^ (x.exponent - 2) := by
      have : (4 : ℚ) * 1 * 2 ^ (-1076 : ℤ) ≤ 4 * x.significand * 2 ^ (x.exponent - 2) := by gcongr
      linarith
    _ = (around x).center := by simp [center, around]

theorem low_high_around {x : Binary64} (h : x.isZero = false) :
    10 ^ 16 * (around x).low + 2 * x.significand < 10 ^ 16 * (4 * x.significand) ∧
    10 ^ 16 * (4 * x.significand) + 2 * x.significand < 10 ^ 16 * (around x).high := by
  have hpos := significand_pos h
  have hlt := significand_lt x
  simp only [around, Binary64.hiddenBit, Bool.and_eq_true, decide_eq_true_eq] at *
  split <;> omega

theorem covers_shortest (tie : Tie) {x : Binary64} (h : x.isZero = false) :
    (around x).Covers (shortest tie x).value := by
  have hcenter : (around x).center = 4 * x.significand * 2 ^ (x.exponent - 2) := by
    simp [center, around]
  have hunit : (0 : ℚ) < 2 ^ (x.exponent - 2) := by positivity
  -- Half a step of the grid with seventeen digits, in units of the last binary digit.
  have hhalf : (10 : ℚ) ^ ((around x).magnitude - 1 - (16 : ℕ)) / 2 ≤
      2 * x.significand * 2 ^ (x.exponent - 2) / 10 ^ 16 := by
    have hle := le_center (le_center_around h)
    rw [zpow_sub₀ (by norm_num), zpow_natCast]
    rw [hcenter] at hle
    linarith
  obtain ⟨hlow, hhigh⟩ := low_high_around h
  rw [← Nat.cast_lt (α := ℚ)] at hlow hhigh
  push_cast at hlow hhigh
  have hlow' := mul_lt_mul_of_pos_right hlow hunit
  have hhigh' := mul_lt_mul_of_pos_right hhigh hunit
  rw [shortest, if_neg (by simp [h])]
  dsimp only
  rw [value_strip]
  apply covers_search
  · have hend : (around x).lowEnd = (around x).low * 2 ^ (x.exponent - 2) := rfl
    rw [hend, hcenter]
    linarith
  · have hend : (around x).highEnd = (around x).high * 2 ^ (x.exponent - 2) := rfl
    rw [hend, hcenter]
    linarith

/-! Neighbours -/

theorem succ_cases {x y : Binary64} (h : y.magnitude = x.magnitude + 1) :
    (y.exponent = x.exponent ∧ y.significand = x.significand + 1 ∧
      (y.significand = Binary64.hiddenBit → y.exponent = -1074)) ∨
    (y.exponent = x.exponent + 1 ∧ y.significand = Binary64.hiddenBit ∧
      x.significand + 1 = 2 * Binary64.hiddenBit ∧ y.exponent ≠ -1074) := by
  unfold Binary64.exponent Binary64.significand
  rw [h]
  simp only [Binary64.hiddenBit]
  split <;> split <;> omega

theorem lowEnd_eq_highEnd {x y : Binary64} (h : y.magnitude = x.magnitude + 1) :
    (around y).lowEnd = (around x).highEnd := by
  rcases succ_cases h with ⟨hexponent, hsignificand, hwide⟩ | ⟨hexponent, hsignificand, hlast, hne⟩
  · have hlow : (around y).low = (around x).high := by
      simp only [around, Bool.and_eq_true, decide_eq_true_eq, ne_eq]
      rw [if_neg fun hnarrow => hnarrow.2 (hwide hnarrow.1)]
      omega
    have hunit : (around y).exponent = (around x).exponent := by
      simp only [around]
      omega
    rw [lowEnd, highEnd, hlow, hunit]
  -- A new binade starts with `y`, and its unit is twice as large.
  · have hlow : 2 * (around y).low = (around x).high := by
      simp only [around, Bool.and_eq_true, decide_eq_true_eq, ne_eq]
      rw [if_pos ⟨hsignificand, hne⟩]
      omega
    have hunit : (around y).exponent = 1 + (around x).exponent := by
      simp only [around]
      omega
    rw [lowEnd, highEnd, ← hlow, hunit, zpow_add₀ (by norm_num), zpow_one]
    push_cast
    ring

theorem lowEnd_lt_highEnd (x : Binary64) : (around x).lowEnd < (around x).highEnd := by
  have hlt : (around x).low < (around x).high := by
    simp only [around]
    split <;> omega
  unfold lowEnd highEnd
  gcongr

theorem highEnd_le_lowEnd {x y : Binary64} (h : x.magnitude < y.magnitude) :
    (around x).highEnd ≤ (around y).lowEnd ∧
      (y.magnitude ≠ x.magnitude + 1 → (around x).highEnd < (around y).lowEnd) := by
  -- The numbers between `x` and `y` are passed one by one, each with its own interval.
  induction hn : y.magnitude generalizing y with
  | zero => omega
  | succ n ih =>
    have hmagnitude : (Binary64.ofMagnitude false n).magnitude = n :=
      Binary64.magnitude_ofMagnitude false (by have := y.magnitude_lt; omega)
    by_cases hnext : n = x.magnitude
    · have heq := lowEnd_eq_highEnd (x := x) (y := y) (by omega)
      exact ⟨heq.ge, by omega⟩
    · have hbefore := (ih (y := Binary64.ofMagnitude false n) (by omega) hmagnitude).1
      have hmiddle := lowEnd_lt_highEnd (Binary64.ofMagnitude false n)
      have heq := lowEnd_eq_highEnd (x := Binary64.ofMagnitude false n) (y := y) (by omega)
      rw [heq]
      have hlt := hbefore.trans_lt hmiddle
      exact ⟨hlt.le, fun _ => hlt⟩

theorem closed_around (x : Binary64) : (around x).closed = decide (x.magnitude % 2 = 0) := by
  simp only [around, Binary64.significand, Binary64.hiddenBit]
  congr 1
  split
  · rfl
  · apply propext
    omega

theorem magnitude_le_of_covers {x y : Binary64} {q : ℚ} (hx : (around x).Covers q)
    (hy : (around y).Covers q) : y.magnitude ≤ x.magnitude := by
  by_contra hlt
  obtain ⟨hle, hfar⟩ := highEnd_le_lowEnd (x := x) (y := y) (by omega)
  have hxq := hx.le_highEnd
  have hyq := hy.lowEnd_le
  -- A common point is a common end, and of two neighbours only one has its ends.
  have hnext : y.magnitude = x.magnitude + 1 := by
    by_contra hne
    exact absurd (hfar hne) (not_lt.mpr (hyq.trans hxq))
  have hxclosed := hx.closed (.inr (le_antisymm hxq (hle.trans hyq)))
  have hyclosed := hy.closed (.inl (le_antisymm (hxq.trans hle) hyq))
  rw [closed_around, decide_eq_true_eq] at hxclosed hyclosed
  omega

theorem magnitude_eq_of_covers {x y : Binary64} {q : ℚ} (hx : (around x).Covers q)
    (hy : (around y).Covers q) : x.magnitude = y.magnitude :=
  Nat.le_antisymm (magnitude_le_of_covers hy hx) (magnitude_le_of_covers hx hy)

theorem value_shortest_of_isZero (tie : Tie) {x : Binary64} (h : x.isZero) :
    (shortest tie x).value = 0 := by
  rw [shortest, if_pos h]
  norm_num [value]

theorem value_shortest_pos (tie : Tie) {x : Binary64} (h : x.isZero = false) :
    0 < (shortest tie x).value := by
  have hlow : 0 < (around x).low := by
    have hpos := significand_pos h
    simp only [around]
    split <;> omega
  have hend : 0 < (around x).lowEnd := by
    unfold lowEnd
    positivity
  exact hend.trans_le (covers_shortest tie h).lowEnd_le

theorem magnitude_eq_of_value_eq {tie : Tie} {x y : Binary64}
    (h : (shortest tie x).value = (shortest tie y).value) : x.magnitude = y.magnitude := by
  -- The decimal of zero is the only one with the value zero.
  cases hx : x.isZero with
  | true =>
    cases hy : y.isZero with
    | true => exact (of_decide_eq_true hx).trans (of_decide_eq_true hy).symm
    | false =>
      have hpos := value_shortest_pos tie hy
      rw [← h, value_shortest_of_isZero tie hx] at hpos
      exact absurd hpos (lt_irrefl 0)
  | false =>
    cases hy : y.isZero with
    | true =>
      have hpos := value_shortest_pos tie hx
      rw [h, value_shortest_of_isZero tie hy] at hpos
      exact absurd hpos (lt_irrefl 0)
    | false =>
      have hcovers := covers_shortest tie hx
      rw [h] at hcovers
      exact magnitude_eq_of_covers hcovers (covers_shortest tie hy)

end Decimal

end NetScript
