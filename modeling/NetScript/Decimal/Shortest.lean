import NetScript.Binary64.Basic

/-!
The shortest decimal that reads back as a given floating point number. Such a decimal has to lie in
the interval of the reals that round to the number. We search the grids of the multiples of
`10 ^ e`, coarse ones first, for a point in the interval. If a grid has one then one of the two
neighbours of the number on this grid is one, so only those are tested.
-/

namespace NetScript

structure Decimal where
  significand : Nat
  exponent : Int
deriving DecidableEq

namespace Decimal

/--
Which of two equally near decimals to take.
-/
inductive Tie where
  | toEven
  | up
deriving DecidableEq

def digits (d : Decimal) : List Char :=
  Nat.toDigits 10 d.significand

def leadingExponent (d : Decimal) : Int :=
  d.exponent + d.digits.length - 1

def strip (d : Decimal) : Decimal :=
  go d.significand d.exponent
where
  go (significand : Nat) (exponent : Int) : Decimal :=
    if h : significand ≠ 0 ∧ significand % 10 = 0 then
      go (significand / 10) (exponent + 1)
    else
      ⟨significand, exponent⟩
  termination_by significand
  decreasing_by omega

theorem strip.go_eq (significand : Nat) (exponent : Int) :
    ∃ zeros : Nat, significand = (go significand exponent).significand * Nat.pow 10 zeros ∧
      (go significand exponent).exponent = exponent + zeros := by
  fun_induction go significand exponent with
  | case1 significand exponent h ih =>
    obtain ⟨zeros, hsignificand, hexponent⟩ := ih
    refine ⟨zeros + 1, ?_, ?_⟩
    · simp only [Nat.pow_eq, Nat.pow_succ] at hsignificand ⊢
      rw [← Nat.mul_assoc, ← hsignificand]
      omega
    · rw [hexponent]
      omega
  | case2 significand exponent h => exact ⟨0, by simp⟩

theorem strip_eq (d : Decimal) :
    ∃ zeros : Nat, d.significand = d.strip.significand * Nat.pow 10 zeros ∧
      d.strip.exponent = d.exponent + zeros :=
  strip.go_eq d.significand d.exponent

/--
The reals that round to a positive number, in quarters of the unit of its last binary digit.
-/
structure Interval where
  low : Nat
  value : Nat
  high : Nat
  closed : Bool
  exponent : Int

/--
The interval around a finite number other than zero. Below a power of two the next number is
only half as far as above, but for the smallest exponent.
-/
def Interval.around (x : Binary64) : Interval :=
  let m := x.significand
  let narrow := m = Binary64.hiddenBit && x.exponent ≠ -1074
  { low := if narrow then 4 * m - 1 else 4 * m - 2
    value := 4 * m
    high := 4 * m + 2
    closed := m % 2 = 0
    exponent := x.exponent - 2 }

namespace Interval

def scales (i : Interval) (e : Int) : Nat × Nat :=
  (Nat.pow 10 e.toNat <<< (-i.exponent).toNat, Nat.pow 10 (-e).toNat <<< i.exponent.toNat)

def contains (i : Interval) (e : Int) (point : Nat) : Bool :=
  let (step, quarter) := i.scales e
  if i.closed then
    i.low * quarter ≤ point * step && point * step ≤ i.high * quarter
  else
    i.low * quarter < point * step && point * step < i.high * quarter

def floor (i : Interval) (e : Int) : Nat :=
  let (step, quarter) := i.scales e
  i.value * quarter / step

def nearest (tie : Tie) (i : Interval) (e : Int) : Nat :=
  let (step, quarter) := i.scales e
  let below := i.floor e
  let toBelow := i.value * quarter - below * step
  let toAbove := (below + 1) * step - i.value * quarter
  if toBelow < toAbove then
    below
  else if toAbove < toBelow then
    below + 1
  else
    match tie with
    | .toEven => if below % 2 = 0 then below else below + 1
    | .up => below + 1

/--
The neighbour of the value on a grid that lies in the interval, the nearer one if both do.
-/
def hit? (tie : Tie) (i : Interval) (e : Int) : Option Nat :=
  let below := i.floor e
  match i.contains e below, i.contains e (below + 1) with
  | true, true => some (i.nearest tie e)
  | true, false => some below
  | false, true => some (below + 1)
  | false, false => none

/--
A grid on which the value is not below the first point. The last one serves all numbers, the others
have less digits to count.
-/
def fineGrid (i : Interval) : Int :=
  if i.floor 0 ≠ 0 then 0 else if i.floor (-20) ≠ 0 then -20 else -324

def magnitude (i : Interval) : Int :=
  (Nat.toDigits 10 (i.floor i.fineGrid)).length + i.fineGrid

def search (tie : Tie) (i : Interval) (e : Int) : Nat → Decimal
  | 0 => ⟨i.nearest tie e, e⟩
  | count + 1 =>
    match i.hit? tie e with
    | some point => ⟨point, e⟩
    | none => i.search tie (e - 1) count

end Interval

/--
The shortest decimal that reads back as the magnitude of a finite number, the nearest one of
those. Seventeen digits are always enough.
-/
def shortest (tie : Tie) (x : Binary64) : Decimal :=
  if x.isZero then
    ⟨0, 0⟩
  else
    let i := Interval.around x
    strip (i.search tie (i.magnitude - 1) 16)

end Decimal

end NetScript
