/-!
Binary floating point numbers of 64 bits, as their bit patterns, and the decoding of a finite
pattern into `significand * 2 ^ exponent`. Every operation of the library on such numbers is exact
arithmetic on these two fields followed by one rounding.
-/

namespace NetScript

/--
A binary floating point number of 64 bits. Two numbers are the same if their patterns are.
-/
structure Binary64 where
  bits : UInt64
deriving DecidableEq, Inhabited

namespace Binary64

abbrev signBit : Nat := 0x8000000000000000

/--
The unit of the exponent. A normal number has a further bit of this value in its significand.
-/
abbrev hiddenBit : Nat := 0x10000000000000

/--
The pattern of positive infinity. Below it are the finite magnitudes, above it nothing but
NaNs.
-/
def infiniteMagnitude : Nat := 2047 * hiddenBit

def magnitude (x : Binary64) : Nat :=
  x.bits.toNat % signBit

def isNegative (x : Binary64) : Bool :=
  signBit ≤ x.bits.toNat

def ofMagnitude (negative : Bool) (magnitude : Nat) : Binary64 :=
  ⟨UInt64.ofNat (if negative then signBit + magnitude else magnitude)⟩

def zero : Binary64 := ⟨0⟩

def isZero (x : Binary64) : Bool :=
  x.magnitude = 0

def isInfinite (x : Binary64) : Bool :=
  x.magnitude = infiniteMagnitude

def isNaN (x : Binary64) : Bool :=
  infiniteMagnitude < x.magnitude

def isFinite (x : Binary64) : Bool :=
  x.magnitude < infiniteMagnitude

def neg (x : Binary64) : Binary64 :=
  ofMagnitude (!x.isNegative) x.magnitude

/--
Subnormal numbers share the exponent of the smallest normal ones and lack the leading bit.
-/
def significand (x : Binary64) : Nat :=
  if x.magnitude < hiddenBit then x.magnitude else hiddenBit + x.magnitude % hiddenBit

def exponent (x : Binary64) : Int :=
  if x.magnitude < hiddenBit then -1074 else (x.magnitude / hiddenBit : Nat) - 1075

/--
Equality of numbers rather than of patterns: a NaN is equal to nothing and the two zeros are
equal.
-/
def equal (x y : Binary64) : Bool :=
  !x.isNaN && !y.isNaN && (x = y || (x.isZero && y.isZero))

theorem magnitude_lt (x : Binary64) : x.magnitude < signBit :=
  Nat.mod_lt _ (by decide)

theorem magnitude_ofMagnitude {m : Nat} (negative : Bool) (h : m < signBit) :
    (ofMagnitude negative m).magnitude = m := by
  simp only [signBit] at h
  cases negative
  · simp only [magnitude, ofMagnitude, signBit, Bool.false_eq_true, ↓reduceIte, UInt64.toNat_ofNat']
    omega
  · simp only [magnitude, ofMagnitude, signBit, ↓reduceIte, UInt64.toNat_ofNat']
    omega

theorem ofMagnitude_magnitude (x : Binary64) : ofMagnitude x.isNegative x.magnitude = x := by
  obtain ⟨bits⟩ := x
  have hlt : bits.toNat < 0x10000000000000000 := bits.toNat_lt
  unfold ofMagnitude isNegative magnitude signBit
  congr 1
  apply UInt64.toNat_inj.mp
  by_cases h : 0x8000000000000000 ≤ bits.toNat
  · simp only [h, decide_true, ↓reduceIte, UInt64.toNat_ofNat']
    omega
  · simp only [h, decide_false, Bool.false_eq_true, ↓reduceIte, UInt64.toNat_ofNat']
    omega

end Binary64

end NetScript
