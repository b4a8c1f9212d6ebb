import NetScript.Binary64.Basic

/-!
Rounding of a quotient of natural numbers to the nearest floating point number, a half going to the
even neighbour, and the operations that are such a rounding of an exact result.
-/

namespace NetScript

/--
The natural number nearest to `num / den`, the even one if two are.
-/
def roundQuotient (num den : Nat) : Nat :=
  let quotient := num / den
  let twice := 2 * (num % den)
  if twice < den || (twice = den && quotient % 2 = 0) then quotient else quotient + 1

namespace Binary64

def leadingExponent (num den : Nat) : Int :=
  -- The guess is exact or one too large.
  let guess : Int := (num.log2 : Int) - den.log2
  if num <<< (-guess).toNat < den <<< guess.toNat then guess - 1 else guess

/--
The magnitude nearest to `num / den`. A significand that rounds up to the next power of two
carries into the exponent by itself, since the exponent stands right above the significand.
-/
def roundMagnitude (num den : Nat) : Nat :=
  if num = 0 then
    0
  else
    -- Subnormal numbers keep fewer than 53 digits.
    let last := max (leadingExponent num den - 52) (-1074)
    let significand := roundQuotient (num <<< (-last).toNat) (den <<< last.toNat)
    min infiniteMagnitude ((last + 1074).toNat * hiddenBit + significand)

def ofScaled (num den : Nat) (exponent : Int) : Binary64 :=
  ofMagnitude false (roundMagnitude (num <<< exponent.toNat) (den <<< (-exponent).toNat))

def ofRatio (num den : Nat) : Binary64 :=
  ofScaled num den 0

def ofNat (n : Nat) : Binary64 :=
  ofRatio n 1

def ofInt : Int → Binary64
  | .ofNat n => ofNat n
  | .negSucc n => (ofNat (n + 1)).neg

instance (n : Nat) : OfNat Binary64 n where
  ofNat := Binary64.ofNat n

/--
The product of two finite numbers that are not negative.
-/
def mul (x y : Binary64) : Binary64 :=
  ofScaled (x.significand * y.significand) 1 (x.exponent + y.exponent)

/--
The quotient of two finite numbers, the first not negative and the second positive.
-/
def div (x y : Binary64) : Binary64 :=
  ofScaled x.significand y.significand (x.exponent - y.exponent)

def powTen (n : Nat) : Binary64 :=
  ofNat (Nat.pow 10 n)

def scaleUp? (x : Binary64) (n : Nat) : Option Binary64 :=
  if n ≤ 308 then
    let product := x.mul (powTen n)
    if product.isInfinite then none else some product
  else if x.isZero then
    some x
  else
    none

/--
`x / 10 ^ n`, rounded after every division by the largest power of ten that is in range.
-/
def scaleDown (x : Binary64) (n : Nat) : Binary64 :=
  if n ≤ 308 then
    x.div (powTen n)
  else if x.isZero then
    x
  else
    scaleDown (x.div (powTen 308)) (n - 308)
termination_by n

end Binary64

end NetScript
