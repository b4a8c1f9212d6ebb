import NetScript.Decimal.Shortest

/-!
The text of a floating point number: its shortest digits, laid out with a point or with an exponent
as a format demands.
-/

namespace NetScript

namespace Decimal

def positional (d : Decimal) : List Char :=
  let digits := d.digits
  if 0 ≤ d.exponent then
    digits ++ List.replicate d.exponent.toNat '0'
  else
    let behind := (-d.exponent).toNat
    if behind < digits.length then
      digits.take (digits.length - behind) ++ '.' :: digits.drop (digits.length - behind)
    else
      '0' :: '.' :: (List.replicate (behind - digits.length) '0' ++ digits)

def scientific (d : Decimal) : List Char :=
  let exponent := d.leadingExponent
  let sign := if exponent < 0 then '-' else '+'
  let fraction :=
    match d.digits with
    | [] => []
    | [digit] => [digit]
    | digit :: rest => digit :: '.' :: rest
  fraction ++ 'e' :: sign :: Nat.toDigits 10 exponent.natAbs

end Decimal

structure NumberFormat where
  tie : Decimal.Tie
  isPositional : Int → Bool
  wholeSuffix : List Char
  notANumber : List Char
  infinity : List Char
  negativeInfinity : List Char

namespace NumberFormat

def finite (format : NumberFormat) (d : Decimal) : List Char :=
  if format.isPositional d.leadingExponent then
    d.positional ++ if 0 ≤ d.exponent then format.wholeSuffix else []
  else
    d.scientific

def render (format : NumberFormat) (x : Binary64) : List Char :=
  if x.isNaN then
    format.notANumber
  else if x.isInfinite then
    if x.isNegative then format.negativeInfinity else format.infinity
  else
    let text := format.finite (Decimal.shortest format.tie x)
    if x.isNegative then '-' :: text else text

end NumberFormat

end NetScript
