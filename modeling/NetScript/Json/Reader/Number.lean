import NetScript.Binary64.Rounding
import NetScript.Json.Reader.Basic

/-!
This module contains the reader of numbers, behind their sign. The digits are collected in a
significand of 64 bits. Those that no longer fit are dropped, and a number that lost a digit or has
a point or an exponent is a float. Such a float is the rounded significand, multiplied or divided by
a rounded power of ten, and hence not always the nearest one.
-/

namespace NetScript.Json.Reader

def isDigit (c : Char) : Bool :=
  '0' ≤ c && c ≤ '9'

def digitValue (c : Char) : Nat :=
  c.toNat - '0'.toNat

def digits : Reader (List Nat) := do
  let cs ← get
  set (cs.dropWhile isDigit)
  return (cs.takeWhile isDigit).map digitValue

/--
Appends digits to a number as long as it does not exceed the limit. The digits that are left
over are returned as well.
-/
def absorb (limit : Nat) (n : Nat) : List Nat → Nat × List Nat
  | [] => (n, [])
  | digit :: rest =>
    if n * 10 + digit ≤ limit then absorb limit (n * 10 + digit) rest else (n, digit :: rest)

def significandLimit : Nat := 0xffffffffffffffff

def exponentLimit : Nat := 0x7fffffff

/--
Takes the digits in front of the point. There is at least one, and no zero in front of another
digit.
-/
def whole : Reader (List Nat) := do
  match ← get with
  | [] => fail .endOfValue
  | c :: rest =>
    if !isDigit c then
      failAfter .invalidNumber
    else if c = '0' then
      set rest
      if (rest.head?.any isDigit) then failAfter .invalidNumber else return [0]
    else
      digits

def fraction? : Reader (Option (List Nat)) := do
  if (← peek?) = some '.' then
    skip
    let found ← digits
    if found.isEmpty then
      match ← peek? with
      | none => failAfter .endOfValue
      | some _ => failAfter .invalidNumber
    else
      return some found
  else
    return none

def exponent? : Reader (Option (Bool × List Nat)) := do
  let mark ← peek?
  if mark = some 'e' || mark = some 'E' then
    skip
    let sign ← peek?
    if sign = some '+' || sign = some '-' then
      skip
    match ← peek? with
    | none => fail .endOfValue
    | some c =>
      if isDigit c then
        return some (sign = some '-', ← digits)
      else
        failAfter .invalidNumber
  else
    return none

def scaled (significand : Nat) (exponent : Int) : Reader Binary64 :=
  match exponent with
  | .ofNat n =>
    match (Binary64.ofNat significand).scaleUp? n with
    | some x => return x
    | none => fail .numberOutOfRange
  | .negSucc n => return (Binary64.ofNat significand).scaleDown (n + 1)

/--
Applies the exponent that was taken. An exponent that is itself too large makes the number
vanish, or exceed the range right at the digit that is too much.
-/
def applyExponent (significand : Nat) (exponent : Int) (negative : Bool) (digits : List Nat) :
    Reader Binary64 := do
  match absorb exponentLimit 0 digits with
  | (n, []) => scaled significand (if negative then exponent - n else exponent + n)
  | (_, _ :: more) =>
    if significand ≠ 0 && !negative then
      throw ⟨.numberOutOfRange, more.length + byteCount (← get)⟩
    else
      return .zero

/--
Negative zero, and what is below the integers of 64 bits, are floats.
-/
def ofSignificand (negative : Bool) (significand : Nat) : Number :=
  if !negative then
    .int significand
  else if 1 ≤ significand && significand ≤ 0x8000000000000000 then
    .int (-significand)
  else
    .float (Binary64.ofNat significand).neg

def applySign (negative : Bool) (x : Binary64) : Binary64 :=
  if negative then x.neg else x

def number (negative : Bool) : Reader Number := do
  let (significand, dropped) := absorb significandLimit 0 (← whole)
  match ← fraction? with
  | some found =>
    let (significand, skipped) := absorb significandLimit significand found
    -- Dropped digits in front of the point raise the exponent, absorbed ones behind it lower it.
    let exponent : Int := dropped.length - (found.length - skipped.length : Nat)
    match ← exponent? with
    | some (sign, digits) =>
      return .float (applySign negative (← applyExponent significand exponent sign digits))
    | none => return .float (applySign negative (← scaled significand exponent))
  | none =>
    match ← exponent? with
    | some (sign, digits) =>
      return .float (applySign negative (← applyExponent significand dropped.length sign digits))
    | none =>
      if dropped.isEmpty then
        return ofSignificand negative significand
      else
        return .float (applySign negative (← scaled significand dropped.length))

end NetScript.Json.Reader
