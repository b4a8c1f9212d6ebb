/-!
Hexadecimal digits, in lower case.
-/

namespace NetScript.Text

/--
The last `width` hexadecimal digits of a number, with zeros in front where it has fewer.
-/
def hexPadded (width n : Nat) : List Char :=
  go width n []
where
  go : Nat → Nat → List Char → List Char
    | 0, _, digits => digits
    | width + 1, n, digits => go width (n / 16) (Nat.digitChar (n % 16) :: digits)

theorem hexPadded.mem_go {width n : Nat} {digits : List Char} {c : Char}
    (h : c ∈ go width n digits) : (∃ digit < 16, c = Nat.digitChar digit) ∨ c ∈ digits := by
  induction width generalizing n digits with
  | zero => exact .inr h
  | succ width ih =>
    rcases ih h with hdigit | hmem
    · exact .inl hdigit
    · rcases List.mem_cons.mp hmem with heq | hmem
      · exact .inl ⟨n % 16, Nat.mod_lt _ (by decide), heq⟩
      · exact .inr hmem

theorem exists_of_mem_hexPadded {width n : Nat} {c : Char} (h : c ∈ hexPadded width n) :
    ∃ digit < 16, c = Nat.digitChar digit := by
  rcases hexPadded.mem_go h with hdigit | hmem
  · exact hdigit
  · contradiction

def hexValue? (c : Char) : Option Nat :=
  if '0' ≤ c ∧ c ≤ '9' then
    some (c.toNat - '0'.toNat)
  else if 'a' ≤ c ∧ c ≤ 'f' then
    some (c.toNat - 'a'.toNat + 10)
  else if 'A' ≤ c ∧ c ≤ 'F' then
    some (c.toNat - 'A'.toNat + 10)
  else
    none

theorem hexValue?_digitChar {digit : Nat} (h : digit < 16) :
    hexValue? (Nat.digitChar digit) = some digit := by
  decide +revert

end NetScript.Text
