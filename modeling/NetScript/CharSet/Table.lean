import NetScript.CharSet.Basic
import NetScript.Text.Hex
import NetScript.Text.Split

/-!
This module contains how sets of characters are written as tables. A table is a list of codes and of
ranges of codes in ascending order, on several lines with blanks between them. All codes are
hexadecimal. A number behind a range and a slash tells how far apart the codes of the range are.
-/

namespace NetScript.CharSet

def hexNumber (digits : List Char) : Nat :=
  digits.foldl (fun n c => 16 * n + (Text.hexValue? c).getD 0) 0

def spaced (distance first : Nat) : Nat → List Nat
  | 0 => []
  | count + 1 => first :: (first + 1) :: spaced distance (first + distance) count

def entryBounds (entry : List Char) : List Nat :=
  match Text.split '-' entry with
  | [] => []
  | [code] =>
    let code := hexNumber code
    [code, code + 1]
  | first :: last :: _ =>
    let first := hexNumber first
    match Text.split '/' last with
    | last :: distance :: _ =>
      let distance := hexNumber distance
      spaced distance first ((hexNumber last - first) / distance + 1)
    | last => [first, hexNumber (last.headD []) + 1]

def ofTable (lines : List String) : CharSet :=
  ⟨lines.flatMap fun line => (Text.split ' ' line.toList).flatMap entryBounds⟩

end NetScript.CharSet
