import NetScript.Code.Quoted

/-!
This module contains the reader of string literals, the way the language of the generated code reads
them. A reader takes what it reads from the front of a text and gives what is left behind it.
-/

namespace NetScript.Code.Reader

def hexadecimal? : Nat → Nat → List Char → Option (Nat × List Char)
  | 0, n, cs => some (n, cs)
  | _ + 1, _, [] => none
  | width + 1, n, c :: cs =>
    match Text.hexValue? c with
    | some digit => hexadecimal? width (16 * n + digit) cs
    | none => none

def numberedCharacter? (width : Nat) (cs : List Char) : Option (Char × List Char) :=
  match hexadecimal? width 0 cs with
  | some (n, rest) => if n.isValidChar then some (Char.ofNat n, rest) else none
  | none => none

def simpleEscapes : List (Char × Char) :=
  [('\\', '\\'), ('"', '"'), ('n', '\n'), ('r', '\r'), ('t', '\t')]

def numberedEscapes : List (Char × Nat) :=
  [('x', 2), ('u', 4), ('U', 8)]

def escape? : List Char → Option (Char × List Char)
  | [] => none
  | c :: rest =>
    match numberedEscapes.lookup c with
    | some width => numberedCharacter? width rest
    | none => (simpleEscapes.lookup c).map (·, rest)

def character? : List Char → Option (Char × List Char)
  | [] => none
  | c :: rest =>
    if c = '\\' then escape? rest
    else if isPlain c && c ≠ '"' then some (c, rest)
    else none

theorem length_of_hexadecimal? {width n m : Nat} {cs rest : List Char}
    (h : hexadecimal? width n cs = some (m, rest)) : rest.length ≤ cs.length := by
  induction width generalizing n cs with
  | zero =>
    cases h
    exact Nat.le_refl _
  | succ width ih =>
    cases cs with
    | nil => cases h
    | cons c cs =>
      rw [hexadecimal?] at h
      split at h
      · exact Nat.le_succ_of_le (ih h)
      · cases h

theorem length_of_numberedCharacter? {width : Nat} {cs rest : List Char} {c : Char}
    (h : numberedCharacter? width cs = some (c, rest)) : rest.length ≤ cs.length := by
  unfold numberedCharacter? at h
  split at h
  · next hdigits =>
    split at h
    · cases h
      exact length_of_hexadecimal? hdigits
    · cases h
  · cases h

theorem length_of_escape? {cs rest : List Char} {c : Char} (h : escape? cs = some (c, rest)) :
    rest.length < cs.length := by
  cases cs with
  | nil => cases h
  | cons mark cs =>
    rw [escape?] at h
    rw [List.length_cons, Nat.lt_succ_iff]
    split at h
    · exact length_of_numberedCharacter? h
    · obtain ⟨d, _, hd⟩ := Option.map_eq_some_iff.mp h
      cases hd
      exact Nat.le_refl _

theorem length_of_character? {cs rest : List Char} {c : Char}
    (h : character? cs = some (c, rest)) : rest.length < cs.length := by
  cases cs with
  | nil => cases h
  | cons d cs =>
    rw [character?] at h
    split at h
    · exact Nat.lt_succ_of_lt (length_of_escape? h)
    · split at h
      · cases h
        exact Nat.lt_succ_self _
      · cases h

def textBody? (cs : List Char) : Option (List Char × List Char) :=
  match cs with
  | '"' :: rest => some ([], rest)
  | cs =>
    match h : character? cs with
    | some (c, rest) =>
      have : rest.length < cs.length := length_of_character? h
      (textBody? rest).map fun (read, rest) => (c :: read, rest)
    | none => none
termination_by cs.length

def text? : List Char → Option (String × List Char)
  | [] => none
  | c :: rest =>
    if c = '"' then (textBody? rest).map fun (read, rest) => (String.ofList read, rest)
    else none

end NetScript.Code.Reader
