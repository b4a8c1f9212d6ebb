/-!
This module contains sets of characters, given by their codes, and the operations on them.
-/

namespace NetScript

/--
A set is given by the codes at which it starts and stops in turn, in ascending order. A set that is
not stopped goes on for ever.
-/
structure CharSet where
  bounds : List Nat
deriving DecidableEq

namespace CharSet

/--
Whether a code is in the set. Every bound up to the code turns the answer.
-/
def member : List Nat → Nat → Bool
  | [], _ => false
  | bound :: bounds, code => bound ≤ code && !member bounds code

def contains (set : CharSet) (c : Char) : Bool :=
  member set.bounds c.toNat

def empty : CharSet :=
  ⟨[]⟩

def range (first last : Nat) : CharSet :=
  ⟨[first, last + 1]⟩

def single (c : Char) : CharSet :=
  range c.toNat c.toNat

def turn (code : Nat) (before after : Bool) (bounds : List Nat) : List Nat :=
  if before = after then bounds else code :: bounds

/--
Combines two sets behind a place that is in the first one if `p`, and in the second one if `q`.
-/
def combineFrom (op : Bool → Bool → Bool) (p q : Bool) : List Nat → List Nat → List Nat
  | [], [] => []
  | a :: as, [] => turn a (op p q) (op (!p) q) (combineFrom op (!p) q as [])
  | [], b :: bs => turn b (op p q) (op p (!q)) (combineFrom op p (!q) [] bs)
  | a :: as, b :: bs =>
    if a < b then
      turn a (op p q) (op (!p) q) (combineFrom op (!p) q as (b :: bs))
    else if b < a then
      turn b (op p q) (op p (!q)) (combineFrom op p (!q) (a :: as) bs)
    else
      turn a (op p q) (op (!p) (!q)) (combineFrom op (!p) (!q) as bs)
termination_by as bs => as.length + bs.length

/--
The set of the codes for which the operation holds, which is given by whether they are in the sets.
It must not hold for codes that are in neither of them.
-/
def combine (op : Bool → Bool → Bool) (s t : CharSet) : CharSet :=
  ⟨combineFrom op false false s.bounds t.bounds⟩

def union : CharSet → CharSet → CharSet :=
  combine (· || ·)

def inter : CharSet → CharSet → CharSet :=
  combine (· && ·)

def diff : CharSet → CharSet → CharSet :=
  combine (· && !·)

def symmDiff : CharSet → CharSet → CharSet :=
  combine (· != ·)

def compl (set : CharSet) : CharSet :=
  match set.bounds with
  | 0 :: bounds => ⟨bounds⟩
  | bounds => ⟨0 :: bounds⟩

instance : Union CharSet := ⟨union⟩

instance : Inter CharSet := ⟨inter⟩

instance : SDiff CharSet := ⟨diff⟩

def unions (sets : List CharSet) : CharSet :=
  sets.foldl (· ∪ ·) empty

def insertFirst (code : Nat) (bounds : List Nat) : List Nat :=
  match bounds with
  | [] => [code, code + 1]
  | bound :: rest =>
    if bound = code then bounds
    else if bound = code + 1 then code :: rest
    else code :: (code + 1) :: bounds

def ofCodes (codes : List Nat) : CharSet :=
  ⟨(codes.mergeSort (· ≤ ·)).foldr insertFirst []⟩

def ranges (set : CharSet) : List (Nat × Nat) :=
  go set.bounds
where
  go : List Nat → List (Nat × Nat)
    | [] => []
    | [first] => [(first, 0x10ffff)]
    | first :: stop :: bounds => (first, stop - 1) :: go bounds

def codes (set : CharSet) : List Nat :=
  set.ranges.flatMap fun (first, last) => (List.range (last + 1 - first)).map (first + ·)

def single? (set : CharSet) : Option Nat :=
  match set.bounds with
  | [first, stop] => if stop = first + 1 then some first else none
  | _ => none

def ascii : CharSet :=
  range 0 0x7f

def isAscii (set : CharSet) : Bool :=
  (set \ ascii).bounds.isEmpty

end CharSet

end NetScript
