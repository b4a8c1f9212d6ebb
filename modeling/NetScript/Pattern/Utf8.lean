import NetScript.CharSet.Basic

/-!
This module contains how the characters of a set are divided into sequences of ranges of bytes, in
the encoding of characters by one to four bytes.
-/

namespace NetScript.Pattern.Utf8

/--
The first byte is followed by bytes with six bits each.
-/
def weight : Nat → Nat
  | 0 => 1
  | n + 1 => 64 * weight n

/--
The ranges of codes with encodings of the same length, the number of bytes behind the first one, and
the mark of the first byte. The codes between two of the ranges are not used for characters.
-/
def lengths : List (Nat × Nat × Nat × Nat) :=
  [
    (0x0, 0x7f, 0, 0),
    (0x80, 0x7ff, 1, 0xc0),
    (0x800, 0xd7ff, 2, 0xe0),
    (0xe000, 0xffff, 2, 0xe0),
    (0x10000, 0x10ffff, 3, 0xf0)
  ]

abbrev Sequence := List (Nat × Nat)

def split (mark : Nat) : Nat → Nat → Nat → List Sequence
  | 0, first, last => [[(mark + first, mark + last)]]
  | n + 1, first, last =>
    let high := weight (n + 1)
    let full := List.replicate (n + 1) (0x80, 0xbf)
    let a := first / high
    let b := last / high
    if a = b then
      (split 0x80 n (first % high) (last % high)).map ((mark + a, mark + a) :: ·)
    else
      let isFrontFull := first % high = 0
      let isBackFull := last % high = high - 1
      let front := (split 0x80 n (first % high) (high - 1)).map ((mark + a, mark + a) :: ·)
      let back := (split 0x80 n 0 (last % high)).map ((mark + b, mark + b) :: ·)
      let a := if isFrontFull then a else a + 1
      let b := if isBackFull then b + 1 else b
      (if isFrontFull then [] else front) ++
        (if a < b then [(mark + a, mark + b - 1) :: full] else []) ++
        (if isBackFull then [] else back)

def sequencesOfRange (first last : Nat) : List Sequence :=
  lengths.flatMap fun (low, high, n, mark) =>
    if max first low ≤ min last high then split mark n (max first low) (min last high) else []

def sequences (set : CharSet) : List Sequence :=
  set.ranges.flatMap fun (first, last) => sequencesOfRange first last

def commonLength : Sequence → Sequence → Nat
  | a :: as, b :: bs => if a = b then commonLength as bs + 1 else 0
  | _, _ => 0

def beginnings (previous : Sequence) : List Sequence → Nat
  | [] => 0
  | sequence :: sequences =>
    sequence.length - commonLength previous sequence + beginnings sequence sequences

/--
A node of the tree of the sequences, as a list of ranges with the numbers of the nodes behind them.
-/
abbrev Node := List ((Nat × Nat) × Nat)

def number (nodes : Array Node) (node : Node) : Nat × Array Node :=
  match nodes.findIdx? (· = node) with
  | some index => (index, nodes)
  | none => (nodes.size, nodes.push node)

def groups : List Sequence → List ((Nat × Nat) × List Sequence)
  | [] => []
  | [] :: sequences => groups sequences
  | (range :: rest) :: sequences =>
    match groups sequences with
    | (other, rests) :: others =>
      if range = other then (range, rest :: rests) :: others
      else (range, [rest]) :: (other, rests) :: others
    | [] => [(range, [rest])]

mutual

def addNodes (nodes : Array Node) : Nat → List Sequence → Nat × Array Node
  | 0, _ => number nodes []
  | depth + 1, sequences =>
    if sequences.all List.isEmpty then
      number nodes []
    else
      let (node, nodes) := addGroups nodes depth (groups sequences)
      number nodes node

def addGroups (nodes : Array Node) (depth : Nat) :
    List ((Nat × Nat) × List Sequence) → Node × Array Node
  | [] => ([], nodes)
  | (range, rests) :: others =>
    let (index, nodes) := addNodes nodes depth rests
    let (node, nodes) := addGroups nodes depth others
    ((range, index) :: node, nodes)

end

/--
The different nodes of the tree of the sequences. The last one is empty.
-/
def nodes (sequences : List Sequence) : List Node :=
  (addNodes #[] 4 sequences).2.toList

end NetScript.Pattern.Utf8
