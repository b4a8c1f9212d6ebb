import NetScript.Pattern.Basic
import NetScript.Pattern.Utf8

/-!
This module contains how much memory a pattern takes if it is compiled for a search by the bytes of
a text. Patterns that take too much of it are refused.
-/

namespace NetScript.Pattern

/--
The number of bytes for a search from the beginning of a text, and from its end.
-/
structure Size where
  forward : Nat
  backward : Nat
deriving DecidableEq

namespace Size

instance : Add Size := ⟨fun a b => ⟨a.forward + b.forward, a.backward + b.backward⟩⟩

def same (bytes : Nat) : Size :=
  ⟨bytes, bytes⟩

def scale (count : Nat) (size : Size) : Size :=
  ⟨count * size.forward, count * size.backward⟩

end Size

def stateSize : Nat :=
  32

def transitionSize : Nat :=
  8

def branchSize : Nat :=
  4

def charSetSize (set : CharSet) : Size :=
  match set.single? with
  | some code => .same (stateSize * (Char.ofNat code).utf8Size)
  | none =>
    if set.bounds.isEmpty then
      .same stateSize
    else if set.isAscii then
      .same (2 * stateSize + transitionSize * set.ranges.length)
    else
      let sequences := Utf8.sequences set
      let nodes := Utf8.nodes sequences
      {
        forward := nodes.foldl (fun n node => n + stateSize + transitionSize * node.length) 0
        backward :=
          2 * stateSize + branchSize * sequences.length + stateSize * Utf8.beginnings [] sequences
      }

def Leaf.size : Leaf → Size
  | char set => charSetSize set
  | look _ => .same stateSize

def takesChar : Pattern Leaf → Bool
  | empty => false
  | leaf (.char _) => true
  | leaf (.look _) => false
  | both first second => first.takesChar || second.takesChar
  | either left right => left.takesChar && right.takesChar
  | repeated least _ pattern => 0 < least && pattern.takesChar
  | group pattern => pattern.takesChar

def forkSize : Size :=
  .same (stateSize + 2 * branchSize)

/--
The size of the branches of a pattern, and how many they are. A pattern that is not a choice is a
single branch. Choices inside of a choice are not kept apart.
-/
structure Measure where
  branches : Nat
  size : Size

namespace Measure

def single (size : Size) : Measure :=
  ⟨1, size⟩

def total (measure : Measure) : Size :=
  if measure.branches = 1 then
    measure.size
  else
    .same (2 * stateSize + branchSize * measure.branches) + measure.size

end Measure

/--
The size of a repetition. The repeated pattern is copied for every time that it has to match, and
for every time that it may match if these are not unlimited.
-/
def repeatedSize (least : Nat) (most? : Option Nat) (takesChar : Bool) (size : Size) : Size :=
  match most? with
  | none =>
    if least = 0 && !takesChar then
      forkSize + forkSize + .same stateSize + size
    else
      forkSize + size.scale (max 1 least)
  | some most =>
    if least = most then
      size.scale least
    else
      size.scale least + .same stateSize + (forkSize + size).scale (most - least)

def measure : Pattern Leaf → Measure
  | empty => .single (.same stateSize)
  | leaf a => .single a.size
  | both first second => .single (first.measure.total + second.measure.total)
  | either left right =>
    let left := left.measure
    let right := right.measure
    ⟨left.branches + right.branches, left.size + right.size⟩
  | repeated least most? pattern =>
    .single (repeatedSize least most? pattern.takesChar pattern.measure.total)
  | group pattern => .single (⟨2 * stateSize, 0⟩ + pattern.measure.total)

def size (pattern : Pattern Leaf) : Size :=
  pattern.measure.total

def frameSize : Size :=
  ⟨6 * stateSize + 2 * branchSize + transitionSize, 4 * stateSize + 2 * branchSize + transitionSize⟩

def sizeLimit : Nat :=
  10485760

def isTooLarge (pattern : Pattern Leaf) : Bool :=
  let size := pattern.size + frameSize
  sizeLimit < size.forward || sizeLimit < size.backward

end NetScript.Pattern
