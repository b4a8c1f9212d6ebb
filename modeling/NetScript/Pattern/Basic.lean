import NetScript.CharSet.Basic

/-!
This module contains patterns of text and the search for them. The search goes through all matches
at the same time: the places that they have reached are the bits of a number.
-/

namespace NetScript

inductive Pattern (α : Type) where
  | empty
  | leaf (leaf : α)
  | both (first second : Pattern α)
  | either (left right : Pattern α)
  | repeated (least : Nat) (most? : Option Nat) (pattern : Pattern α)
  | group (pattern : Pattern α)

namespace Pattern

inductive Look where
  | textStart
  | textEnd
  | lineStart
  | lineEnd
  | returnLineStart
  | returnLineEnd
  | wordBoundary (word : CharSet)
  | noWordBoundary (word : CharSet)
  | wordStart (word : CharSet)
  | wordEnd (word : CharSet)
  | noWordBefore (word : CharSet)
  | noWordBehind (word : CharSet)

def Look.holds (look : Look) (before behind : Option Char) : Bool :=
  match look with
  | textStart => before.isNone
  | textEnd => behind.isNone
  | lineStart => before.isNone || before = some '\n'
  | lineEnd => behind.isNone || behind = some '\n'
  | returnLineStart =>
    before.isNone || before = some '\n' || (before = some '\r' && behind ≠ some '\n')
  | returnLineEnd =>
    behind.isNone || behind = some '\r' || (behind = some '\n' && before ≠ some '\r')
  | wordBoundary word => before.any word.contains != behind.any word.contains
  | noWordBoundary word => before.any word.contains == behind.any word.contains
  | wordStart word => !before.any word.contains && behind.any word.contains
  | wordEnd word => before.any word.contains && !behind.any word.contains
  | noWordBefore word => !before.any word.contains
  | noWordBehind word => !behind.any word.contains

inductive Leaf where
  | char (set : CharSet)
  | look (place : Look)

def contexts (text : List Char) : List (Option Char × Option Char) :=
  (none :: text.map some).zip (text.map some ++ [none])

def places (holds : Option Char → Option Char → Bool) : List (Option Char × Option Char) → Nat
  | [] => 0
  | (before, behind) :: rest => 2 * places holds rest + (holds before behind).toNat

structure Step where
  places : Nat
  width : Nat

def Leaf.step (text : List (Option Char × Option Char)) : Leaf → Step
  | char set => ⟨places (fun _ behind => behind.any set.contains) text, 1⟩
  | look place => ⟨places place.holds text, 0⟩

def map {α β : Type} (f : α → β) : Pattern α → Pattern β
  | empty => empty
  | leaf a => leaf (f a)
  | both first second => both (first.map f) (second.map f)
  | either left right => either (left.map f) (right.map f)
  | repeated least most? pattern => repeated least most? (pattern.map f)
  | group pattern => group (pattern.map f)

/--
Repeats a step as often as it is told, as long as it changes the set.
-/
def iterate (step : Nat → Nat) : Nat → Nat → Nat
  | 0, set => set
  | count + 1, set =>
    let next := step set
    if next = set then set else iterate step count next

def closure (step : Nat → Nat) : Nat → Nat → Nat :=
  iterate fun set => set ||| step set

/--
The places at which matches end that start at a place of the set. The text has the given number of
places.
-/
def advance (size : Nat) : Pattern Step → Nat → Nat
  | empty, set => set
  | leaf step, set => (set &&& step.places) <<< step.width
  | both first second, set =>
    match first.advance size set with
    | 0 => 0
    | set => second.advance size set
  | either left right, set => left.advance size set ||| right.advance size set
  | repeated least most? pattern, set =>
    closure (pattern.advance size) ((most?.map (· - least)).getD size)
      (iterate (pattern.advance size) least set)
  | group pattern, set => pattern.advance size set

def occursIn (pattern : Pattern Leaf) (text : String) : Bool :=
  let text := contexts text.toList
  (pattern.map (Leaf.step text)).advance text.length (places (fun _ _ => true) text) ≠ 0

end Pattern

end NetScript
