import NetScript.CharSet.Basic
import NetScript.Pattern.Fault

/-!
This module contains the form of a pattern, as it is written. Its parts know where they are in the
text.
-/

namespace NetScript.Pattern

inductive Flag where
  | ignoreCase
  | manyLines
  | dotAll
  | swapGreed
  | unicode
  /-- A carriage return in front of a newline is a part of it. -/
  | carriageReturns
  /-- Blanks and comments are not a part of the pattern. -/
  | ignoreBlank
deriving DecidableEq

def Flag.ofLetter? : Char → Option Flag
  | 'i' => some ignoreCase
  | 'm' => some manyLines
  | 's' => some dotAll
  | 'U' => some swapGreed
  | 'u' => some unicode
  | 'R' => some carriageReturns
  | 'x' => some ignoreBlank
  | _ => none

structure Switch where
  flag : Flag
  isOn : Bool
deriving DecidableEq

def switched? (switches : List Switch) (flag : Flag) : Option Bool :=
  (switches.find? (·.flag = flag)).map (·.isOn)

structure Literal where
  span : Span
  char : Char
  isByte : Bool := false
deriving DecidableEq

inductive Shorthand where
  | digit
  | space
  | word
deriving DecidableEq

inductive Place where
  | textStart
  | textEnd
  | lineStart
  | lineEnd
  | wordBoundary
  | noWordBoundary
  | wordStart
  | wordEnd
  | noWordBefore
  | noWordBehind
deriving DecidableEq

structure Query where
  name : List Char
  value? : Option (List Char) := none
deriving DecidableEq

inductive Atom where
  | literal (char : Char) (isByte : Bool)
  | dot
  | place (place : Place)
  | shorthand (kind : Shorthand) (isNegated : Bool)
  | property (query : Query) (isNegated : Bool)
deriving DecidableEq

inductive SetOperator where
  | intersection
  | difference
  | symmetricDifference
deriving DecidableEq

inductive Class where
  | empty (span : Span)
  | literal (literal : Literal)
  | range (first last : Literal)
  | named (span : Span) (chars : CharSet) (isNegated : Bool)
  | shorthand (span : Span) (kind : Shorthand) (isNegated : Bool)
  | property (span : Span) (query : Query) (isNegated : Bool)
  | brackets (span : Span) (isNegated : Bool) (members : Class)
  | union (span : Span) (items : List Class)
  | operation (span : Span) (operator : SetOperator) (left right : Class)

def Class.span : Class → Span
  | empty span => span
  | literal c => c.span
  | range first last => ⟨first.span.start, last.span.stop⟩
  | named span _ _ => span
  | shorthand span _ _ => span
  | property span _ _ => span
  | brackets span _ _ => span
  | union span _ => span
  | operation span _ _ _ => span

inductive Tree where
  | empty (span : Span)
  | switch (span : Span) (switches : List Switch)
  | atom (span : Span) (atom : Atom)
  | brackets (set : Class)
  | repeated (span : Span) (least : Nat) (most? : Option Nat) (tree : Tree)
  | group (span : Span) (isCaptured : Bool) (switches : List Switch) (tree : Tree)
  | choice (span : Span) (trees : List Tree)
  | sequence (span : Span) (trees : List Tree)

def Tree.span : Tree → Span
  | empty span => span
  | switch span _ => span
  | atom span _ => span
  | brackets set => set.span
  | repeated span _ _ _ => span
  | group span _ _ _ => span
  | choice span _ => span
  | sequence span _ => span

mutual

def Class.tooDeep? (room : Nat) : Class → Option Span
  | .brackets span _ members =>
    match room with
    | 0 => some span
    | room + 1 => members.tooDeep? room
  | .union span items =>
    match room with
    | 0 => some span
    | room + 1 => Class.anyTooDeep? room items
  | .operation span _ left right =>
    match room with
    | 0 => some span
    | room + 1 => (left.tooDeep? room).or (right.tooDeep? room)
  | _ => none

def Class.anyTooDeep? (room : Nat) : List Class → Option Span
  | [] => none
  | item :: items => (item.tooDeep? room).or (Class.anyTooDeep? room items)

end

mutual

def Tree.tooDeep? (room : Nat) : Tree → Option Span
  | .brackets set => set.tooDeep? room
  | .repeated span _ _ tree | .group span _ _ tree =>
    match room with
    | 0 => some span
    | room + 1 => tree.tooDeep? room
  | .choice span trees | .sequence span trees =>
    match room with
    | 0 => some span
    | room + 1 => Tree.anyTooDeep? room trees
  | _ => none

def Tree.anyTooDeep? (room : Nat) : List Tree → Option Span
  | [] => none
  | tree :: trees => (tree.tooDeep? room).or (Tree.anyTooDeep? room trees)

end

def maxDepth : Nat :=
  250

end NetScript.Pattern
