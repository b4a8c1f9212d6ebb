import NetScript.Pattern.Fault
import NetScript.Text.Blank

/-!
This module contains the places in the text of a pattern while it is read.
-/

namespace NetScript.Pattern

structure Cursor where
  rest : List Char
  offset : Nat
  skipsBlank : Bool := false

namespace Cursor

def blankLength (isComment : Bool) : List Char → Nat
  | [] => 0
  | c :: cs =>
    if isComment then
      blankLength (c ≠ '\n') cs + 1
    else if Text.isBlank c then
      blankLength false cs + 1
    else if c = '#' then
      blankLength true cs + 1
    else
      0

def move (count : Nat) (cursor : Cursor) : Cursor :=
  { cursor with rest := cursor.rest.drop count, offset := cursor.offset + count }

def next (cursor : Cursor) : Cursor :=
  match cursor.rest with
  | [] => cursor
  | _ :: rest => { cursor with rest, offset := cursor.offset + 1 }

def skip (cursor : Cursor) : Cursor :=
  if cursor.skipsBlank then cursor.move (blankLength false cursor.rest) else cursor

def advance (cursor : Cursor) : Cursor :=
  cursor.next.skip

def isAtEnd (cursor : Cursor) : Bool :=
  cursor.rest.isEmpty

def spanTo (start stop : Cursor) : Span :=
  ⟨start.offset, stop.offset⟩

def charSpan (cursor : Cursor) : Span :=
  cursor.spanTo cursor.next

def fail {α : Type} (start stop : Cursor) (reason : Fault.Reason) : Except Fault α :=
  .error { reason, span := start.spanTo stop }

theorem length_skip (cursor : Cursor) : cursor.skip.rest.length ≤ cursor.rest.length := by
  unfold skip
  split
  · simp [move]
  · exact Nat.le_refl _

theorem length_advance {cursor : Cursor} {c : Char} {cs : List Char} (h : cursor.rest = c :: cs) :
    cursor.advance.rest.length < cursor.rest.length := by
  have hskip := length_skip cursor.next
  have hnext : cursor.next.rest = cs := by simp [next, h]
  rw [hnext] at hskip
  rw [advance, h, List.length_cons]
  omega

def collect (accepts : Char → Bool) (cursor : Cursor) : List Char × Cursor :=
  match h : cursor.rest with
  | [] => ([], cursor)
  | c :: _ =>
    have := length_advance h
    if accepts c then
      let (cs, stop) := collect accepts cursor.advance
      (c :: cs, stop)
    else
      ([], cursor)
termination_by cursor.rest.length

end Cursor

end NetScript.Pattern
