import NetScript.CharSet.Ascii
import NetScript.Pattern.Reader.Escape

/-!
This module contains the reading of sets of characters in brackets.
-/

namespace NetScript.Pattern

structure Members where
  span : Span
  items : List Class := []

namespace Members

def push (members : Members) (item : Class) : Members :=
  match members.items with
  | [] => ⟨item.span, [item]⟩
  | items => ⟨⟨members.span.start, item.span.stop⟩, item :: items⟩

def toClass (members : Members) : Class :=
  match members.items with
  | [] => .empty members.span
  | [item] => item
  | items => .union members.span items.reverse

end Members

structure Brackets where
  opening : Span
  isNegated : Bool
  left? : Option (SetOperator × Class) := none
  members : Members

namespace Brackets

def push (brackets : Brackets) (item : Class) : Brackets :=
  { brackets with members := brackets.members.push item }

def whole (brackets : Brackets) : Class :=
  let right := brackets.members.toClass
  match brackets.left? with
  | some (operator, left) =>
    .operation ⟨left.span.start, right.span.stop⟩ operator left right
  | none => right

def operate (brackets : Brackets) (operator : SetOperator) (stop : Cursor) : Brackets :=
  { brackets with left? := some (operator, brackets.whole), members := ⟨stop.spanTo stop, []⟩ }

def close (brackets : Brackets) (stop : Cursor) : Class :=
  .brackets ⟨brackets.opening.start, stop.offset⟩ brackets.isNegated brackets.whole

def unclosed {α : Type} (brackets : Brackets) : Except Fault α :=
  .error { reason := .unclosedClass, span := brackets.opening }

end Brackets

/--
Reads hyphens at the beginning of a set, which stand for themselves.
-/
def readHyphens (start cursor : Cursor) (members : Members) : Except Fault (Members × Cursor) :=
  match h : cursor.rest with
  | [] => start.fail start .unclosedClass
  | c :: _ =>
    have := Cursor.length_advance h
    if c = '-' then
      readHyphens start cursor.advance (members.push (.literal ⟨cursor.charSpan, '-', false⟩))
    else
      .ok (members, cursor)
termination_by cursor.rest.length

/--
Reads a bracket and what belongs to it. Another bracket that would close an empty set stands for
itself.
-/
def openBrackets (start : Cursor) : Except Fault (Brackets × Cursor) := do
  let cursor := start.advance
  let isNegated := cursor.rest.head? = some '^'
  let cursor := if isNegated then cursor.advance else cursor
  if cursor.isAtEnd then
    start.fail cursor .unclosedClass
  else
    let (members, cursor) ← readHyphens start cursor ⟨cursor.spanTo cursor, []⟩
    if members.items.isEmpty && cursor.rest.head? = some ']' then
      let members := members.push (.literal ⟨cursor.charSpan, ']', false⟩)
      let cursor := cursor.advance
      if cursor.isAtEnd then
        start.fail cursor .unclosedClass
      else
        return ({ opening := start.spanTo cursor, isNegated, members }, cursor)
    else
      return ({ opening := start.spanTo cursor, isNegated, members }, cursor)

def readNamedClass? (start : Cursor) : Option (Class × Cursor) :=
  match start.rest with
  | '[' :: ':' :: cs =>
    let isNegated : Bool := cs.head? = some '^'
    let name := (if isNegated then cs.tail else cs).takeWhile (· ≠ ':')
    let stop := start.move (2 + isNegated.toNat + name.length)
    match stop.rest, CharSet.named.lookup (String.ofList name) with
    | ':' :: ']' :: _, some chars =>
      let stop := stop.move 2
      some (.named (start.spanTo stop) chars isNegated, stop)
    | _, _ => none
  | _ => none

def readMember (cursor : Cursor) : Except Fault (Atom × Cursor) :=
  match cursor.rest with
  | '\\' :: _ => readEscape cursor
  | c :: _ => .ok (.literal c false, cursor.next)
  | [] => cursor.fail cursor .unclosedClass

def itemOfAtom (span : Span) : Atom → Except Fault Class
  | .literal c isByte => .ok (.literal ⟨span, c, isByte⟩)
  | .shorthand kind isNegated => .ok (.shorthand span kind isNegated)
  | .property query isNegated => .ok (.property span query isNegated)
  | .dot | .place _ => .error { reason := .misplacedEscape, span }

def boundOfAtom (span : Span) : Atom → Except Fault Literal
  | .literal c isByte => .ok ⟨span, c, isByte⟩
  | _ => .error { reason := .unboundedRange, span }

/--
The character behind the next one and behind blanks, if they are skipped. Behind the beginning of a
comment only blanks are skipped.
-/
def peek (cursor : Cursor) : Option Char :=
  let cs := cursor.rest.tail
  if cursor.skipsBlank then
    let shown := cs.dropWhile Text.isBlank
    let shown := if shown.head? = some '#' then shown.tail.dropWhile Text.isBlank else shown
    shown.head?.or cs.head?
  else
    cs.head?

def readItem (brackets : Brackets) (start : Cursor) : Except Fault (Class × Cursor) := do
  let (first, stop) ← readMember start
  let span := start.spanTo stop
  let cursor := stop.skip
  if cursor.isAtEnd then
    brackets.unclosed
  -- A hyphen before the end of the class or before another one makes no range.
  else if cursor.rest.head? ≠ some '-' || peek cursor = some ']' || peek cursor = some '-' then
    return (← itemOfAtom span first, cursor)
  else
    let cursor := cursor.advance
    if cursor.isAtEnd then
      brackets.unclosed
    else
      let (last, stop) ← readMember cursor
      let first ← boundOfAtom span first
      let last ← boundOfAtom (cursor.spanTo stop) last
      if first.char ≤ last.char then
        return (.range first last, stop)
      else
        start.fail stop .reversedRange

def operator? : List Char → Option SetOperator
  | '&' :: '&' :: _ => some .intersection
  | '-' :: '-' :: _ => some .difference
  | '~' :: '~' :: _ => some .symmetricDifference
  | _ => none

/--
Reads the members of a set up to the bracket that closes it. The sets around it follow in `outer`.
-/
def readMembers : Nat → Brackets → List Brackets → Cursor → Except Fault (Class × Cursor)
  | 0, brackets, _, _ => brackets.unclosed
  | fuel + 1, brackets, outer, cursor => do
    let cursor := cursor.skip
    match operator? cursor.rest with
    | some operator =>
      let cursor := cursor.move 2
      readMembers fuel (brackets.operate operator cursor) outer cursor
    | none =>
      match cursor.rest with
      | [] => brackets.unclosed
      | '[' :: _ =>
        match readNamedClass? cursor with
        | some (item, cursor) => readMembers fuel (brackets.push item) outer cursor
        -- What is no named class opens a class inside this one.
        | none =>
          let (inner, cursor) ← openBrackets cursor
          readMembers fuel inner (brackets :: outer) cursor
      | ']' :: _ =>
        let set := brackets.close cursor.next
        match outer with
        | [] => return (set, cursor.next)
        | next :: outer => readMembers fuel (next.push set) outer cursor.next
      | _ =>
        let (item, cursor) ← readItem brackets cursor
        readMembers fuel (brackets.push item) outer cursor

def readClass (start : Cursor) : Except Fault (Class × Cursor) := do
  let (brackets, cursor) ← openBrackets start
  readMembers start.rest.length brackets [] cursor

end NetScript.Pattern
