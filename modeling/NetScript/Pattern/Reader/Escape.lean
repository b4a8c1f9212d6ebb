import NetScript.Pattern.Cursor
import NetScript.Pattern.Tree
import NetScript.Text.Hex

/-!
This module contains the reading of what is behind a backslash.
-/

namespace NetScript.Pattern

def charOfHex? (digits : List Char) : Option Char :=
  let code := digits.foldl (fun n c => 16 * n + (Text.hexValue? c).getD 0) 0
  if Nat.isValidChar code then some (Char.ofNat code) else none

def isHex (c : Char) : Bool :=
  (Text.hexValue? c).isSome

def readHexDigits : Nat → Cursor → Except Fault (List Char × Cursor)
  | 0, cursor => .ok ([], cursor)
  | count + 1, cursor =>
    match cursor.rest with
    | [] => cursor.fail cursor .incompleteEscape
    | c :: _ =>
      if isHex c then do
        let (digits, cursor) ← readHexDigits count cursor.advance
        return (c :: digits, cursor)
      else
        cursor.fail cursor.next .invalidHexDigit

def readHex (letter : Char) (cursor : Cursor) : Except Fault (Atom × Cursor) := do
  let start := cursor.advance
  if start.rest.head? = some '{' then
    let (digits, stop) := start.advance.collect isHex
    match stop.rest with
    | '}' :: _ =>
      if digits.isEmpty then
        start.fail stop.advance .emptyHexNumber
      else
        match charOfHex? digits with
        | some c => return (.literal c false, stop.advance)
        | none => start.next.fail stop .invalidHexNumber
    | [] => start.fail stop .incompleteEscape
    | _ => stop.fail stop.next .invalidHexDigit
  else
    let count := if letter = 'x' then 2 else if letter = 'u' then 4 else 8
    let (digits, stop) ← readHexDigits count start
    match charOfHex? digits with
    | some c => return (.literal c (letter = 'x'), stop)
    | none => start.fail stop .invalidHexNumber

def splitAt? (part : List Char) : List Char → Option (List Char × List Char)
  | [] => if part.isEmpty then some ([], []) else none
  | c :: cs =>
    if part.isPrefixOf (c :: cs) then
      some ([], (c :: cs).drop part.length)
    else
      (splitAt? part cs).map fun (front, rest) => (c :: front, rest)

def Query.ofName (name : List Char) : Query :=
  match splitAt? ['!', '='] name, splitAt? [':'] name, splitAt? ['='] name with
  | some (name, value), _, _ => ⟨name, some value⟩
  | none, some (name, value), _ => ⟨name, some value⟩
  | none, none, some (name, value) => ⟨name, some value⟩
  | none, none, none => ⟨name, none⟩

def readProperty (isNegated : Bool) (cursor : Cursor) : Except Fault (Atom × Cursor) :=
  let start := cursor.advance
  match start.rest with
  | [] => start.fail start .incompleteEscape
  | '{' :: _ =>
    let (name, stop) := start.advance.collect (· ≠ '}')
    if stop.isAtEnd then
      stop.fail stop .incompleteEscape
    else
      .ok (.property (.ofName name) isNegated, stop.next)
  | '\\' :: _ => start.fail start.next .invalidProperty
  | c :: _ => .ok (.property ⟨[c], none⟩ isNegated, start.advance)

def boundaries : List (String × Place) :=
  [
    ("start", .wordStart),
    ("end", .wordEnd),
    ("start-half", .noWordBefore),
    ("end-half", .noWordBehind)
  ]

/--
Reads the boundary of a word, which starts at `start`. Braces behind it hold the name of a special
boundary, or they are the number of repetitions.
-/
def readBoundary (start cursor : Cursor) : Except Fault (Atom × Cursor) :=
  let brace := cursor.next
  let inner := brace.advance
  let isNamePart c := c.isAlpha || c = '-'
  if brace.rest.head? ≠ some '{' then
    .ok (.place .wordBoundary, brace)
  else
    match inner.rest with
    | [] => start.fail inner .incompleteBoundary
    | c :: _ =>
      if isNamePart c then
        let (name, stop) := inner.collect isNamePart
        if stop.rest.head? ≠ some '}' then
          brace.fail stop .unclosedBoundary
        else
          match boundaries.lookup (String.ofList name) with
          | some place => .ok (.place place, stop.next)
          | none => inner.fail stop .unknownBoundary
      else
        .ok (.place .wordBoundary, brace)

def escapes : List (Char × Atom) :=
  [
    ('d', .shorthand .digit false),
    ('D', .shorthand .digit true),
    ('s', .shorthand .space false),
    ('S', .shorthand .space true),
    ('w', .shorthand .word false),
    ('W', .shorthand .word true),
    ('a', .literal '\x07' false),
    ('f', .literal '\x0c' false),
    ('n', .literal '\n' false),
    ('r', .literal '\r' false),
    ('t', .literal '\t' false),
    ('v', .literal '\x0b' false),
    ('A', .place .textStart),
    ('z', .place .textEnd),
    ('B', .place .noWordBoundary),
    ('<', .place .wordStart),
    ('>', .place .wordEnd)
  ]

def isEscapable (c : Char) : Bool :=
  c ≤ '\x7f' && !c.isAlphanum

def readEscape (start : Cursor) : Except Fault (Atom × Cursor) :=
  let cursor := start.next
  match cursor.rest with
  | [] => start.fail cursor .incompleteEscape
  | c :: _ =>
    if c.isDigit then
      start.fail cursor.next .backreference
    else if c = 'x' || c = 'u' || c = 'U' then
      readHex c cursor
    else if c = 'p' || c = 'P' then
      readProperty (c = 'P') cursor
    else if c = 'b' then
      readBoundary start cursor
    else
      match escapes.lookup c with
      | some atom => .ok (atom, cursor.next)
      | none =>
        if isEscapable c then
          .ok (.literal c false, cursor.next)
        else
          start.fail cursor.next .unknownEscape

end NetScript.Pattern
