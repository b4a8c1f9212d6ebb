import NetScript.Pattern.Reader.Class
import NetScript.Pattern.Reader.Count
import NetScript.Pattern.Reader.Group

/-!
This module contains the reading of the form of a pattern from its text.
-/

namespace NetScript.Pattern

/--
A group that is not closed yet. The whole text is one without parentheses.
-/
structure Group where
  start : Nat
  isCaptured : Bool
  switches : List Switch
  skipsBlank : Bool
  /-- The branches in front of the last bar, the last one first. -/
  branches : List Tree := []
  firstBranch : Nat
  lastBranch : Nat
  parts : List Tree := []

namespace Group

def push (group : Group) (part : Tree) : Group :=
  { group with parts := part :: group.parts }

def branch (group : Group) (stop : Nat) : Tree :=
  let span : Span := ⟨group.lastBranch, stop⟩
  match group.parts with
  | [] => .empty span
  | [part] => part
  | parts => .sequence span parts.reverse

def startBranch (group : Group) (stop : Nat) : Group :=
  { group with
    branches := group.branch stop :: group.branches
    lastBranch := stop + 1
    parts := [] }

def whole (group : Group) (stop : Nat) : Tree :=
  match group.branches with
  | [] => group.branch stop
  | branches => .choice ⟨group.firstBranch, stop⟩ (branches.reverse ++ [group.branch stop])

end Group

/--
How far the reading has got. The group is the innermost one, and those around it follow in `outer`.
-/
structure Reading where
  cursor : Cursor
  group : Group
  outer : List Group := []
  names : List (List Char × Span) := []

namespace Reading

def start (text : List Char) : Reading where
  cursor := { rest := text, offset := 0 }
  group :=
    {
      start := 0, isCaptured := false, switches := [], skipsBlank := false
      firstBranch := 0, lastBranch := 0
    }

def push (reading : Reading) (part : Tree) (stop : Cursor) : Reading :=
  { reading with cursor := stop, group := reading.group.push part }

def openGroup (reading : Reading) (isCaptured : Bool) (switches : List Switch) (stop : Cursor) :
    Reading :=
  let skipsBlank := (switched? switches .ignoreBlank).getD stop.skipsBlank
  { reading with
    cursor := { stop with skipsBlank }
    group :=
      {
        start := reading.cursor.offset, isCaptured, switches, skipsBlank := stop.skipsBlank
        firstBranch := stop.offset, lastBranch := stop.offset
      }
    outer := reading.group :: reading.outer }

def readOpening (reading : Reading) : Except Fault Reading := do
  let (opening, stop) ← Pattern.readOpening reading.cursor
  match opening with
  | .captured => return reading.openGroup true [] stop
  | .uncaptured switches => return reading.openGroup false switches stop
  | .named name span =>
    match reading.names.lookup name with
    | some earlier => throw { reason := .repeatedName, span, other? := some earlier }
    | none => return { reading.openGroup true [] stop with names := (name, span) :: reading.names }
  | .switch switches =>
    let skipsBlank := (switched? switches .ignoreBlank).getD stop.skipsBlank
    return reading.push (.switch (reading.cursor.spanTo stop) switches) { stop with skipsBlank }

def closeGroup (reading : Reading) : Except Fault Reading :=
  let stop := reading.cursor.next
  match reading.outer with
  | [] => reading.cursor.fail stop .unopenedGroup
  | group :: outer =>
    let closed := reading.group
    let tree := .group ⟨closed.start, stop.offset⟩ closed.isCaptured closed.switches
      (closed.whole reading.cursor.offset)
    let cursor := { stop with skipsBlank := closed.skipsBlank }
    .ok { reading with cursor, group := group.push tree, outer }

/--
Repeats the last part. The flags cannot be repeated.
-/
def repeatLast (reading : Reading) (count : Except Fault (Count × Cursor)) : Except Fault Reading :=
  match reading.group.parts with
  | [] | .empty _ :: _ | .switch _ _ :: _ =>
    reading.cursor.fail reading.cursor .missingExpression
  | part :: parts => do
    let (⟨least, most?⟩, stop) ← count
    let part := .repeated ⟨part.span.start, stop.offset⟩ least most? part
    return { reading with cursor := stop, group := { reading.group with parts := part :: parts } }

def repeatByMark (reading : Reading) (least : Nat) (most? : Option Nat) : Except Fault Reading :=
  reading.repeatLast (.ok (⟨least, most?⟩, skipGreed reading.cursor.next))

def readPart (reading : Reading) (c : Char) : Except Fault Reading :=
  let cursor := reading.cursor
  let atom (atom : Atom) := reading.push (.atom cursor.charSpan atom) cursor.next
  match c with
  | '(' => reading.readOpening
  | ')' => reading.closeGroup
  | '|' =>
    .ok { reading with cursor := cursor.next, group := reading.group.startBranch cursor.offset }
  | '[' => do
    let (set, stop) ← readClass cursor
    return reading.push (.brackets set) stop
  | '?' => reading.repeatByMark 0 (some 1)
  | '*' => reading.repeatByMark 0 none
  | '+' => reading.repeatByMark 1 none
  | '{' => reading.repeatLast (readCount cursor)
  | '\\' => do
    let (atom, stop) ← readEscape cursor
    return reading.push (.atom (cursor.spanTo stop) atom) stop
  | '.' => .ok (atom .dot)
  | '^' => .ok (atom (.place .lineStart))
  | '$' => .ok (atom (.place .lineEnd))
  | c => .ok (atom (.literal c false))

def finish : Nat → Reading → Except Fault Tree
  | fuel, reading =>
    let reading := { reading with cursor := reading.cursor.skip }
    match fuel, reading.cursor.rest with
    | fuel + 1, c :: _ => do finish fuel (← reading.readPart c)
    | _, _ =>
      match reading.outer with
      | [] => .ok (reading.group.whole reading.cursor.offset)
      | _ :: _ =>
        let start := reading.group.start
        .error { reason := .unclosedGroup, span := ⟨start, start + 1⟩ }

end Reading

def Tree.read (text : List Char) : Except Fault Tree := do
  let tree ← (Reading.start text).finish text.length
  match tree.tooDeep? maxDepth with
  | some span => throw { reason := .tooDeep, span }
  | none => return tree

end NetScript.Pattern
