import NetScript.Pattern.Cursor
import NetScript.Pattern.Tree
import NetScript.Unicode.Property

/-!
This module contains the reading of the beginning of a group.
-/

namespace NetScript.Pattern

/--
The letters, with those that are newer than the table of alphabetic characters.
-/
def nameLetters : CharSet :=
  Unicode.Property.alphabetic.chars ∪ .ofTable
    [
      "88f c5c cdc a7ce-a7cf a7d2 a7d4 a7f1 10940-10959 10ec5-10ec7 10efa-10efb 11b60-11b67",
      "11db0-11ddb 16ea0-16eb8 16ebb-16ed3 16ff2-16ff6 187f8-187ff 18d09-18d1e 18d80-18df2",
      "1e6c0-1e6de 1e6e0-1e6f5 1e6fe-1e6ff 2b73a-2b73f 2cea2-2cead 323b0-33479"
    ]

def nameNumbers : CharSet :=
  .unions (.ofTable ["11de0-11de9"] :: Unicode.GeneralCategory.numbers.map (·.chars))

def isNameStart (c : Char) : Bool :=
  c = '_' || nameLetters.contains c

def isNamePart (c : Char) : Bool :=
  c = '.' || c = '[' || c = ']' || isNameStart c || nameNumbers.contains c

def readName (start : Cursor) : Except Fault ((List Char × Span) × Cursor) :=
  let name :=
    match start.rest with
    | [] => []
    | c :: cs => if isNameStart c then c :: cs.takeWhile isNamePart else []
  let stop := start.move name.length
  match stop.rest with
  | [] => stop.fail stop .unclosedName
  | '>' :: _ =>
    if name.isEmpty then
      start.fail start .emptyName
    else
      .ok ((name, start.spanTo stop), stop.next)
  | _ => stop.fail stop.next .invalidName

/--
Reads the letters of flags up to the colon or the parenthesis behind them. A hyphen switches off the
flags behind it. The letters and the hyphen in front are given with their places.
-/
def readSwitches (isOn : Bool) (seen : List (Option Flag × Nat)) :
    List Char → Nat → Except Fault (List Switch)
  | [], offset => .error { reason := .unfinishedFlags, span := ⟨offset, offset⟩ }
  | c :: cs, offset =>
    if c = ':' || c = ')' then
      match seen with
      | (none, hyphen) :: _ =>
        .error { reason := .danglingNegation, span := ⟨hyphen, hyphen + 1⟩ }
      | _ => .ok []
    else
      let span : Span := ⟨offset, offset + 1⟩
      let flag? := Flag.ofLetter? c
      if flag?.isNone && c ≠ '-' then
        .error { reason := .unknownFlag, span }
      else
        match seen.lookup flag? with
        | some earlier =>
          let reason := if flag?.isSome then .repeatedFlag else .repeatedNegation
          .error { reason, span, other? := some ⟨earlier, earlier + 1⟩ }
        | none => do
          let seen := (flag?, offset) :: seen
          let switches ← readSwitches (isOn && flag?.isSome) seen cs (offset + 1)
          return (flag?.map (⟨·, isOn⟩)).toList ++ switches

inductive Opening where
  | captured
  | named (name : List Char) (span : Span)
  | uncaptured (switches : List Switch)
  /-- The flags are switched up to the end of the group around them. -/
  | switch (switches : List Switch)

def readOpening (start : Cursor) : Except Fault (Opening × Cursor) := do
  let cursor := start.advance
  match cursor.rest with
  | '?' :: '=' :: _ | '?' :: '!' :: _ => start.fail (cursor.move 2) .lookAround
  | '?' :: '<' :: '=' :: _ | '?' :: '<' :: '!' :: _ => start.fail (cursor.move 3) .lookAround
  | '?' :: 'P' :: '<' :: _ =>
    let ((name, span), cursor) ← readName (cursor.move 3)
    return (.named name span, cursor)
  | '?' :: '<' :: _ =>
    let ((name, span), cursor) ← readName (cursor.move 2)
    return (.named name span, cursor)
  | ['?'] => start.fail start.next .unclosedGroup
  | '?' :: cs =>
    let switches ← readSwitches true [] cs (cursor.offset + 1)
    let stop := cursor.move (1 + (cs.takeWhile fun c => c ≠ ':' && c ≠ ')').length)
    if stop.rest.head? = some ':' then
      return (.uncaptured switches, stop.next)
    else if switches.isEmpty then
      cursor.fail cursor .missingExpression
    else
      return (.switch switches, stop.next)
  | _ => return (.captured, cursor)

end NetScript.Pattern
