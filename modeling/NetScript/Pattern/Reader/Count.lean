import NetScript.Pattern.Cursor
import NetScript.Pattern.Tree

/-!
This module contains the reading of how often something is repeated.
-/

namespace NetScript.Pattern

structure Count where
  least : Nat
  most? : Option Nat
deriving DecidableEq

def skipBlank (cursor : Cursor) : Cursor :=
  cursor.move (cursor.rest.takeWhile Text.isBlank).length

def countLimit : Nat :=
  0x100000000

def readNumber (cursor : Cursor) : Except Fault Nat × Cursor :=
  let start := skipBlank cursor
  let (digits, stop) := start.collect Char.isDigit
  let number := digits.foldl (fun n c => 10 * n + (c.toNat - '0'.toNat)) 0
  let result :=
    if digits.isEmpty then
      start.fail stop .missingCount
    else if number < countLimit then
      .ok number
    else
      start.fail stop .hugeCount
  (result, (skipBlank stop).skip)

/--
Repetitions are as many as possible or as few. This does not change where a pattern occurs.
-/
def skipGreed (cursor : Cursor) : Cursor :=
  if cursor.rest.head? = some '?' then cursor.next else cursor

def closeCount (start : Cursor) (count : Count) (cursor : Cursor) :
    Except Fault (Count × Cursor) :=
  if cursor.rest.head? = some '}' then
    let stop := skipGreed cursor.advance
    if count.most?.all (count.least ≤ ·) then
      .ok (count, stop)
    else
      start.fail stop .reversedCount
  else
    start.fail cursor .unclosedCount

def readCount (start : Cursor) : Except Fault (Count × Cursor) := do
  let cursor := start.advance
  if cursor.isAtEnd then
    start.fail cursor .unclosedCount
  else
    let (least, cursor) := readNumber cursor
    match cursor.rest with
    | [] => start.fail cursor .unclosedCount
    | ',' :: _ =>
      let cursor := cursor.advance
      match cursor.rest with
      | [] => start.fail cursor .unclosedCount
      | '}' :: _ => closeCount start ⟨← least, none⟩ cursor
      | _ =>
        let least ← least
        let (most, cursor) := readNumber cursor
        closeCount start ⟨least, some (← most)⟩ cursor
    | _ =>
      let least ← least
      closeCount start ⟨least, some least⟩ cursor

end NetScript.Pattern
