import NetScript.Json.Reader.Number
import NetScript.Json.Reader.String

/-!
This module contains the reader of values that are of no interest. They have to be well formed, but
they may be nested to any depth, their numbers may be of any size and their surrogates need not come
in pairs.
-/

namespace NetScript.Json.Reader

def ignoreEscape (cs : List Char) : Except Failure (List Char) :=
  match cs with
  | [] => .error ⟨.endOfString, 0⟩
  | c :: rest =>
    if (simpleEscapes.lookup c).isSome then
      .ok rest
    else if c = 'u' then
      (hexEscape rest).map (·.2)
    else
      .error (failureAfter .invalidEscape (c :: rest))

theorem length_of_ignoreEscape {cs rest : List Char} (h : ignoreEscape cs = .ok rest) :
    rest.length < cs.length := by
  unfold ignoreEscape at h
  split at h
  · simp at h
  · split at h
    · simp_all
    · split at h
      · next tail _ _ =>
        cases hhex : hexEscape tail with
        | error e => simp [hhex, Except.map] at h
        | ok found =>
          have := length_of_hexEscape hhex
          simp only [hhex, Except.map, Except.ok.injEq] at h
          subst h
          simp only [List.length_cons]
          omega
      · simp at h

def ignoreString : Reader Unit :=
  fun cs => go cs
where
  go (cs : List Char) : Except Failure (Unit × List Char) :=
    match cs with
    | [] => .error ⟨.endOfString, 0⟩
    | c :: rest =>
      if c = '"' then
        .ok ((), rest)
      else if c = '\\' then
        match hescape : ignoreEscape rest with
        | .ok rest' =>
          have : rest'.length < rest.length := length_of_ignoreEscape hescape
          go rest'
        | .error failure => .error failure
      else if c.toNat < 0x20 then
        .error (failure .controlCharacter (c :: rest))
      else
        go rest
  termination_by cs.length
  decreasing_by all_goals simp only [List.length_cons]; omega

def ignoreDigits : Reader Unit := do
  if (← digits).isEmpty then
    failAfter .invalidNumber

def ignoreExponent : Reader Unit := do
  let mark ← peek?
  if mark = some 'e' || mark = some 'E' then
    skip
    let sign ← peek?
    if sign = some '+' || sign = some '-' then
      skip
    ignoreDigits

def ignoreNumber : Reader Unit := do
  if (← peek?) = some '0' then
    skip
    if (← peek?).any isDigit then
      failAfter .invalidNumber
  else
    ignoreDigits
  if (← peek?) = some '.' then
    skip
    ignoreDigits
  ignoreExponent

def ignoreScalar (c : Char) : Reader Unit := do
  if c = 'n' then
    skip
    literal ['u', 'l', 'l']
  else if c = 't' then
    skip
    literal ['r', 'u', 'e']
  else if c = 'f' then
    skip
    literal ['a', 'l', 's', 'e']
  else if c = '-' then
    skip
    ignoreNumber
  else if isDigit c then
    ignoreNumber
  else if c = '"' then
    skip
    ignoreString
  else
    failAfter .expectedValue

inductive Bracket where
  | array
  | object
deriving DecidableEq

namespace Bracket

def closer : Bracket → Char
  | array => ']'
  | object => '\x7d'

def expectedComma : Bracket → Fault
  | array => .expectedListComma
  | object => .expectedObjectComma

def endOfText : Bracket → Fault
  | array => .endOfList
  | object => .endOfObject

end Bracket

def ignoreKey : Bracket → Reader Unit
  | .array => return ()
  | .object => do
    match ← next? with
    | none => failAfter .endOfObject
    | some '"' =>
      skip
      ignoreString
      match ← next? with
      | none => failAfter .endOfObject
      | some ':' => skip
      | some _ => failAfter .expectedColon
    | some _ => failAfter .keyNotString

/--
Takes what stands between two values, and gives what is open around the second one. There is none if
everything is closed. The first value may be missing if a bracket was opened just before.
-/
def ignoreBetween (isOpened : Bool) : List Bracket → Reader (Option (List Bracket))
  | [] => return none
  | bracket :: outer => do
    match ← next? with
    | none => failAfter bracket.endOfText
    | some c =>
      if c = ',' && !isOpened then
        skip
        ignoreKey bracket
        return some (bracket :: outer)
      else if c = bracket.closer then
        skip
        ignoreBetween false outer
      else if isOpened then
        ignoreKey bracket
        return some (bracket :: outer)
      else
        failAfter bracket.expectedComma

def ignoreValue : Reader Unit := do
  go (← get).length []
where
  go (fuel : Nat) (enclosing : List Bracket) : Reader Unit :=
    match fuel with
    | 0 => fail .endOfValue
    | fuel + 1 => do
      match ← part enclosing with
      | none => return ()
      | some enclosing => go fuel enclosing
  part (enclosing : List Bracket) : Reader (Option (List Bracket)) := do
    match ← next? with
    | none => failAfter .endOfValue
    | some '[' =>
      skip
      ignoreBetween true (.array :: enclosing)
    | some '\x7b' =>
      skip
      ignoreBetween true (.object :: enclosing)
    | some c =>
      ignoreScalar c
      ignoreBetween false enclosing

end NetScript.Json.Reader
