import NetScript.Json.Failure

/-!
This module contains the readers that all others are made of. A reader is a function of the
characters that are left. A failure records how many bytes were left, from which its position is
found in the end.
-/

namespace NetScript.Json

abbrev Reader := StateT (List Char) (Except Failure)

namespace Reader

def failure (fault : Fault) (cs : List Char) : Failure :=
  ⟨fault, byteCount cs⟩

/--
The failure at the place one byte further, or at the end.
-/
def failureAfter (fault : Fault) (cs : List Char) : Failure :=
  ⟨fault, byteCount cs - 1⟩

def fail (fault : Fault) : Reader α := do
  throw (failure fault (← get))

def failAfter (fault : Fault) : Reader α := do
  throw (failureAfter fault (← get))

def isBlank (c : Char) : Bool :=
  c = ' ' || c = '\n' || c = '\t' || c = '\r'

def peek? : Reader (Option Char) := do
  return (← get).head?

def skip : Reader Unit :=
  modify List.tail

def skipBlanks : Reader Unit :=
  modify (List.dropWhile isBlank)

def next? : Reader (Option Char) := do
  skipBlanks
  peek?

def literal : List Char → Reader Unit
  | [] => return ()
  | c :: cs => do
    match ← peek? with
    | none => fail .endOfValue
    | some d =>
      if c = d then
        skip
        literal cs
      else
        failAfter .expectedLiteral

theorem run_literal (cs rest : List Char) : (literal cs).run (cs ++ rest) = .ok ((), rest) := by
  induction cs with
  | nil => rfl
  | cons c cs ih =>
    have hstep : (literal (c :: cs)).run (c :: cs ++ rest) = (literal cs).run (cs ++ rest) := by
      simp [literal, peek?, skip]
    rw [hstep, ih]

def finish : Reader Unit := do
  match ← next? with
  | none => return ()
  | some _ => failAfter .trailingCharacters

def document (reader : Reader α) : Reader α := do
  let value ← reader
  finish
  return value

end Reader

def parseWith (reader : Reader α) (text : String) : Except Error α :=
  match (Reader.document reader).run text.toList with
  | .ok (value, _) => .ok value
  | .error failure => .error (failure.locate text.toList)

end NetScript.Json
