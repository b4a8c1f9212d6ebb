import NetScript.Json.Reader.String

/-!
This module contains the readers of arrays and objects, up to what their items and members are. What
is in a container may be in order as far as the text goes and still be refused as data. Such a fault
has no place of its own: the container is left first, as far as possible, and the fault is put where
the reader then is.
-/

namespace NetScript.Json.Reader

/--
Whether another item follows. The bracket that closes the array is not taken.
-/
def hasItem (first : Bool) : Reader Bool := do
  match ← next? with
  | none => failAfter .endOfList
  | some ']' => return false
  | some c =>
    if first then
      return true
    else if c = ',' then
      skip
      match ← next? with
      | none => failAfter .endOfValue
      | some ']' => failAfter .trailingComma
      | some _ => return true
    else
      failAfter .expectedListComma

/--
Takes all items of an array. Each takes at least one character, so their number is bounded by
the length of the text.
-/
def items (item : Reader α) : Reader (List α) := do
  go (← get).length true []
where
  go (fuel : Nat) (first : Bool) (read : List α) : Reader (List α) :=
    match fuel with
    | 0 => fail .endOfList
    | fuel + 1 => do
      if ← hasItem first then
        let value ← item
        go fuel false (value :: read)
      else
        return read.reverse

/--
Whether another member follows. The quote that opens its key is taken, the brace that closes the
object is not.
-/
def hasMember (first : Bool) : Reader Bool := do
  match ← next? with
  | none => failAfter .endOfObject
  | some '\x7d' => return false
  | some c =>
    if first then
      if c = '"' then
        skip
        return true
      else
        failAfter .keyNotString
    else if c = ',' then
      skip
      match ← next? with
      | none => failAfter .endOfValue
      | some '"' =>
        skip
        return true
      | some '\x7d' => failAfter .trailingComma
      | some _ => failAfter .keyNotString
    else
      failAfter .expectedObjectComma

def colon : Reader Unit := do
  match ← next? with
  | none => failAfter .endOfObject
  | some ':' => skip
  | some _ => failAfter .expectedColon

/--
Takes all members of an object. The given step is run behind each key, it takes the colon and
the value. It stops the reader by a fault in the data.
-/
def members (step : σ → String → Reader (Except Fault σ)) (initial : σ) :
    Reader (Except Fault σ) := do
  go (← get).length true initial
where
  go (fuel : Nat) (first : Bool) (state : σ) : Reader (Except Fault σ) :=
    match fuel with
    | 0 => fail .endOfObject
    | fuel + 1 => do
      if ← hasMember first then
        let key ← stringBody
        match ← step state key with
        | .ok state => go fuel false state
        | .error fault => return .error fault
      else
        return .ok state

def endArray : Reader Unit := do
  match ← next? with
  | none => failAfter .endOfList
  | some ']' => skip
  | some ',' =>
    skip
    match ← next? with
    | some ']' => failAfter .trailingComma
    | _ => failAfter .trailingCharacters
  | some _ => failAfter .trailingCharacters

def endObject : Reader Unit := do
  match ← next? with
  | none => failAfter .endOfObject
  | some '\x7d' => skip
  | some ',' => failAfter .trailingComma
  | some _ => failAfter .trailingCharacters

def leaveArray : Reader Unit := do
  match ← next? with
  | some ']' => skip
  | some ',' =>
    skip
    skipBlanks
  | _ => return ()

def leaveObject : Reader Unit := do
  match ← next? with
  | some '\x7d' => skip
  | _ => return ()

def closeArray (outcome : Except Fault α) : Reader α := do
  match outcome with
  | .ok value =>
    endArray
    return value
  | .error fault =>
    leaveArray
    fail fault

def closeObject (outcome : Except Fault α) : Reader α := do
  match outcome with
  | .ok value =>
    endObject
    return value
  | .error fault =>
    leaveObject
    fail fault

def nested (body : Nat → Reader α) : Nat → Reader α
  | 0 => failAfter .nestedTooDeep
  | depth + 1 => do
    skip
    body depth

end NetScript.Json.Reader
