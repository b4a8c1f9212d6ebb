import NetScript.Fields
import NetScript.Json.Reader.Container
import NetScript.Json.Reader.Number

/-!
This module contains the reader of arbitrary documents, and those of the parts that records are made
of: texts, sequences and maps.
-/

namespace NetScript.Json

namespace Reader

def maxDepth : Nat := 127

def scalar (c : Char) : Reader Json := do
  if c = 'n' then
    skip
    literal ['u', 'l', 'l']
    return .null
  else if c = 't' then
    skip
    literal ['r', 'u', 'e']
    return .bool true
  else if c = 'f' then
    skip
    literal ['a', 'l', 's', 'e']
    return .bool false
  else if c = '-' then
    skip
    return .number (← number true)
  else if isDigit c then
    return .number (← number false)
  else if c = '"' then
    skip
    return .string (← stringBody)
  else
    failAfter .expectedValue

def valueWith (array object : Reader Json) : Reader Json := do
  match ← next? with
  | none => failAfter .endOfValue
  | some '[' => array
  | some '\x7b' => object
  | some c => scalar c

def arrayOf (item : Reader Json) : Reader Json := do
  skip
  let read ← items item
  closeArray (.ok (.array read))

/--
Takes an object. Of two members with the same key the later one is kept.
-/
def objectOf (value : Reader Json) : Reader Json := do
  skip
  let read ← members member []
  closeObject (read.map .object)
where
  member (read : List (String × Json)) (key : String) :
      Reader (Except Fault (List (String × Json))) := do
    colon
    return .ok (Fields.insertEntry key (← value) read)

def value : Nat → Reader Json
  | 0 => valueWith (failAfter .nestedTooDeep) (failAfter .nestedTooDeep)
  | depth + 1 => valueWith (arrayOf (value depth)) (objectOf (value depth))

/--
Fails because what follows is not what was expected. A scalar is taken first.
-/
def wrongType (expected : String) : Reader α := do
  match ← next? with
  | none => failAfter .expectedValue
  | some '[' => fail (.wrongType .sequence expected)
  | some '\x7b' => fail (.wrongType .map expected)
  | some c =>
    match ← scalar c with
    | .null => fail (.wrongType .null expected)
    | .bool b => fail (.wrongType (.bool b) expected)
    | .number n => fail (.wrongType (.number n) expected)
    | .string s => fail (.wrongType (.string s) expected)
    | .array _ => fail (.wrongType .sequence expected)
    | .object _ => fail (.wrongType .map expected)

def text : Reader String := do
  match ← next? with
  | none => failAfter .endOfValue
  | some '"' =>
    skip
    stringBody
  | some _ => wrongType "a string"

def sequence (item : Nat → Reader α) (depth : Nat) : Reader (List α) := do
  match ← next? with
  | none => failAfter .endOfValue
  | some '[' =>
    nested (fun depth => do
      let read ← items (item depth)
      closeArray (.ok read)) depth
  | some _ => wrongType "a sequence"

def map (value : Nat → Reader α) (depth : Nat) : Reader (Fields α) := do
  match ← next? with
  | none => failAfter .endOfValue
  | some '\x7b' =>
    nested (fun depth => do
      let read ← members (member depth) .empty
      closeObject read) depth
  | some _ => wrongType "a map"
where
  member (depth : Nat) (read : Fields α) (key : String) : Reader (Except Fault (Fields α)) := do
    colon
    return .ok (read.insert key (← value depth))

def optional (reader : Reader α) : Reader (Option α) := do
  match ← next? with
  | some 'n' =>
    skip
    literal ['u', 'l', 'l']
    return none
  | _ => return some (← reader)

end Reader

def parse (text : String) : Except Error Json :=
  parseWith (Reader.value Reader.maxDepth) text

end NetScript.Json
