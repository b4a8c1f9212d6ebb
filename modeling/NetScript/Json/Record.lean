import NetScript.Json.Reader.Ignored
import NetScript.Json.Reader.Value

/-!
This module contains the reader of records. A record is written as an object, with its members in
any order, or as an array, with its fields in the order of their declaration. The values are
collected in a draft, which becomes a record once nothing is missing.
-/

namespace NetScript.Json

structure Slot (δ : Type) where
  name : String
  aliases : List String := []
  /-- Whether an array may end before this field. -/
  isOptional : Bool := false
  isFilled : δ → Bool
  fill : Nat → δ → Reader δ

def Slot.isNamed (slot : Slot δ) (key : String) : Bool :=
  key = slot.name || slot.aliases.contains key

/--
The description of a record of type `α` that is drafted in `δ`.
-/
structure Record (δ α : Type) where
  name : String
  slots : List (Slot δ)
  blank : δ
  finish : δ → Except Fault α

namespace Record

open Reader

variable {δ α : Type}

/--
Fills the field with the given key, behind the key. Members that belong to no field are ignored.
-/
def member (record : Record δ α) (depth : Nat) (draft : δ) (key : String) :
    Reader (Except Fault δ) := do
  match record.slots.find? (·.isNamed key) with
  | some slot =>
    if slot.isFilled draft then
      return .error (.duplicateField slot.name)
    else
      colon
      return .ok (← slot.fill depth draft)
  | none =>
    colon
    ignoreValue
    return .ok draft

def ofMembers (record : Record δ α) (depth : Nat) : Reader α := do
  let draft ← members (record.member depth) record.blank
  closeObject (draft.bind record.finish)

def fillItems (record : Record δ α) (depth index : Nat) (draft : δ) :
    List (Slot δ) → Reader (Except Fault δ)
  | [] => return .ok draft
  | slot :: slots => do
    if ← hasItem (index = 0) then
      record.fillItems depth (index + 1) (← slot.fill depth draft) slots
    else if slot.isOptional then
      record.fillItems depth (index + 1) draft slots
    else
      return .error (.tooShort index record.name record.slots.length)

def ofItems (record : Record δ α) (depth : Nat) : Reader α := do
  let draft ← record.fillItems depth 0 record.blank record.slots
  closeArray (draft.bind record.finish)

def read (record : Record δ α) (depth : Nat) : Reader α := do
  match ← next? with
  | none => failAfter .endOfValue
  | some '[' => nested record.ofItems depth
  | some '\x7b' => nested record.ofMembers depth
  | some _ => wrongType ("struct " ++ record.name)

end Record

def required (name : String) : Option α → Except Fault α
  | some value => .ok value
  | none => .error (.missingField name)

end NetScript.Json
