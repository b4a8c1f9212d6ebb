import NetScript.Json.Reader.Value

/-!
This module contains documents as they are written. An object of such a document has all its members
in the order of the text, and a key may be given twice. It stands for the object that has the last
member of each key.
-/

namespace NetScript.Json

mutual

/--
The document that is meant: of two members with the same key the later one is kept, and members are
sorted by their keys.
-/
def tidy : Json → Json
  | .array items => .array (tidyItems items)
  | .object members => .object (tidyMembers [] members)
  | document => document

def tidyItems : List Json → List Json
  | [] => []
  | item :: items => tidy item :: tidyItems items

def tidyMembers (sorted : List (String × Json)) : List (String × Json) → List (String × Json)
  | [] => sorted
  | (key, value) :: members => tidyMembers (Fields.insertEntry key (tidy value) sorted) members

end

def bool? : Json → Option Bool
  | .bool b => some b
  | _ => none

def number? : Json → Option Number
  | .number n => some n
  | _ => none

def string? : Json → Option String
  | .string s => some s
  | _ => none

def items? : Json → Option (List Json)
  | .array items => some items
  | _ => none

namespace Reader

def verbatimObjectOf (value : Reader Json) : Reader Json := do
  skip
  let read ← members member []
  closeObject (read.map fun members => .object members.reverse)
where
  member (read : List (String × Json)) (key : String) :
      Reader (Except Fault (List (String × Json))) := do
    colon
    return .ok ((key, ← value) :: read)

/--
Takes any value as it is written. The given number of arrays and objects may be open at once.
-/
def verbatim : Nat → Reader Json
  | 0 => valueWith (failAfter .nestedTooDeep) (failAfter .nestedTooDeep)
  | depth + 1 => valueWith (arrayOf (verbatim depth)) (verbatimObjectOf (verbatim depth))

end Reader

end NetScript.Json
