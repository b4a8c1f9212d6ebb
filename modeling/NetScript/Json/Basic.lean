import NetScript.Binary64.Basic

/-!
This module contains JSON documents. The members of an object are kept in a list. The reader sorts
this list by keys, the writer prints it as it is.
-/

namespace NetScript

/--
A number in a document: those without point and exponent are kept exactly.
-/
inductive Json.Number where
  | int (value : Int)
  | float (value : Binary64)
deriving DecidableEq

inductive Json where
  | null
  | bool (value : Bool)
  | number (value : Json.Number)
  | string (value : String)
  | array (items : List Json)
  | object (members : List (String × Json))

namespace Json

/--
An integer never equals a float, and floats are compared as numbers.
-/
def Number.equal : Number → Number → Bool
  | .int i, .int j => i = j
  | .float x, .float y => x.equal y
  | _, _ => false

mutual

def equal : Json → Json → Bool
  | .null, .null => true
  | .bool a, .bool b => a = b
  | .number a, .number b => a.equal b
  | .string a, .string b => a = b
  | .array as, .array bs => equalItems as bs
  | .object as, .object bs => equalMembers as bs
  | _, _ => false

def equalItems : List Json → List Json → Bool
  | [], [] => true
  | a :: as, b :: bs => equal a b && equalItems as bs
  | _, _ => false

def equalMembers : List (String × Json) → List (String × Json) → Bool
  | [], [] => true
  | (k, a) :: as, (l, b) :: bs => k = l && equal a b && equalMembers as bs
  | _, _ => false

end

end Json

end NetScript
