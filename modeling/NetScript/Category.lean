import NetScript.Json.Reader.Value

/-!
This module contains the categories of nodes, their names and how they are read.
-/

namespace NetScript

inductive Category where
  | input
  | layer
  | activation
  | optimizer
  | transform
  | loss
  | operation
  | output
deriving DecidableEq

namespace Category

def all : List Category :=
  [input, layer, activation, optimizer, transform, loss, operation, output]

def name : Category → String
  | input => "input"
  | layer => "layer"
  | activation => "activation"
  | optimizer => "optimizer"
  | transform => "transform"
  | loss => "loss"
  | operation => "operation"
  | output => "output"

def ofName? (name : String) : Option Category :=
  all.find? (·.name = name)

@[simp]
theorem ofName?_name (category : Category) : ofName? category.name = some category := by
  cases category <;> decide

def isModelPart : Category → Bool
  | layer => true
  | activation => true
  | _ => false

open Json.Reader

def readName : Json.Reader Category := do
  let name ← stringBody
  match ofName? name with
  | some category => return category
  | none => fail (.unknownVariant name (all.map Category.name))

def readNull : Json.Reader Unit := do
  match ← next? with
  | none => failAfter .endOfValue
  | some 'n' =>
    skip
    literal ['u', 'l', 'l']
  | some _ => wrongType "unit"

/--
Takes an object with one member, whose key is the name of a category and whose value is `null`,
behind the brace that opens it.
-/
def readMember : Json.Reader Category := do
  match ← next? with
  | none => failAfter .endOfObject
  | some '"' =>
    skip
    let category ← readName
    colon
    readNull
    match ← next? with
    | none => fail .endOfObject
    | some '\x7d' =>
      skip
      return category
    | some _ => fail .expectedValue
  | some '\x7d' => failAfter .expectedValue
  | some _ => failAfter .keyNotString

def read (depth : Nat) : Json.Reader Category := do
  match ← next? with
  | none => failAfter .endOfValue
  | some '"' =>
    skip
    readName
  | some '\x7b' => nested (fun _ => readMember) depth
  | some _ => failAfter .expectedValue

def parse (text : String) : Except Json.Error Category :=
  Json.parseWith (read maxDepth) text

def toJson (category : Category) : Json :=
  .string category.name

end Category

end NetScript
