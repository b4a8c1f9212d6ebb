import NetScript.Code.Number
import NetScript.Code.Quoted
import NetScript.Json.Verbatim

/-!
This module contains the settings of a node. A setting can be any JSON document, but only the shapes
that the generated code can hold are told apart. A document is read as it is written, and then the
shapes are tried in turn.
-/

namespace NetScript

inductive Atom where
  | number (value : Binary64)
  | text (value : String)
deriving DecidableEq

inductive Setting where
  | bool (value : Bool)
  | number (value : Binary64)
  | text (value : String)
  | list (items : List Atom)
  /--
  All other documents. None of them has a value that is asked for, but each is there: one under a
  key with underscores hides the setting under the camel case of the key, so that the default is
  used.
  -/
  | other (document : Json)

def Json.Number.toBinary64 : Json.Number → Binary64
  | .int i => Binary64.ofInt i
  | .float x => x

namespace Atom

def code : Atom → String
  | .number x => Code.number x
  | .text s => Code.quoted s

def equal : Atom → Atom → Bool
  | .number x, .number y => x.equal y
  | .text s, .text t => s = t
  | _, _ => false

def shapes : List (Json → Option Atom) :=
  [ fun document => document.number?.map fun n => .number n.toBinary64,
    fun document => document.string?.map .text ]

def ofVerbatim? (document : Json) : Option Atom :=
  shapes.findSome? (· document)

def ofJson? : Json → Option Atom
  | .number n => some (.number n.toBinary64)
  | .string s => some (.text s)
  | _ => none

def toJson : Atom → Json
  | .number x => .number (.float x)
  | .text s => .string s

/--
A document that is no atom is refused as a whole, before it is known whether anything follows.
-/
def parse (text : String) : Except Json.Error Atom :=
  match (Json.Reader.verbatim Json.Reader.maxDepth).run text.toList with
  | .error failure => .error (failure.locate text.toList)
  | .ok (document, rest) =>
    match ofVerbatim? document with
    | none => .error ⟨.noVariant "Scalar", none⟩
    | some atom =>
      match Json.Reader.finish.run rest with
      | .error failure => .error (failure.locate text.toList)
      | .ok _ => .ok atom

end Atom

namespace Setting

def asBool? : Setting → Option Bool
  | .bool b => some b
  | _ => none

def asNumber? : Setting → Option Binary64
  | .number x => some x
  | _ => none

/--
Lists become tuples. A tuple of one item has a comma behind it.
-/
def tuple : List String → String
  | [item] => "(" ++ item ++ ",)"
  | items => "(" ++ ", ".intercalate items ++ ")"

def code : Setting → String
  | .bool true => "True"
  | .bool false => "False"
  | .number x => Code.number x
  | .text s => Code.quoted s
  | .list items => tuple (items.map Atom.code)
  | .other _ => "None"

def equalLists : List Atom → List Atom → Bool
  | [], [] => true
  | a :: as, b :: bs => a.equal b && equalLists as bs
  | _, _ => false

def equal : Setting → Setting → Bool
  | .bool a, .bool b => a = b
  | .number x, .number y => x.equal y
  | .text s, .text t => s = t
  | .list as, .list bs => equalLists as bs
  | .other a, .other b => a.equal b
  | _, _ => false

/--
The shapes of settings, in the order in which they are tried. Everything fits the last one.
-/
def shapes : List (Json → Option Setting) :=
  [ fun document => document.bool?.map .bool,
    fun document => document.number?.map fun n => .number n.toBinary64,
    fun document => document.string?.map .text,
    fun document => (document.items?.bind (·.mapM Atom.ofVerbatim?)).map .list,
    fun document => some (.other document.tidy) ]

def ofVerbatim? (document : Json) : Option Setting :=
  shapes.findSome? (· document)

def ofJson : Json → Setting
  | .bool b => .bool b
  | .number n => .number n.toBinary64
  | .string s => .text s
  | .array items =>
    match items.mapM Atom.ofJson? with
    | some atoms => .list atoms
    | none => .other (.array items)
  | document => .other document

def toJson : Setting → Json
  | .bool b => .bool b
  | .number x => .number (.float x)
  | .text s => .string s
  | .list items => .array (items.map Atom.toJson)
  | .other document => document

def read (depth : Nat) : Json.Reader Setting := do
  match ofVerbatim? (← Json.Reader.verbatim depth) with
  | some setting => return setting
  | none => Json.Reader.fail (.noVariant "ParamValue")

def parse (text : String) : Except Json.Error Setting :=
  Json.parseWith (read Json.Reader.maxDepth) text

end Setting

end NetScript
