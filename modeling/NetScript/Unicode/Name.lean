import NetScript.Unicode.Break
import NetScript.Unicode.Script
import NetScript.Unicode.Version

/-!
This module contains the sets of characters that are given by the name of a property or of one of
its values.
-/

namespace NetScript.Unicode

inductive NotFound where
  | property
  | value
deriving DecidableEq

/--
The letters of a name that make a difference. Blanks, hyphens, underscores and an "is" in front do
not.
-/
def normalize (name : List Char) : String :=
  let isFirst := name.take 2 |>.map Char.toLower
  let rest := if isFirst = ['i', 's'] then name.drop 2 else name
  let kept := rest.filter fun c => c ≤ '\x7f' && c ≠ ' ' && c ≠ '_' && c ≠ '-'
  let name := String.ofList (kept.map Char.toLower)
  if isFirst = ['i', 's'] && name = "c" then "isc" else name

def withoutChars : List String :=
  ["cs", "surrogate", "zzzz", "unknown", "hrkt", "katakanaorhiragana"]

/--
The characters with a property, or of the category or the script with the given name. Some names of
categories are also names of other properties.
-/
def charsOfName (name : List Char) : Except NotFound CharSet :=
  let name := normalize name
  match Property.ofName? name, GeneralCategory.charsOfName? name, Script.ofName? name with
  | some property, _, _ => .ok property.chars
  | none, some chars, _ => .ok chars
  | none, none, some script => .ok script.chars
  | none, none, none => .error (if withoutChars.contains name then .value else .property)

def charsOfValue (name value : List Char) : Except NotFound CharSet :=
  let name := normalize name
  let value := normalize value
  let found? : Option CharSet :=
    match name with
    | "gc" | "generalcategory" => GeneralCategory.charsOfName? value
    | "sc" | "script" => (Script.ofName? value).map Script.chars
    | "scx" | "scriptextensions" => (Script.ofName? value).map Script.extendedChars
    | "age" => Version.chars? value
    | "gcb" | "graphemeclusterbreak" => (Property.find? graphemeBreaks value).map Property.chars
    | "wb" | "wordbreak" => (Property.find? wordBreaks value).map Property.chars
    | "sb" | "sentencebreak" => (Property.find? sentenceBreaks value).map Property.chars
    | _ => none
  match found? with
  | some chars => .ok chars
  | none => .error (if Property.isName name then .value else .property)

end NetScript.Unicode
