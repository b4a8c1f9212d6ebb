import NetScript.Code.Reader.Call
import NetScript.Text.Split

/-!
This module contains the names that tie the parts of the generated code together: the qualifiers of
a line, which are the names whose attributes it uses, and the name that an import binds.
-/

namespace NetScript.Code

/--
What the next character of a line is a part of.
-/
inductive Scan.Mode where
  | code
  | comment
  | literal (quote : Char) (isFormatted : Bool)
  | escape (quote : Char) (isFormatted : Bool)
deriving DecidableEq

/--
What has to be known about the front of a line to read on.
-/
structure Scan where
  mode : Scan.Mode
  isAttribute : Bool
  word : List Char
deriving DecidableEq

namespace Scan

def start : Scan := ⟨.code, false, []⟩

def readCode (scan : Scan) (c : Char) : Scan :=
  if Reader.isNameChar c then
    { scan with word := scan.word ++ [c] }
  else
    { scan with isAttribute := c = '.', word := [] }

/--
Reads one character. A word in front of a quote tells the kind of the literal.
-/
def next (scan : Scan) (c : Char) : Scan :=
  match scan.mode with
  | .code =>
    if c = '#' then
      { start with mode := .comment }
    else if c = '"' ∨ c = '\'' then
      { start with mode := .literal c (scan.word.contains 'f') }
    else
      scan.readCode c
  | .comment => scan
  | .literal quote isFormatted =>
    if c = '\\' then
      { start with mode := .escape quote isFormatted }
    else if c = quote then
      start
    else if isFormatted then
      scan.readCode c
    else
      scan
  | .escape quote isFormatted => { start with mode := .literal quote isFormatted }

/--
The name at the end of the front, if `c` is a point behind it and there is none in front of it.
-/
def qualifier? (scan : Scan) (c : Char) : Option String :=
  match scan.word with
  | [] => none
  | d :: ds =>
    if c = '.' ∧ ¬scan.isAttribute ∧ ¬d.isDigit then some (String.ofList (d :: ds)) else none

def feed (scan : Scan) : List Char → List String × Scan
  | [] => ([], scan)
  | c :: cs =>
    let (names, last) := (scan.next c).feed cs
    ((scan.qualifier? c).toList ++ names, last)

end Scan

/--
The names in front of a point that are no attributes themselves. Comments and plain string literals
are passed over.
-/
def qualifiers (line : String) : List String :=
  (Scan.start.feed line.toList).1

def importedName? (line : String) : Option String :=
  match (Text.split ' ' line.toList).map String.ofList with
  | ["import", path] => (Text.split '.' path.toList).head?.map String.ofList
  | ["import", _, "as", name] => some name
  | ["from", _, "import", name] => some name
  | ["from", _, "import", _, "as", name] => some name
  | _ => none

end NetScript.Code
