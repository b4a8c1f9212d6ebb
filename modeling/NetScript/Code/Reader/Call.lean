import NetScript.Code.Reader.Quoted

/-!
This module contains the reader of calls, the way the language of the generated code reads them. The
arguments are literals, first those without a keyword and then those with one.
-/

namespace NetScript.Code

inductive Literal where
  | none
  | bool (value : Bool)
  | number (token : String)
  | text (value : String)
  | tuple (items : List Literal)

structure Argument where
  keyword : Option String
  value : Literal

structure Application where
  callee : List String
  positional : List Literal
  keywords : List (String × Literal)

/--
No argument without a keyword stands behind one that has one.
-/
def Application.ofArguments? (callee : List String) : List Argument → Option Application
  | [] => some ⟨callee, [], []⟩
  | argument :: arguments =>
    match argument.keyword, ofArguments? callee arguments with
    | none, some application =>
      some { application with positional := argument.value :: application.positional }
    | some name, some ⟨callee, [], keywords⟩ =>
      some ⟨callee, [], (name, argument.value) :: keywords⟩
    | _, _ => none

namespace Reader

def run? (property : Char → Bool) (cs : List Char) : Option (List Char × List Char) :=
  match cs.takeWhile property with
  | [] => none
  | c :: run => some (c :: run, cs.dropWhile property)

def isNameChar (c : Char) : Bool :=
  c.isAlphanum || c = '_'

def name? (cs : List Char) : Option (String × List Char) :=
  match run? isNameChar cs with
  | some (c :: name, rest) => if c.isDigit then none else some (String.ofList (c :: name), rest)
  | _ => none

def path? (cs : List Char) : Option (List String × List Char) :=
  match name? cs with
  | some (name, '.' :: rest) =>
    if rest.length < cs.length then
      (path? rest).map fun (path, rest) => (name :: path, rest)
    else
      none
  | some (name, rest) => some ([name], rest)
  | none => none
termination_by cs.length

def digits? (cs : List Char) : Option (List Char × List Char) :=
  match run? Char.isDigit cs with
  | some (whole, '.' :: rest) =>
    match run? Char.isDigit rest with
    | some (fraction, rest) => some (whole ++ '.' :: fraction, rest)
    | none => some (whole, '.' :: rest)
  | found => found

def number? : List Char → Option (String × List Char)
  | '-' :: cs => (digits? cs).map fun (digits, rest) => (String.ofList ('-' :: digits), rest)
  | cs => (digits? cs).map fun (digits, rest) => (String.ofList digits, rest)

def constants : List (String × Literal) :=
  [("True", .bool true), ("False", .bool false), ("None", .none)]

def constant? (cs : List Char) : Option (Literal × List Char) :=
  match name? cs with
  | some (name, rest) => (constants.lookup name).map (·, rest)
  | none => none

def skipBlanks (cs : List Char) : List Char :=
  cs.dropWhile (· = ' ')

/--
Takes items with commas between them and the closing bracket behind them. It is also told whether
there is no item behind the last comma.
-/
def items? {α : Type} (item? : List Char → Option (α × List Char)) (cs : List Char) :
    Option ((List α × Bool) × List Char) :=
  match skipBlanks cs with
  | ')' :: rest => some (([], true), rest)
  | front =>
    match item? front with
    | some (item, behind) =>
      match skipBlanks behind with
      | ')' :: rest => some (([item], false), rest)
      | ',' :: rest =>
        if rest.length < cs.length then
          (items? item? rest).map fun ((items, ended), rest) => ((item :: items, ended), rest)
        else
          none
      | _ => none
    | none => none
termination_by cs.length

/--
Takes a literal with tuples up to the given depth. A single item in brackets is only a tuple if a
comma stands behind it.
-/
def literal? : Nat → List Char → Option (Literal × List Char)
  | _, [] => none
  | depth, c :: cs =>
    if c = '(' then
      match depth with
      | 0 => none
      | depth + 1 =>
        match items? (literal? depth) cs with
        | some (([item], false), rest) => some (item, rest)
        | some ((items, _), rest) => some (.tuple items, rest)
        | none => none
    else if c = '"' then
      (text? (c :: cs)).map fun (value, rest) => (.text value, rest)
    else if c = '-' || c.isDigit then
      (number? (c :: cs)).map fun (token, rest) => (.number token, rest)
    else
      constant? (c :: cs)

def keyword? (cs : List Char) : Option (String × List Char) :=
  match name? cs with
  | some (name, '=' :: rest) => some (name, rest)
  | _ => none

def argument? (depth : Nat) (cs : List Char) : Option (Argument × List Char) :=
  match keyword? cs with
  | some (name, rest) => (literal? depth rest).map fun (value, rest) => (⟨name, value⟩, rest)
  | none => (literal? depth cs).map fun (value, rest) => (⟨none, value⟩, rest)

/--
Takes a call. No tuple in it is nested deeper than the text is long.
-/
def call? (cs : List Char) : Option (Application × List Char) :=
  match path? cs with
  | some (callee, '(' :: rest) =>
    match items? (argument? rest.length) rest with
    | some ((arguments, _), rest) => (Application.ofArguments? callee arguments).map (·, rest)
    | none => none
  | _ => none

end Reader

end NetScript.Code
