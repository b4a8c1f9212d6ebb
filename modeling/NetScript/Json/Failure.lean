import NetScript.Json.Writer
import NetScript.Text.Quote

/-!
This module contains the reasons why a text is not accepted, the place where a reason was found and
the wording of both.
-/

namespace NetScript.Json

inductive Found where
  | null
  | bool (value : Bool)
  | number (value : Number)
  | string (value : String)
  | sequence
  | map

def Found.describe : Found → String
  | .null => "null"
  | .bool true => "boolean `true`"
  | .bool false => "boolean `false`"
  | .number (.int i) => "integer `" ++ String.ofList (Number.int i).render ++ "`"
  | .number (.float x) => "floating point `" ++ String.ofList (Number.float x).render ++ "`"
  | .string s => "string " ++ Text.quote s
  | .sequence => "sequence"
  | .map => "map"

inductive Fault where
  | endOfValue
  | endOfString
  | endOfList
  | endOfObject
  | expectedValue
  | expectedLiteral
  | expectedColon
  | expectedListComma
  | expectedObjectComma
  | keyNotString
  | trailingComma
  | trailingCharacters
  | controlCharacter
  | invalidEscape
  | loneSurrogate
  | unpairedSurrogate
  | invalidNumber
  | numberOutOfRange
  | nestedTooDeep
  | wrongType (found : Found) (expected : String)
  | missingField (name : String)
  | duplicateField (name : String)
  | tooShort (length : Nat) (record : String) (size : Nat)
  | unknownVariant (name : String) (known : List String)
  | noVariant (type : String)

def Fault.message : Fault → String
  | endOfValue => "EOF while parsing a value"
  | endOfString => "EOF while parsing a string"
  | endOfList => "EOF while parsing a list"
  | endOfObject => "EOF while parsing an object"
  | expectedValue => "expected value"
  | expectedLiteral => "expected ident"
  | expectedColon => "expected `:`"
  | expectedListComma => "expected `,` or `]`"
  | expectedObjectComma => "expected `,` or `\x7d`"
  | keyNotString => "key must be a string"
  | trailingComma => "trailing comma"
  | trailingCharacters => "trailing characters"
  | controlCharacter => "control character (\\u0000-\\u001F) found while parsing a string"
  | invalidEscape => "invalid escape"
  | loneSurrogate => "lone leading surrogate in hex escape"
  | unpairedSurrogate => "unexpected end of hex escape"
  | invalidNumber => "invalid number"
  | numberOutOfRange => "number out of range"
  | nestedTooDeep => "recursion limit exceeded"
  | wrongType found expected => "invalid type: " ++ found.describe ++ ", expected " ++ expected
  | missingField name => "missing field `" ++ name ++ "`"
  | duplicateField name => "duplicate field `" ++ name ++ "`"
  | tooShort length record size =>
    "invalid length " ++ toString length ++ ", expected struct " ++ record ++ " with " ++
      toString size ++ " elements"
  | unknownVariant name known =>
    "unknown variant `" ++ name ++ "`, expected one of " ++
      ", ".intercalate (known.map fun name => "`" ++ name ++ "`")
  | noVariant type => "data did not match any variant of untagged enum " ++ type

/--
A fault at the position that has `remaining` bytes of the text behind it.
-/
structure Failure where
  fault : Fault
  remaining : Nat

/--
Lines count from one, columns are the bytes since the start of the line.
-/
structure Position where
  line : Nat
  column : Nat
deriving DecidableEq

def byteCount (cs : List Char) : Nat :=
  cs.foldl (fun count c => count + c.utf8Size) 0

def Position.after (count : Nat) (cs : List Char) : Position :=
  go count cs ⟨1, 0⟩
where
  go (count : Nat) (cs : List Char) (position : Position) : Position :=
    match cs with
    | [] => position
    | c :: cs =>
      if count < c.utf8Size then
        ⟨position.line, position.column + count⟩
      else if c = '\n' then
        go (count - 1) cs ⟨position.line + 1, 0⟩
      else
        go (count - c.utf8Size) cs ⟨position.line, position.column + c.utf8Size⟩

structure Error where
  fault : Fault
  position? : Option Position

def Error.message (e : Error) : String :=
  match e.position? with
  | some position =>
    e.fault.message ++ " at line " ++ toString position.line ++ " column " ++
      toString position.column
  | none => e.fault.message

def Failure.locate (failure : Failure) (text : List Char) : Error :=
  ⟨failure.fault, some (.after (byteCount text - failure.remaining) text)⟩

end NetScript.Json
