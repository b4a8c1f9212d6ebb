import NetScript.Text.Lines

/-!
This module contains the reasons why a text is not a pattern, and how they are pointed out.
-/

namespace NetScript.Pattern

/--
A part of a text, which can be empty. It starts behind `start` characters and stops behind `stop`
characters.
-/
structure Span where
  start : Nat
  stop : Nat
deriving DecidableEq

namespace Fault

inductive Reason where
  | unclosedGroup
  | unopenedGroup
  | lookAround
  | emptyName
  | invalidName
  | unclosedName
  | repeatedName
  | unknownFlag
  | unfinishedFlags
  | repeatedFlag
  | repeatedNegation
  | danglingNegation
  | unclosedClass
  | reversedRange
  | unboundedRange
  | misplacedEscape
  | incompleteEscape
  | unknownEscape
  | backreference
  | invalidHexDigit
  | invalidHexNumber
  | emptyHexNumber
  | invalidProperty
  | unclosedBoundary
  | unknownBoundary
  | incompleteBoundary
  | missingExpression
  | unclosedCount
  | missingCount
  | hugeCount
  | reversedCount
  | tooDeep
  | unicodeNotAllowed
  | matchesBytes
  | unknownProperty
  | unknownValue
deriving DecidableEq

def Reason.message : Reason → String
  | unclosedGroup => "unclosed group"
  | unopenedGroup => "unopened group"
  | lookAround => "look-around, including look-ahead and look-behind, is not supported"
  | emptyName => "empty capture group name"
  | invalidName => "invalid capture group character"
  | unclosedName => "unclosed capture group name"
  | repeatedName => "duplicate capture group name"
  | unknownFlag => "unrecognized flag"
  | unfinishedFlags => "expected flag but got end of regex"
  | repeatedFlag => "duplicate flag"
  | repeatedNegation => "flag negation operator repeated"
  | danglingNegation => "dangling flag negation operator"
  | unclosedClass => "unclosed character class"
  | reversedRange => "invalid character class range, the start must be <= the end"
  | unboundedRange => "invalid range boundary, must be a literal"
  | misplacedEscape => "invalid escape sequence found in character class"
  | incompleteEscape => "incomplete escape sequence, reached end of pattern prematurely"
  | unknownEscape => "unrecognized escape sequence"
  | backreference => "backreferences are not supported"
  | invalidHexDigit => "invalid hexadecimal digit"
  | invalidHexNumber => "hexadecimal literal is not a Unicode scalar value"
  | emptyHexNumber => "hexadecimal literal empty"
  | invalidProperty => "invalid Unicode character class"
  | unclosedBoundary =>
    "special word boundary assertion is either unclosed or contains an invalid character"
  | unknownBoundary =>
    "unrecognized special word boundary assertion, " ++
      "valid choices are: start, end, start-half or end-half"
  | incompleteBoundary =>
    "found either the beginning of a special word boundary or a bounded repetition on a \\b " ++
      "with an opening brace, but no closing brace"
  | missingExpression => "repetition operator missing expression"
  | unclosedCount => "unclosed counted repetition"
  | missingCount => "repetition quantifier expects a valid decimal"
  | hugeCount => "decimal literal invalid"
  | reversedCount => "invalid repetition count range, the start must be <= the end"
  | tooDeep => "exceed the maximum number of nested parentheses/brackets (250)"
  | unicodeNotAllowed => "Unicode not allowed here"
  | matchesBytes => "pattern can match invalid UTF-8"
  | unknownProperty => "Unicode property not found"
  | unknownValue => "Unicode property value not found"

end Fault

structure Fault where
  reason : Fault.Reason
  span : Span
  other? : Option Span := none
deriving DecidableEq

structure Position where
  line : Nat
  column : Nat
deriving DecidableEq

def Position.behind (text : List Char) (count : Nat) : Position :=
  (text.take count).foldl
    (fun position c =>
      if c = '\n' then ⟨position.line + 1, 1⟩ else { position with column := position.column + 1 })
    ⟨1, 1⟩

namespace Fault

def spans (fault : Fault) : List Span :=
  match fault.other? with
  | none => [fault.span]
  | some other =>
    if other.start < fault.span.start then [other, fault.span] else [fault.span, other]

/--
Marks the columns that are given by their first one and the one behind the last. At least one is
marked for each pair.
-/
def marks (column : Nat) : List (Nat × Nat) → List Char
  | [] => []
  | (start, stop) :: rest =>
    let width := max 1 (stop - start)
    List.replicate (start - column) ' ' ++ List.replicate width '^' ++
      marks (max column start + width) rest

def showLine (width margin : Nat) (spans : List (Position × Position)) (line : String)
    (number : Nat) : List String :=
  let label := if width = 0 then "" else toString number ++ ": "
  let columns := (spans.filter fun span => span.1.line = number).map fun (start, stop) =>
    (start.column, stop.column)
  Text.indent (margin - label.length) (label ++ line) ::
    if columns.isEmpty then [] else [Text.indent margin (String.ofList (marks 1 columns))]

def ruler : String :=
  String.ofList (List.replicate 79 '~')

/--
The message shows the text, and below it the place of the fault. Lines are numbered if there are
several of them.
-/
def message (text : List Char) (fault : Fault) : String :=
  let lines := Text.lines (String.ofList text)
  let hasLines := text.contains '\n'
  let count := if text.getLast? = some '\n' then lines.length + 1 else lines.length
  let width := if hasLines then (toString count).length else 0
  let margin := if hasLines then width + 2 else 4
  let spans := fault.spans.map fun span =>
    (Position.behind text span.start, Position.behind text span.stop)
  let (inLine, acrossLines) := spans.partition fun (start, stop) => start.line = stop.line
  let shown := (lines.zip (List.range' 1 lines.length)).flatMap fun (line, number) =>
    showLine width margin inLine line number
  let notes := acrossLines.map fun (start, stop) =>
    "on line " ++ toString start.line ++ " (column " ++ toString start.column ++
      ") through line " ++ toString stop.line ++ " (column " ++ toString (stop.column - 1) ++ ")"
  "\n".intercalate <|
    ["regex parse error:"] ++ (if hasLines then [ruler] else []) ++ shown ++
      (if hasLines then ruler :: notes else []) ++ ["error: " ++ fault.reason.message]

end Fault

end NetScript.Pattern
