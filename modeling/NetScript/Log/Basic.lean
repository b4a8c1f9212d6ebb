import NetScript.Text.Lines
import NetScript.Text.Terminal

/-!
This module contains what the program reports about its work, and how it is printed. A printed
report can be read again.
-/

namespace NetScript.Log

inductive Level where
  | error
  | warn
  | info
  | debug
  | trace
deriving DecidableEq

namespace Level

def name : Level → String
  | error => "ERROR"
  | warn => "WARN"
  | info => "INFO"
  | debug => "DEBUG"
  | trace => "TRACE"

/--
The more detailed a level is the higher is its rank.
-/
def rank : Level → Nat
  | error => 1
  | warn => 2
  | info => 3
  | debug => 4
  | trace => 5

def all : List Level :=
  [error, warn, info, debug, trace]

def ofName? (name : String) : Option Level :=
  all.find? (·.name = name)

end Level

structure Event where
  level : Level
  target : String
  message : String
deriving DecidableEq

namespace Event

def indent (message : String) : String :=
  "\n".intercalate <|
    match (Text.split '\n' message.toList).map String.ofList with
    | [] => []
    | line :: lines => line :: lines.map (Text.indent 4)

/--
The event as it is printed. The messages cannot steer the terminal.
-/
def print (event : Event) : String :=
  Text.Terminal.plain <|
    "[" ++ event.level.name ++ " " ++ event.target ++ "] " ++ indent event.message ++ "\n"

def ofLine? (line : String) : Option Event :=
  match line.toList with
  | '[' :: cs =>
    match Text.split ' ' (cs.takeWhile (· ≠ ']')), cs.dropWhile (· ≠ ']') with
    | [level, target], ']' :: ' ' :: message =>
      (Level.ofName? (String.ofList level)).map fun level =>
        ⟨level, String.ofList target, String.ofList message⟩
    | _, _ => none
  | _ => none

end Event

def read (report : String) : List Event × List String :=
  let lines := Text.lines report
  (lines.filterMap Event.ofLine?, lines.filter fun line => (Event.ofLine? line).isNone)

end NetScript.Log
