import NetScript.Log.Basic
import NetScript.Pattern.Parser
import NetScript.Text.Blank
import NetScript.Text.Split

/-!
This module contains the filters that choose which events are shown. A filter is written as its
rules, with commas between them, and a slash and a pattern for the messages may follow.
-/

namespace NetScript.Log

/--
Shows the events up to a rank, of the targets that start with the given text or of all targets.
-/
structure Rule where
  target? : Option (List Char)
  rank : Nat
deriving DecidableEq

structure Filter where
  rules : List Rule
  pattern? : Option (Pattern Pattern.Leaf)

namespace Filter

inductive Fault where
  | rule (text : List Char)
  | slashes (text : List Char)
  | pattern (text : List Char) (failure : Pattern.Failure)

def Fault.message : Fault → String
  | rule text => "warning: invalid logging spec '" ++ String.ofList text ++ "', ignoring it"
  | slashes text =>
    "warning: invalid logging spec '" ++ String.ofList text ++ "' (too many '/'s), ignoring it"
  | pattern text failure =>
    "warning: invalid regex filter - " ++ failure.message text ++ ", ignoring it"

def trim (cs : List Char) : List Char :=
  ((cs.dropWhile Text.isBlank).reverse.dropWhile Text.isBlank).reverse

/--
The rank of a level that is given by its name, in upper or lower case. Nothing is shown at `off`.
-/
def rank? (name : List Char) : Option Nat :=
  let name := String.ofList (name.map Char.toUpper)
  if name = "OFF" then some 0 else (Level.ofName? name).map Level.rank

/--
A rule is a level for all targets, a target that is shown at all levels, or both of them with an
equals sign between.
-/
def readRule (text : List Char) : Except Fault Rule :=
  match Text.split '=' text with
  | [single] =>
    match rank? single with
    | some rank => .ok ⟨none, rank⟩
    -- What names no level is a target, of which everything is shown.
    | none => .ok ⟨some single, Level.trace.rank⟩
  | [target, level] =>
    let level := trim level
    if level = [] then
      .ok ⟨some target, Level.trace.rank⟩
    else
      match rank? level with
      | some rank => .ok ⟨some target, rank⟩
      | none => .error (.rule level)
  | _ => .error (.rule text)

def addRule (rules : List Rule) (rule : Rule) : List Rule :=
  if rules.any (·.target? = rule.target?) then
    rules.map fun other => if other.target? = rule.target? then rule else other
  else
    rules ++ [rule]

/--
Reads the rules between the commas of a text. Only errors are shown if there are none.
-/
def readRules (text : List Char) : List Rule × List Fault :=
  let texts := ((Text.split ',' text).map trim).filter (· ≠ [])
  let (rules, faults) := go texts
  match rules.foldl addRule [] with
  | [] => ([⟨none, Level.error.rank⟩], faults)
  | rules => (rules, faults)
where
  go : List (List Char) → List Rule × List Fault
    | [] => ([], [])
    | text :: texts =>
      let (rules, faults) := go texts
      match readRule text with
      | .ok rule => (rule :: rules, faults)
      | .error fault => (rules, fault :: faults)

def ofText (text : String) : Filter × List Fault :=
  match Text.split '/' text.toList with
  | [rules, pattern] =>
    let (rules, faults) := readRules rules
    match Pattern.parse pattern with
    | .ok parsed => (⟨rules, some parsed⟩, faults)
    | .error failure => (⟨rules, none⟩, faults ++ [.pattern pattern failure])
  | [rules] =>
    let (rules, faults) := readRules rules
    (⟨rules, none⟩, faults)
  -- With more than one slash nothing of the text is used.
  | _ =>
    let (rules, _) := readRules []
    (⟨rules, none⟩, [.slashes text.toList])

/--
The more a rule tells about its target the more special it is. Of equally special rules the later
one applies.
-/
def moreSpecial (a b : Rule) : Rule :=
  if (a.target?.getD []).length ≤ (b.target?.getD []).length then b else a

def applies (event : Event) (rule : Rule) : Bool :=
  rule.target?.all (·.isPrefixOf event.target.toList)

def admits (filter : Filter) (event : Event) : Bool :=
  match filter.rules.filter (applies event) with
  | [] => false
  | rule :: rules => event.level.rank ≤ (rules.foldl moreSpecial rule).rank

def shows (filter : Filter) (event : Event) : Bool :=
  filter.admits event && filter.pattern?.all (·.occursIn event.message)

end Filter

end NetScript.Log
