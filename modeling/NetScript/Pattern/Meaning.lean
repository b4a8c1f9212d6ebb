import NetScript.CharSet.Ascii
import NetScript.Pattern.Basic
import NetScript.Pattern.Tree
import NetScript.Unicode.CaseFolding
import NetScript.Unicode.Name

/-!
This module contains what the form of a pattern means. This depends on the flags, which can be
switched inside of the pattern.
-/

namespace NetScript.Pattern

structure Flags where
  ignoreCase : Bool := false
  manyLines : Bool := false
  dotAll : Bool := false
  unicode : Bool := true
  carriageReturns : Bool := false
deriving DecidableEq

namespace Flags

/--
Switches a flag. Some flags do not change where a pattern occurs.
-/
def set (flags : Flags) (switch : Switch) : Flags :=
  match switch.flag with
  | .ignoreCase => { flags with ignoreCase := switch.isOn }
  | .manyLines => { flags with manyLines := switch.isOn }
  | .dotAll => { flags with dotAll := switch.isOn }
  | .unicode => { flags with unicode := switch.isOn }
  | .carriageReturns => { flags with carriageReturns := switch.isOn }
  | .swapGreed | .ignoreBlank => flags

def setAll (flags : Flags) (switches : List Switch) : Flags :=
  switches.foldl set flags

def fold (flags : Flags) (chars : CharSet) : CharSet :=
  if flags.ignoreCase then
    if flags.unicode then Unicode.foldCase chars else Unicode.foldAsciiCase chars
  else
    chars

/--
Negates a set. Without Unicode the other characters are bytes, which are not a text.
-/
def negate (flags : Flags) (span : Span) (isNegated : Bool) (chars : CharSet) :
    Except Fault CharSet :=
  let chars := if isNegated then chars.compl else chars
  if flags.unicode || chars.isAscii then
    .ok chars
  else
    .error { reason := .matchesBytes, span }

def word (flags : Flags) : CharSet :=
  if flags.unicode then Unicode.word else .asciiWord

def shorthand (flags : Flags) : Shorthand → CharSet
  | .digit => if flags.unicode then Unicode.digit else .asciiDigit
  | .space => if flags.unicode then Unicode.blank else .asciiSpace
  | .word => flags.word

def dot (flags : Flags) : CharSet :=
  let excluded : CharSet :=
    if flags.dotAll then .empty
    else if flags.carriageReturns then .single '\n' ∪ .single '\r'
    else .single '\n'
  excluded.compl

def look (flags : Flags) : Place → Look
  | .textStart => .textStart
  | .textEnd => .textEnd
  | .lineStart =>
    if flags.manyLines then
      if flags.carriageReturns then .returnLineStart else .lineStart
    else
      .textStart
  | .lineEnd =>
    if flags.manyLines then
      if flags.carriageReturns then .returnLineEnd else .lineEnd
    else
      .textEnd
  | .wordBoundary => .wordBoundary flags.word
  | .noWordBoundary => .noWordBoundary flags.word
  | .wordStart => .wordStart flags.word
  | .wordEnd => .wordEnd flags.word
  | .noWordBefore => .noWordBefore flags.word
  | .noWordBehind => .noWordBehind flags.word

def checkByte (flags : Flags) (span : Span) (c : Char) (isByte : Bool) : Except Fault Unit :=
  if !flags.unicode && isByte && '\x7f' < c && c ≤ '\xff' then
    .error { reason := .matchesBytes, span }
  else
    .ok ()

def code (flags : Flags) (literal : Literal) : Except Fault Nat := do
  flags.checkByte literal.span literal.char literal.isByte
  if !flags.unicode && '\x7f' < literal.char then
    throw { reason := .unicodeNotAllowed, span := literal.span }
  return literal.char.toNat

def property (flags : Flags) (span : Span) (query : Query) (isNegated : Bool) :
    Except Fault CharSet :=
  if flags.unicode then
    let chars :=
      match query.value? with
      | none => Unicode.charsOfName query.name
      | some value => Unicode.charsOfValue query.name value
    match chars with
    | .ok chars => flags.negate span isNegated (flags.fold chars)
    | .error .property => .error { reason := .unknownProperty, span }
    | .error .value => .error { reason := .unknownValue, span }
  else
    .error { reason := .unicodeNotAllowed, span }

end Flags

def SetOperator.apply : SetOperator → CharSet → CharSet → CharSet
  | intersection => CharSet.inter
  | difference => CharSet.diff
  | symmetricDifference => CharSet.symmDiff

mutual

def Class.chars (flags : Flags) : Class → Except Fault CharSet
  | .empty _ => .ok .empty
  | .literal c => return .range (← flags.code c) c.char.toNat
  | .range first last => return .range (← flags.code first) (← flags.code last)
  | .named span chars isNegated => flags.negate span isNegated (flags.fold chars)
  | .shorthand span kind isNegated => flags.negate span isNegated (flags.shorthand kind)
  | .property span query isNegated => flags.property span query isNegated
  | .brackets span isNegated members => do
    flags.negate span isNegated (flags.fold (← members.chars flags))
  | .union _ items => Class.charsOfAll flags items
  | .operation _ operator left right => do
    let left ← left.chars flags
    let right ← right.chars flags
    return operator.apply (flags.fold left) (flags.fold right)

def Class.charsOfAll (flags : Flags) : List Class → Except Fault CharSet
  | [] => .ok .empty
  | item :: items => do
    let chars ← item.chars flags
    return chars ∪ (← Class.charsOfAll flags items)

end

def Atom.meaning (flags : Flags) (span : Span) : Atom → Except Fault Leaf
  | literal c isByte => do
    flags.checkByte span c isByte
    return .char (flags.fold (.single c))
  | dot => if flags.unicode then .ok (.char flags.dot) else .error { reason := .matchesBytes, span }
  | place kind => .ok (.look (flags.look kind))
  | shorthand kind isNegated =>
    (flags.negate span isNegated (flags.shorthand kind)).map Leaf.char
  | property query isNegated => (flags.property span query isNegated).map Leaf.char

def append : Pattern Leaf → Pattern Leaf → Pattern Leaf
  | empty, second => second
  | first, empty => first
  | first, second => both first second

def chars? : Pattern Leaf → Option CharSet
  | leaf (.char set) => some set
  | _ => none

/--
One of several patterns. A choice of characters is a set of characters.
-/
def oneOf (patterns : List (Pattern Leaf)) : Pattern Leaf :=
  match patterns.mapM chars?, patterns.getLast? with
  | some sets, _ => leaf (.char (.unions sets))
  | none, some last => patterns.dropLast.foldr either last
  | none, none => empty

def isPlace : Pattern Leaf → Bool
  | empty => true
  | leaf (.char _) => false
  | leaf (.look _) => true
  | both first second => first.isPlace && second.isPlace
  | either left right => left.isPlace && right.isPlace
  | repeated _ _ pattern => pattern.isPlace
  | group pattern => pattern.isPlace

/--
Repeats a pattern. It makes no difference whether a place is matched once or more.
-/
def times (least : Nat) (most? : Option Nat) (pattern : Pattern Leaf) : Pattern Leaf :=
  let least := if pattern.isPlace then min least 1 else least
  let most? := if pattern.isPlace then some (min (most?.getD 1) 1) else most?
  match least, most? with
  | 0, some 0 => empty
  | 1, some 1 => pattern
  | least, most? => repeated least most? pattern

mutual

/--
What a part of a pattern means, and the flags that hold behind it.
-/
def Tree.meaning (flags : Flags) : Tree → Except Fault (Pattern Leaf × Flags)
  | .empty _ => .ok (.empty, flags)
  | .switch _ switches => .ok (.empty, flags.setAll switches)
  | .atom span form => do
    return (.leaf (← form.meaning flags span), flags)
  | .brackets set => do
    return (.leaf (.char (← set.chars flags)), flags)
  | .repeated _ least most? tree => do
    let (pattern, flags) ← tree.meaning flags
    return (pattern.times least most?, flags)
  | .group _ isCaptured switches tree => do
    let (pattern, _) ← tree.meaning (flags.setAll switches)
    return (if isCaptured then .group pattern else pattern, flags)
  | .choice _ trees => do
    let (patterns, flags) ← Tree.meanings flags trees
    return (oneOf patterns, flags)
  | .sequence _ trees => do
    let (patterns, flags) ← Tree.meanings flags trees
    return (patterns.foldr append .empty, flags)

def Tree.meanings (flags : Flags) : List Tree → Except Fault (List (Pattern Leaf) × Flags)
  | [] => .ok ([], flags)
  | tree :: trees => do
    let (pattern, flags) ← tree.meaning flags
    let (patterns, flags) ← Tree.meanings flags trees
    return (pattern :: patterns, flags)

end

end NetScript.Pattern
