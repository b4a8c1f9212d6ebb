import NetScript.Json.Reader.Ignored

/-!
This module contains the grammar of documents: the texts that values are written as, with any blanks
between their parts. It is the grammar of the format alone. It knows no limit to the depth of a
value or to the size of a number, and no surrogate has to be paired.
-/

namespace NetScript.Json.Grammar

open Reader

def AreBlank (cs : List Char) : Prop :=
  ∀ c ∈ cs, isBlank c

def AreDigits (cs : List Char) : Prop :=
  cs ≠ [] ∧ ∀ c ∈ cs, isDigit c

inductive IsWhole : List Char → Prop where
  | zero : IsWhole ['0']
  | digits {c : Char} {cs : List Char} (hc : c ≠ '0') (h : AreDigits (c :: cs)) : IsWhole (c :: cs)

inductive IsFraction : List Char → Prop where
  | absent : IsFraction []
  | digits {cs : List Char} (h : AreDigits cs) : IsFraction ('.' :: cs)

inductive IsExponent : List Char → Prop where
  | absent : IsExponent []
  | digits {mark : Char} {sign cs : List Char} (hmark : mark = 'e' ∨ mark = 'E')
      (hsign : sign = [] ∨ sign = ['+'] ∨ sign = ['-']) (h : AreDigits cs) :
      IsExponent (mark :: (sign ++ cs))

inductive IsMagnitude : List Char → Prop where
  | parts {whole fraction exponent : List Char} (hwhole : IsWhole whole)
      (hfraction : IsFraction fraction) (hexponent : IsExponent exponent) :
      IsMagnitude (whole ++ (fraction ++ exponent))

def hexNumber? (a b c d : Char) : Option Nat := do
  let a ← Text.hexValue? a
  let b ← Text.hexValue? b
  let c ← Text.hexValue? c
  let d ← Text.hexValue? d
  return ((a * 16 + b) * 16 + c) * 16 + d

/--
What stands between the quotes of a string. Any four hexadecimal digits are an escape by number.
-/
inductive IsBody : List Char → Prop where
  | nil : IsBody []
  | plain {c : Char} {cs : List Char} (hquote : c ≠ '"') (hbackslash : c ≠ '\\')
      (hcontrol : ¬c.toNat < 0x20) (h : IsBody cs) : IsBody (c :: cs)
  | simple {c : Char} {cs : List Char} (hc : (simpleEscapes.lookup c).isSome) (h : IsBody cs) :
      IsBody ('\\' :: c :: cs)
  | numbered {a b c d : Char} {cs : List Char} (hnumber : (hexNumber? a b c d).isSome)
      (h : IsBody cs) : IsBody ('\\' :: 'u' :: a :: b :: c :: d :: cs)

/--
The character that an escape stands for, behind the backslash. One beyond the basic plane is written
as two surrogates.
-/
inductive Escapes : List Char → Char → Prop where
  | simple {c char : Char} (h : simpleEscapes.lookup c = some char) : Escapes [c] char
  | numbered {a b c d : Char} {n : Nat} (hn : hexNumber? a b c d = some n)
      (hlow : isLowSurrogate n = false) (hhigh : isHighSurrogate n = false) :
      Escapes ['u', a, b, c, d] (Char.ofNat n)
  | pair {a b c d a' b' c' d' : Char} {n m : Nat} (hn : hexNumber? a b c d = some n)
      (hhigh : isHighSurrogate n) (hm : hexNumber? a' b' c' d' = some m) (hlow : isLowSurrogate m) :
      Escapes ['u', a, b, c, d, '\\', 'u', a', b', c', d']
        (Char.ofNat ((n - 0xd800) * 0x400 + (m - 0xdc00) + 0x10000))

/--
The characters that are written between the quotes of a string. There are none if a surrogate stands
alone.
-/
inductive Spells : List Char → List Char → Prop where
  | nil : Spells [] []
  | plain {c : Char} {cs s : List Char} (hquote : c ≠ '"') (hbackslash : c ≠ '\\')
      (hcontrol : ¬c.toNat < 0x20) (h : Spells cs s) : Spells (c :: cs) (c :: s)
  | escape {text cs s : List Char} {c : Char} (hc : Escapes text c) (h : Spells cs s) :
      Spells ('\\' :: (text ++ cs)) (c :: s)

structure Item where
  lead : List Char
  value : List Char
  behind : List Char
  blank_lead : AreBlank lead
  blank_behind : AreBlank behind

def Item.text (item : Item) : List Char :=
  item.lead ++ (item.value ++ item.behind)

structure Entry extends Item where
  before : List Char
  key : List Char
  gap : List Char
  blank_before : AreBlank before
  isBody_key : IsBody key
  blank_gap : AreBlank gap

def Entry.assigned (entry : Entry) : List Char :=
  entry.gap ++ ':' :: entry.toItem.text

def Entry.text (entry : Entry) : List Char :=
  entry.before ++ '"' :: (entry.key ++ '"' :: entry.assigned)

/--
Texts with commas between them, and the bracket that closes them. There may be blanks in front, also
if there are no texts.
-/
def listed (gap : List Char) (texts : List (List Char)) (closer : Char) : List Char :=
  gap ++ ([','].intercalate texts ++ [closer])

inductive IsValue : List Char → Prop where
  | nullWord : IsValue ['n', 'u', 'l', 'l']
  | trueWord : IsValue ['t', 'r', 'u', 'e']
  | falseWord : IsValue ['f', 'a', 'l', 's', 'e']
  | positive {cs : List Char} (h : IsMagnitude cs) : IsValue cs
  | negative {cs : List Char} (h : IsMagnitude cs) : IsValue ('-' :: cs)
  | string {cs : List Char} (h : IsBody cs) : IsValue ('"' :: (cs ++ ['"']))
  | array {gap : List Char} {items : List Item} (hgap : AreBlank gap)
      (h : ∀ item ∈ items, IsValue item.value) :
      IsValue ('[' :: listed gap (items.map Item.text) ']')
  | object {gap : List Char} {entries : List Entry} (hgap : AreBlank gap)
      (h : ∀ entry ∈ entries, IsValue entry.value) :
      IsValue ('\x7b' :: listed gap (entries.map Entry.text) '\x7d')

structure Member extends Entry where
  isValue : IsValue value

structure Object where
  gap : List Char
  members : List Member
  blank_gap : AreBlank gap

def Object.text (object : Object) : List Char :=
  '\x7b' :: listed object.gap (object.members.map fun member => member.toEntry.text) '\x7d'

end NetScript.Json.Grammar
