import NetScript.CharSet.Basic

/-!
This module contains sets of ASCII characters.
-/

namespace NetScript.CharSet

def asciiDigit : CharSet :=
  range '0'.toNat '9'.toNat

def asciiUpper : CharSet :=
  range 'A'.toNat 'Z'.toNat

def asciiLower : CharSet :=
  range 'a'.toNat 'z'.toNat

def asciiLetter : CharSet :=
  asciiUpper ∪ asciiLower

def asciiSpace : CharSet :=
  range 0x9 0xd ∪ single ' '

def asciiWord : CharSet :=
  asciiDigit ∪ asciiLetter ∪ single '_'

def asciiControl : CharSet :=
  range 0 0x1f ∪ single '\x7f'

def asciiGraph : CharSet :=
  range 0x21 0x7e

def named : List (String × CharSet) :=
  [
    ("alnum", asciiDigit ∪ asciiLetter),
    ("alpha", asciiLetter),
    ("ascii", ascii),
    ("blank", single '\t' ∪ single ' '),
    ("cntrl", asciiControl),
    ("digit", asciiDigit),
    ("graph", asciiGraph),
    ("lower", asciiLower),
    ("print", asciiGraph ∪ single ' '),
    ("punct", asciiGraph \ (asciiDigit ∪ asciiLetter)),
    ("space", asciiSpace),
    ("upper", asciiUpper),
    ("word", asciiWord),
    ("xdigit", asciiDigit ∪ range 'A'.toNat 'F'.toNat ∪ range 'a'.toNat 'f'.toNat)
  ]

end NetScript.CharSet
