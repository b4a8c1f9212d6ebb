/-!
This module contains the removal of what steers a terminal instead of showing on it: control
characters, and the sequences that an escape character starts.
-/

namespace NetScript.Text.Terminal

inductive Mode where
  | text
  | escape
  /-- An escape character and marks, which one more character completes. -/
  | selection
  /-- A control sequence, which a letter ends. -/
  | control
  | device
  | string
  | window
deriving DecidableEq

def isLayout (c : Char) : Bool :=
  c = '\t' || c = '\n' || c = '\x0c' || c = '\r'

def isShown (c : Char) : Bool :=
  isLayout c || (' ' ≤ c && c ≠ '\x7f')

/--
A string ends at the byte `0x9c`, even inside of a character.
-/
def endsString (c : Char) : Bool :=
  (String.utf8EncodeChar c).contains 0x9c

namespace Mode

def keeps : Mode → Char → Bool
  | text, c => isShown c
  | escape, c | selection, c | control, c => isLayout c
  | device, _ | string, _ | window, _ => false

def proceed : Mode → Char → Mode
  | text, _ => text
  | escape, c =>
    if isLayout c then text
    -- Control characters, and those beyond ASCII, leave the sequence open.
    else if c < ' ' || '~' < c then escape
    else if c ≤ '/' then selection
    else if c = '[' then control
    else if c = 'P' then device
    else if c = 'X' || c = '^' || c = '_' then string
    else if c = ']' then window
    else text
  | selection, c => if isLayout c || ('0' ≤ c && c ≤ '~') then text else selection
  | control, c => if isLayout c || ('@' ≤ c && c ≤ '~') then text else control
  | device, c => if '@' ≤ c && c ≤ '~' then string else device
  | string, c => if endsString c then text else string
  | window, c => if c = '\x07' then text else window

def next (mode : Mode) (c : Char) : Mode :=
  if c = '\x18' || c = '\x1a' then
    text
  else if c = '\x1b' then
    escape
  else
    mode.proceed c

end Mode

/--
The text without all that steers a terminal.
-/
def plain (s : String) : String :=
  String.ofList (go .text s.toList)
where
  go : Mode → List Char → List Char
    | _, [] => []
    | mode, c :: cs => if mode.keeps c then c :: go (mode.next c) cs else go (mode.next c) cs

end NetScript.Text.Terminal
