import NetScript.Path

/-!
This module contains the operations on files that an export needs, for any monad that has them. The
errors are those of an operating system.
-/

namespace NetScript

inductive FileError where
  | notFound
  | alreadyExists
  | notDirectory
  | isDirectory
  | nameTooLong
  | nulInPath
  | notText
  | other (message : String)
deriving DecidableEq

def FileError.message : FileError → String
  | notFound => "No such file or directory (os error 2)"
  | alreadyExists => "File exists (os error 17)"
  | notDirectory => "Not a directory (os error 20)"
  | isDirectory => "Is a directory (os error 21)"
  | nameTooLong => "File name too long (os error 36)"
  | nulInPath => "file name contained an unexpected NUL byte"
  | notText => "stream did not contain valid UTF-8"
  | other message => message

def FileError.maxName : Nat := 255

def FileError.maxPath : Nat := 4095

/--
Why a path cannot be looked up, whatever files there are.
-/
def FileError.ofPath? (path : String) : Option FileError :=
  if path.toList.contains '\x00' then some nulInPath
  else if maxPath < path.utf8ByteSize then some nameTooLong
  else if path = "" then some notFound
  else none

/--
What a file holds.
-/
structure Contents where
  bytes : ByteArray

namespace Contents

theorem data_eq_iff {contents other : Contents} :
    contents.bytes.data = other.bytes.data ↔ contents = other := by
  rw [← ByteArray.ext_iff]
  cases contents
  cases other
  simp

instance : DecidableEq Contents :=
  fun _ _ => decidable_of_iff _ data_eq_iff

def empty : Contents :=
  ⟨.empty⟩

def ofText (text : String) : Contents :=
  ⟨text.toUTF8⟩

def size (contents : Contents) : Nat :=
  contents.bytes.size

def take (contents : Contents) (count : Nat) : Contents :=
  ⟨contents.bytes.extract 0 count⟩

/--
What a file holds after a write at its beginning. What reaches beyond the written bytes stays.
-/
def overwrite (contents written : Contents) : Contents :=
  ⟨written.bytes ++ contents.bytes.extract written.size contents.size⟩

def text? (contents : Contents) : Option String :=
  String.fromUTF8? contents.bytes

def text (contents : Contents) : Except FileError String :=
  match contents.text? with
  | some text => .ok text
  | none => .error .notText

/--
Contents are shown as their text. Nothing is shown of bytes that are no text.
-/
instance : Coe Contents String where
  coe contents := contents.text?.getD ""

theorem text?_ofText (text : String) : (ofText text).text? = some text := by
  unfold text? ofText String.fromUTF8?
  simp only [String.toUTF8_eq_toByteArray, dif_pos text.isValidUTF8]
  rfl

@[simp]
theorem text_ofText (text : String) : (ofText text).text = .ok text := by
  rw [Contents.text, text?_ofText]

theorem size_overwrite (contents written : Contents) :
    (contents.overwrite written).size = max contents.size written.size := by
  simp only [overwrite, size, ByteArray.size_append, ByteArray.size_extract]
  omega

theorem overwrite_eq_iff {contents written : Contents} :
    contents.overwrite written = written ↔ contents.size ≤ written.size := by
  constructor
  · intro h
    have hsize := size_overwrite contents written
    rw [h] at hsize
    omega
  · intro h
    have hrest : contents.bytes.extract written.size contents.size = .empty := by
      rw [ByteArray.extract_eq_empty_iff]
      exact Nat.le_trans (Nat.min_le_left _ _) h
    rw [overwrite, hrest, ByteArray.append_empty]

@[simp]
theorem empty_overwrite (written : Contents) : empty.overwrite written = written :=
  overwrite_eq_iff.mpr (Nat.zero_le _)

theorem isPrefix_of_overwrite_eq {contents : Contents} {text text' : String}
    (h : contents.overwrite (ofText text) = ofText text') : text.toList <+: text'.toList := by
  rw [overwrite, ofText, ofText, Contents.mk.injEq] at h
  apply List.isPrefix_of_utf8Encode_append_eq_utf8Encode
  rw [String.utf8Encode_toList, String.utf8Encode_toList]
  exact h

@[simp]
theorem take_zero (contents : Contents) : contents.take 0 = empty := by
  rw [take, empty, Contents.mk.injEq, ByteArray.extract_eq_empty_iff]
  exact Nat.min_le_left 0 _

end Contents

/--
The operations on files, each of which is done at one moment. A file is opened for writing by
`create`, which makes it if it is not there and empties it if it is. It is written by way of its
handle, from its beginning on.
-/
structure Files (m : Type → Type) (Handle : Type) where
  read : String → m (Except FileError Contents)
  create : String → m (Except FileError Handle)
  write : Handle → Contents → m (Except FileError Unit)
  makeDir : String → m (Except FileError Unit)
  isDirectory : String → m Bool

namespace Files

variable {m : Type → Type} {Handle : Type} [Monad m]

def readText (files : Files m Handle) (path : String) : m (Except FileError String) :=
  return (← files.read path).bind Contents.text

def writeText (files : Files m Handle) (path text : String) : m (Except FileError Unit) := do
  match ← files.create path with
  | .error e => return .error e
  | .ok handle => files.write handle (.ofText text)

def ensureDir (files : Files m Handle) (path : String) : m (Except FileError Unit) := do
  match ← files.makeDir path with
  | .ok () => return .ok ()
  -- The parent is missing: the caller makes it and tries again.
  | .error .notFound => return .error .notFound
  | .error e => if ← files.isDirectory path then return .ok () else return .error e

/--
Makes the first of the given directories, each of which is followed by its parent. The parents are
made where they are missing. The empty path is the working directory.
-/
def ensureAll (files : Files m Handle) : List String → m (Except FileError Unit)
  | [] => return .ok ()
  | path :: parents => do
    if path = "" then
      return .ok ()
    else
      match ← files.ensureDir path with
      | .error .notFound =>
        match ← files.ensureAll parents with
        | .ok () => files.ensureDir path
        | .error e => return .error e
      | outcome => return outcome

def makeDirs (files : Files m Handle) (path : String) : m (Except FileError Unit) :=
  files.ensureAll (Path.ancestors path)

end Files

end NetScript
