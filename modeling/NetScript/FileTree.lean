import NetScript.Fields
import NetScript.Files

/-!
This module contains trees of files and the operations on them.
-/

namespace NetScript

inductive FileTree.Item where
  | file (contents : Contents)
  | directory
deriving DecidableEq

/--
How many bytes a file takes, and the error for what is written beyond.
-/
structure FileTree.Limit where
  size : Nat
  error : FileError

/--
Places are given by all names that lead to them from the root, which is always there.
-/
structure FileTree where
  items : List (List String × FileTree.Item)
  workDir : List String
  limits : List (List String × FileTree.Limit) := []

namespace FileTree

def find? (tree : FileTree) (place : List String) : Option Item :=
  tree.items.lookup place

def insert (tree : FileTree) (place : List String) (item : Item) : FileTree :=
  { tree with items := (place, item) :: tree.items.filter (·.1 ≠ place) }

@[simp]
theorem find?_insert_self (tree : FileTree) (place : List String) (item : Item) :
    (tree.insert place item).find? place = some item := by
  simp [find?, insert]

theorem find?_insert_of_ne (tree : FileTree) {place other : List String} (item : Item)
    (h : other ≠ place) : (tree.insert place item).find? other = tree.find? other := by
  have hne : (other == place) = false := by simpa using h
  simp only [find?, insert, List.lookup_cons, hne]
  apply Fields.lookup_filter_of_ne _ h

def lookUp (tree : FileTree) (dir : List String) (name : String) :
    Except FileError (Option Item) :=
  if FileError.maxName < name.utf8ByteSize then
    .error .nameTooLong
  else
    .ok (tree.find? (dir ++ [name]))

def step (tree : FileTree) (dir : List String) (name : String) : Except FileError (List String) :=
  if name = "." then
    .ok dir
  else if name = ".." then
    .ok dir.dropLast
  else
    match tree.lookUp dir name with
    | .ok (some .directory) => .ok (dir ++ [name])
    | .ok (some (.file _)) => .error .notDirectory
    | .ok none => .error .notFound
    | .error e => .error e

def start (tree : FileTree) (path : String) : List String :=
  if Path.isAbsolute path then [] else tree.workDir

/--
The directory in which the last name of a path is looked up, and this name. There is none if the
path leads to a directory in any case.
-/
def resolve (tree : FileTree) (path : String) : Except FileError (List String × Option String) := do
  if let some e := FileError.ofPath? path then
    throw e
  let names := Path.names path
  let dir ← names.dropLast.foldlM tree.step (tree.start path)
  match names.getLast? with
  | none => return (dir, none)
  | some name =>
    if name = "." || name = ".." then
      return (← tree.step dir name, none)
    else
      return (dir, some name)

def read (tree : FileTree) (path : String) : Except FileError Contents := do
  match ← tree.resolve path with
  | (_, none) => throw .isDirectory
  | (dir, some name) =>
    match ← tree.lookUp dir name with
    | none => throw .notFound
    | some .directory => throw .isDirectory
    | some (.file contents) =>
      if Path.endsWithSlash path then throw .notDirectory else return contents

def readText (tree : FileTree) (path : String) : Except FileError String :=
  (tree.read path).bind Contents.text

/--
The tree with an empty file at the path, and the place of this file.
-/
def create (tree : FileTree) (path : String) : Except FileError (List String × FileTree) := do
  match ← tree.resolve path with
  | (_, none) => throw .isDirectory
  | (dir, some name) =>
    match ← tree.lookUp dir name with
    | some .directory => throw .isDirectory
    | some (.file _) =>
      if Path.endsWithSlash path then
        throw .notDirectory
      else
        return (dir ++ [name], tree.insert (dir ++ [name]) (.file .empty))
    | none =>
      if Path.endsWithSlash path then
        throw .isDirectory
      else
        return (dir ++ [name], tree.insert (dir ++ [name]) (.file .empty))

/--
What a file takes of a write, and whether this is all of it.
-/
def accept (tree : FileTree) (place : List String) (written : Contents) :
    Contents × Except FileError Unit :=
  match tree.limits.lookup place with
  | some limit =>
    if limit.size < written.size then (written.take limit.size, .error limit.error)
    else (written, .ok ())
  | none => (written, .ok ())

def Item.overwrite (written : Contents) : Item → Item
  | .file contents => .file (contents.overwrite written)
  | .directory => .directory

def overwrite (tree : FileTree) (place : List String) (written : Contents) : FileTree :=
  match tree.find? place with
  | some item => tree.insert place (item.overwrite written)
  | none => tree

theorem find?_overwrite_self (tree : FileTree) (place : List String) (written : Contents) :
    (tree.overwrite place written).find? place = (tree.find? place).map (·.overwrite written) := by
  unfold overwrite
  split
  · next h => simp [h]
  · next h => simp [h]

theorem find?_overwrite_of_ne (tree : FileTree) {place other : List String} (written : Contents)
    (h : other ≠ place) : (tree.overwrite place written).find? other = tree.find? other := by
  unfold overwrite
  split
  · exact find?_insert_of_ne tree _ h
  · rfl

/--
The tree after a text was written to a file, all of it and without anything in between.
-/
def write (tree : FileTree) (path text : String) : Except FileError FileTree := do
  let (place, opened) ← tree.create path
  let (taken, outcome) := opened.accept place (.ofText text)
  outcome
  return opened.overwrite place taken

def isDirectory (tree : FileTree) (path : String) : Bool :=
  (FileError.ofPath? path).isNone &&
    ((Path.names path).foldlM tree.step (tree.start path)).isOk

def makeDir (tree : FileTree) (path : String) : Except FileError FileTree := do
  match ← tree.resolve path with
  | (_, none) => throw .alreadyExists
  | (dir, some name) =>
    match ← tree.lookUp dir name with
    | some _ => throw .alreadyExists
    | none => return tree.insert (dir ++ [name]) .directory

def empty (workDir : List String) : FileTree where
  items := (List.range (workDir.length + 1)).map fun n => (workDir.take n, .directory)
  workDir

def files : Files (StateM FileTree) (List String) where
  read path := return (← get).read path
  create path := modifyGet fun tree =>
    match tree.create path with
    | .ok (place, tree) => (.ok place, tree)
    | .error e => (.error e, tree)
  write place contents := modifyGet fun tree =>
    let (taken, outcome) := tree.accept place contents
    (outcome, tree.overwrite place taken)
  makeDir path := modifyGet fun tree =>
    match tree.makeDir path with
    | .ok tree => (.ok (), tree)
    | .error e => (.error e, tree)
  isDirectory path := return (← get).isDirectory path

end FileTree

end NetScript
