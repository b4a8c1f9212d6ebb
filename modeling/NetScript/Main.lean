import NetScript.Export

/-!
This module contains the command line. It exports the graphs of a manifest on the real file system
and shows the events that the filter in the environment lets through.
-/

namespace NetScript.CommandLine

/--
The number of an error. Some functions give it with the opposite sign.
-/
def errorNumber (code : UInt32) : Nat :=
  if code < 0x80000000 then code.toNat else (0 - code).toNat

def errorOfCode (code : UInt32) (details : String) : FileError :=
  match errorNumber code with
  | 2 => .notFound
  | 17 => .alreadyExists
  | 20 => .notDirectory
  | 21 => .isDirectory
  | 36 => .nameTooLong
  | number => .other (details ++ " (os error " ++ toString number ++ ")")

def toFileError : IO.Error → FileError
  | .noFileOrDirectory _ code details => errorOfCode code details
  | .alreadyExists _ code details => errorOfCode code details
  | .inappropriateType _ code details => errorOfCode code details
  | .permissionDenied _ code details => errorOfCode code details
  | .resourceExhausted _ code details => errorOfCode code details
  | .invalidArgument _ code details => errorOfCode code details
  | error => .other (toString error)

def attempt (action : IO α) : IO (Except FileError α) := do
  try
    return .ok (← action)
  catch error =>
    return .error (toFileError error)

def isDirectoryError : Except FileError Contents → Bool
  | .error .isDirectory => true
  | _ => false

def attemptAt (path : String) (action : IO α) : IO (Except FileError α) := do
  match FileError.ofPath? path with
  | some error => return .error error
  | none => attempt action

def readFile (path : String) : IO (Except FileError Contents) :=
  attemptAt path (Contents.mk <$> IO.FS.readBinFile path)

def files : Files IO IO.FS.Handle where
  read := readFile
  create path := attemptAt path (IO.FS.Handle.mk path .write)
  write handle contents := attempt do
    handle.write contents.bytes
    handle.flush
  makeDir path := attemptAt path (IO.FS.createDir path)
  isDirectory path := return isDirectoryError (← readFile path)

def filterVariable : String := "RUST_LOG"

def run (args : List String) : IO UInt32 := do
  let report ← Export.run files args
  IO.eprint (report.print ((← IO.getEnv filterVariable).getD "info"))
  return if report.error?.isNone then 0 else 1

end NetScript.CommandLine

def main (args : List String) : IO UInt32 :=
  NetScript.CommandLine.run args
