import NetScript.Json.Record
import NetScript.Path

/-!
This module contains manifests, which list the graphs to export. The paths in a manifest are
relative to the directory that it is in.
-/

namespace NetScript

structure Manifest.Entry where
  id : String
  path : String
deriving DecidableEq

structure Manifest where
  outDir : String
  programs : List Manifest.Entry
deriving DecidableEq

namespace Manifest

namespace Entry

structure Draft where
  id : Option String := none
  path : Option String := none

def Draft.finish (draft : Draft) : Except Json.Fault Entry := do
  let id ← Json.required "id" draft.id
  let path ← Json.required "path" draft.path
  return { id, path }

def idSlot : Json.Slot Draft where
  name := "id"
  isFilled draft := draft.id.isSome
  fill _ draft := return { draft with id := some (← Json.Reader.text) }

def pathSlot : Json.Slot Draft where
  name := "path"
  isFilled draft := draft.path.isSome
  fill _ draft := return { draft with path := some (← Json.Reader.text) }

def record : Json.Record Draft Entry where
  name := "ProgramEntry"
  slots := [idSlot, pathSlot]
  blank := {}
  finish := Draft.finish

def toJson (entry : Entry) : Json :=
  .object [("id", .string entry.id), ("path", .string entry.path)]

end Entry

def defaultOutDir : String := "generated"

structure Draft where
  outDir : Option String := none
  programs : Option (List Entry) := none

def Draft.finish (draft : Draft) : Except Json.Fault Manifest := do
  let programs ← Json.required "programs" draft.programs
  return { outDir := draft.outDir.getD defaultOutDir, programs }

def outDirSlot : Json.Slot Draft where
  name := "out_dir"
  isOptional := true
  isFilled draft := draft.outDir.isSome
  fill _ draft := return { draft with outDir := some (← Json.Reader.text) }

def programsSlot : Json.Slot Draft where
  name := "programs"
  isFilled draft := draft.programs.isSome
  fill depth draft :=
    return { draft with programs := some (← Json.Reader.sequence Entry.record.read depth) }

def record : Json.Record Draft Manifest where
  name := "Manifest"
  slots := [outDirSlot, programsSlot]
  blank := {}
  finish := Draft.finish

def parse (text : String) : Except Json.Error Manifest :=
  Json.parseWith (record.read Json.Reader.maxDepth) text

def toJson (manifest : Manifest) : Json :=
  .object
    [ ("out_dir", .string manifest.outDir),
      ("programs", .array (manifest.programs.map Entry.toJson)) ]

def graphPath (base : String) (entry : Entry) : String :=
  Path.join base entry.path

def outPath (manifest : Manifest) (base : String) : String :=
  Path.join base manifest.outDir

def scriptPath (manifest : Manifest) (base : String) (entry : Entry) : String :=
  Path.join (manifest.outPath base) (entry.id ++ ".py")

end Manifest

end NetScript
