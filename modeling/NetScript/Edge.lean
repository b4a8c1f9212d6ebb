import NetScript.Json.Record

/-!
This module contains the edges of a graph, which name the nodes they connect, and their reading and
writing.
-/

namespace NetScript

structure Edge where
  id : String
  source : String
  target : String
deriving DecidableEq

namespace Edge

def between (source target : String) : Edge :=
  ⟨source ++ "->" ++ target, source, target⟩

structure Draft where
  id : Option String := none
  source : Option String := none
  target : Option String := none

def Draft.finish (draft : Draft) : Except Json.Fault Edge := do
  let source ← Json.required "source" draft.source
  let target ← Json.required "target" draft.target
  return { id := draft.id.getD "", source, target }

def idSlot : Json.Slot Draft where
  name := "id"
  isOptional := true
  isFilled draft := draft.id.isSome
  fill _ draft := return { draft with id := some (← Json.Reader.text) }

def sourceSlot : Json.Slot Draft where
  name := "source"
  isFilled draft := draft.source.isSome
  fill _ draft := return { draft with source := some (← Json.Reader.text) }

def targetSlot : Json.Slot Draft where
  name := "target"
  isFilled draft := draft.target.isSome
  fill _ draft := return { draft with target := some (← Json.Reader.text) }

def record : Json.Record Draft Edge where
  name := "Edge"
  slots := [idSlot, sourceSlot, targetSlot]
  blank := {}
  finish := Draft.finish

def read (depth : Nat) : Json.Reader Edge :=
  record.read depth

def parse (text : String) : Except Json.Error Edge :=
  Json.parseWith (read Json.Reader.maxDepth) text

def toJson (edge : Edge) : Json :=
  .object
    [("id", .string edge.id), ("source", .string edge.source), ("target", .string edge.target)]

end Edge

end NetScript
