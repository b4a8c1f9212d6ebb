import NetScript.Json.Record
import NetScript.Node.Basic

/-!
This module contains the reading and writing of nodes.
-/

namespace NetScript.Node

structure Draft where
  id : Option String := none
  kind : Option String := none
  category : Option (Option Category) := none
  settings : Option (Fields Setting) := none

def Draft.finish (draft : Draft) : Except Json.Fault Node := do
  let id ← Json.required "id" draft.id
  let kind ← Json.required "kind" draft.kind
  return {
    id
    kind
    category := draft.category.getD none
    settings := draft.settings.getD .empty
  }

def idSlot : Json.Slot Draft where
  name := "id"
  isFilled draft := draft.id.isSome
  fill _ draft := return { draft with id := some (← Json.Reader.text) }

def kindSlot : Json.Slot Draft where
  name := "kind"
  aliases := ["type"]
  isFilled draft := draft.kind.isSome
  fill _ draft := return { draft with kind := some (← Json.Reader.text) }

def categorySlot : Json.Slot Draft where
  name := "category"
  isOptional := true
  isFilled draft := draft.category.isSome
  fill depth draft :=
    return { draft with category := some (← Json.Reader.optional (Category.read depth)) }

def settingsSlot : Json.Slot Draft where
  name := "parameters"
  aliases := ["params"]
  isOptional := true
  isFilled draft := draft.settings.isSome
  fill depth draft := return { draft with settings := some (← Json.Reader.map Setting.read depth) }

def record : Json.Record Draft Node where
  name := "Node"
  slots := [idSlot, kindSlot, categorySlot, settingsSlot]
  blank := {}
  finish := Draft.finish

def read (depth : Nat) : Json.Reader Node :=
  record.read depth

def parse (text : String) : Except Json.Error Node :=
  Json.parseWith (read Json.Reader.maxDepth) text

def toJson (node : Node) : Json :=
  .object
    [ ("id", .string node.id),
      ("kind", .string node.kind),
      ("category", (node.category.map Category.toJson).getD .null),
      ("parameters", .object (node.settings.entries.map fun (key, value) => (key, value.toJson))) ]

end NetScript.Node
