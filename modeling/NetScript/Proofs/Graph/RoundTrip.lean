import Mathlib
import NetScript.Proofs.Json.RoundTrip
import NetScript.Proofs.Setting.Shapes
import NetScript.Script.Basic

/-!
This module contains the graphs that can be read. Such a graph is read again from its text if the
floats in its settings are, and then it is also compiled to the same script.
-/

namespace NetScript

open Json.Reader

namespace Atom

def floats : Atom → List Binary64
  | .number x => [x]
  | .text _ => []

theorem floats_toJson (atom : Atom) : atom.toJson.floats = atom.floats := by
  cases atom <;> rfl

theorem readable_toJson (atom : Atom) (depth : Nat) : Json.Readable depth atom.toJson := by
  cases atom with
  | number x => exact .number depth trivial
  | text s => exact .string depth s

theorem mapM_ofJson?_toJson (atoms : List Atom) :
    (atoms.map toJson).mapM ofJson? = some atoms := by
  induction atoms with
  | nil => rfl
  | cons atom atoms ih =>
    have hatom : ofJson? atom.toJson = some atom := by cases atom <;> rfl
    rw [List.map_cons, List.mapM_cons, hatom, ih]
    rfl

end Atom

namespace Setting

def floats : Setting → List Binary64
  | .number x => [x]
  | .list items => items.flatMap Atom.floats
  | .other document => document.floats
  | _ => []

theorem floats_toJson (setting : Setting) : setting.toJson.floats = setting.floats := by
  cases setting with
  | list items =>
    rw [toJson, Json.floats_array, List.flatMap_map, floats]
    simp only [Atom.floats_toJson]
  | _ => rfl

/--
The settings that can be read while the given number of arrays and objects may be open at once.
-/
structure Readable (depth : Nat) (setting : Setting) : Prop where
  readable_toJson : Json.Readable depth setting.toJson
  ofJson_toJson : ofJson setting.toJson = setting

theorem readable_ofJson {depth : Nat} {json : Json} (h : Json.Readable depth json) :
    (ofJson json).Readable depth := by
  cases h with
  | null => exact ⟨.null depth, rfl⟩
  | bool _ b => exact ⟨.bool depth b, rfl⟩
  | number => exact ⟨.number depth trivial, rfl⟩
  | string _ s => exact ⟨.string depth s, rfl⟩
  | @array inner items hitems =>
    -- An array of atoms loses the distinction of integers and floats, and keeps its shape.
    rw [ofJson]
    split
    · next atoms hatoms =>
      constructor
      · refine .array fun json hjson => ?_
        obtain ⟨atom, _, rfl⟩ := List.mem_map.mp hjson
        exact atom.readable_toJson inner
      · rw [toJson, ofJson, Atom.mapM_ofJson?_toJson]
    · next hnone =>
      constructor
      · exact .array hitems
      · rw [toJson, ofJson, hnone]
  | object hmembers hsorted => exact ⟨.object hmembers hsorted, rfl⟩

theorem yields_read (depth : Nat) : Yields (read depth) (Readable depth) := by
  rw [read_eq]
  exact (yields_value depth).bind fun _ hjson => yields_pure (readable_ofJson hjson)

theorem Readable.reads {depth : Nat} {setting : Setting} (h : setting.Readable depth)
    (hfloats : ∀ x ∈ setting.floats, Json.ReadsBack x) :
    Reads (read depth) setting.toJson.render setting := by
  rw [← floats_toJson] at hfloats
  have hread := (h.readable_toJson.reads hfloats).map ofJson
  rw [h.ofJson_toJson] at hread
  rw [read_eq]
  exact hread

end Setting

theorem Category.reads_read (category : Category) (depth : Nat) :
    Reads (read depth) category.toJson.render category := by
  intro rest _
  rw [toJson, Json.render, Json.Reader.quoted_append, read, run_bind_of_ok (run_next?_cons rfl)]
  show (skip >>= fun _ => readName).run _ = _
  rw [run_bind_of_ok (run_skip _ _), readName, run_bind_of_ok (run_stringBody category.name rest),
    ofName?_name]
  rfl

namespace Node

def floats (node : Node) : List Binary64 :=
  node.settings.entries.flatMap (·.2.floats)

def Readable (depth : Nat) (node : Node) : Prop :=
  ∀ entry ∈ node.settings.entries, entry.2.Readable depth

theorem settings_of_finish {draft : Draft} {node : Node} (h : draft.finish = .ok node) :
    node.settings = draft.settings.getD .empty := by
  obtain ⟨id, kind, category, settings⟩ := draft
  cases id with
  | none => cases h
  | some id =>
    cases kind with
    | none => cases h
    | some kind =>
      cases h
      rfl

theorem yields_read (depth : Nat) : Yields (read (depth + 2)) (Readable depth) := by
  refine Json.Record.yields_read (fun draft => ∀ settings ∈ draft.settings,
    ∀ entry ∈ settings.entries, entry.2.Readable depth) (by simp [record]) ?_ ?_
  · intro slot hslot draft hdraft
    simp only [record, List.mem_cons, List.not_mem_nil, or_false] at hslot
    rcases hslot with rfl | rfl | rfl | rfl
    -- Only the last field has settings, and all others leave them as they are.
    · exact yields_bind _ fun _ => yields_pure hdraft
    · exact yields_bind _ fun _ => yields_pure hdraft
    · exact yields_bind _ fun _ => yields_pure hdraft
    · refine (yields_map (Setting.yields_read depth)).bind fun settings hsettings => ?_
      exact yields_pure (by simpa using hsettings)
  · intro draft node hdraft hfinish entry hentry
    rw [settings_of_finish hfinish] at hentry
    cases hsettings : draft.settings with
    | none =>
      rw [hsettings] at hentry
      cases hentry
    | some settings =>
      rw [hsettings] at hentry
      exact hdraft settings hsettings entry hentry

theorem Readable.reads {depth : Nat} {node : Node} (h : node.Readable depth)
    (hfloats : ∀ x ∈ node.floats, Json.ReadsBack x) :
    Reads (read (depth + 2)) node.toJson.render node := by
  have hcategory : Reads (optional (Category.read (depth + 1)))
      ((node.category.map Category.toJson).getD .null).render node.category := by
    cases node.category with
    | none => exact reads_optional_null _
    | some category => exact reads_optional (category.reads_read (depth + 1)) rfl (by decide)
  have hsettings : Reads (map Setting.read (depth + 1)) (Json.object (node.settings.entries.map
      fun entry => (entry.1, entry.2.toJson))).render node.settings := by
    refine reads_map fun entry hentry => (h entry hentry).reads fun x hx => ?_
    exact hfloats x (List.mem_flatMap.mpr ⟨entry, hentry, hx⟩)
  have hfills : Fills (record.member (depth + 1)) {}
      [("id", .string node.id), ("kind", .string node.kind),
        ("category", (node.category.map Category.toJson).getD .null),
        ("parameters", .object (node.settings.entries.map fun entry => (entry.1, entry.2.toJson)))]
      ⟨some node.id, some node.kind, some node.category, some node.settings⟩ := by
    refine .cons (Json.Record.reads_member idSlot rfl rfl ((reads_text node.id).map _)) ?_
    refine .cons (Json.Record.reads_member kindSlot rfl rfl ((reads_text node.kind).map _)) ?_
    refine .cons (Json.Record.reads_member categorySlot rfl rfl (hcategory.map _)) ?_
    exact .cons (Json.Record.reads_member settingsSlot rfl rfl (hsettings.map _)) (.nil _)
  exact Json.Record.reads_read hfills rfl

end Node

theorem Edge.reads_read (edge : Edge) (depth : Nat) :
    Reads (read (depth + 1)) edge.toJson.render edge := by
  have hfills : Fills (record.member depth) {}
      [("id", .string edge.id), ("source", .string edge.source), ("target", .string edge.target)]
      ⟨some edge.id, some edge.source, some edge.target⟩ := by
    refine .cons (Json.Record.reads_member idSlot rfl rfl ((reads_text edge.id).map _)) ?_
    refine .cons (Json.Record.reads_member sourceSlot rfl rfl ((reads_text edge.source).map _)) ?_
    exact .cons (Json.Record.reads_member targetSlot rfl rfl ((reads_text edge.target).map _))
      (.nil _)
  exact Json.Record.reads_read hfills rfl

namespace Graph

def floats (graph : Graph) : List Binary64 :=
  graph.nodes.flatMap Node.floats

def Readable (depth : Nat) (graph : Graph) : Prop :=
  ∀ node ∈ graph.nodes, node.Readable depth

theorem nodes_of_finish {draft : Draft} {graph : Graph} (h : draft.finish = .ok graph) :
    draft.nodes = some graph.nodes := by
  obtain ⟨nodes, edges⟩ := draft
  cases nodes with
  | none => cases h
  | some nodes =>
    cases h
    rfl

theorem yields_read (depth : Nat) :
    Yields (read (depth + 4)) fun graph? => ∀ graph ∈ graph?, graph.Readable depth := by
  apply yields_optional
  refine Json.Record.yields_read (fun draft => ∀ nodes ∈ draft.nodes,
    ∀ node ∈ nodes, node.Readable depth) (by simp [record]) ?_ ?_
  · intro slot hslot draft hdraft
    simp only [record, List.mem_cons, List.not_mem_nil, or_false] at hslot
    rcases hslot with rfl | rfl
    · refine (yields_sequence (Node.yields_read depth)).bind fun nodes hnodes => ?_
      exact yields_pure (by simpa using hnodes)
    · exact yields_bind _ fun _ => yields_pure hdraft
  · intro draft graph hdraft hfinish
    exact hdraft graph.nodes (nodes_of_finish hfinish)

theorem Readable.reads {depth : Nat} {graph : Graph} (h : graph.Readable depth)
    (hfloats : ∀ x ∈ graph.floats, Json.ReadsBack x) :
    Reads (record.read (depth + 4)) graph.toJson.render graph := by
  have hnodes : Reads (sequence Node.read (depth + 3))
      (Json.array (graph.nodes.map Node.toJson)).render graph.nodes := by
    refine reads_sequence fun node hnode => (h node hnode).reads fun x hx => ?_
    exact hfloats x (List.mem_flatMap.mpr ⟨node, hnode, hx⟩)
  have hedges : Reads (sequence Edge.read (depth + 3))
      (Json.array (graph.edges.map Edge.toJson)).render graph.edges :=
    reads_sequence fun edge _ => edge.reads_read (depth + 1)
  have hfills : Fills (record.member (depth + 3)) {}
      [("nodes", .array (graph.nodes.map Node.toJson)),
        ("edges", .array (graph.edges.map Edge.toJson))] ⟨some graph.nodes, some graph.edges⟩ := by
    refine .cons (Json.Record.reads_member nodesSlot rfl rfl (hnodes.map _)) ?_
    exact .cons (Json.Record.reads_member edgesSlot rfl rfl (hedges.map _)) (.nil _)
  exact Json.Record.reads_read hfills rfl

theorem parse_serialize {text : String} {graph? : Option Graph}
    (h : parse text = .ok graph?)
    (hfloats : ∀ graph ∈ graph?, ∀ x ∈ graph.floats, Json.ReadsBack x) :
    parse (serialize graph?) = .ok graph? ∧
      Script.compileText (serialize graph?) = Script.compileText text := by
  have hparse : parse (serialize graph?) = .ok graph? := by
    -- Around a setting the graph, its nodes, the node and the settings are open.
    have hreadable := (yields_read 123).of_parseWith h
    cases graph? with
    | none => exact (reads_optional_null _).parseWith_eq
    | some graph =>
      have hreads := (hreadable graph rfl).reads (hfloats graph rfl)
      exact (reads_optional hreads rfl (by decide)).parseWith_eq
  refine ⟨hparse, ?_⟩
  rw [Script.compileText, Script.compileText, Script.readGraph, Script.readGraph, hparse, h]

/--
The graph is written as an array, its node under the other names of the fields and with a setting
that is given twice.
-/
theorem parse_serialize_of_array :
    let text := "[[\x7b\"type\":\"relu\",\"id\":\"r\",\"params\":" ++
      "\x7b\"b\":null,\"b\":[5,\"\\n\"],\"a\":\x7b\"k\":-0\x7d\x7d\x7d]]"
    let document : Json := .object [("k", .number (.float Binary64.zero.neg))]
    let node : Node := ⟨"r", "relu", none,
      ⟨[("a", .other document), ("b", .list [.number 5, .text "\n"])], by decide⟩⟩
    let graph : Graph := ⟨[node], []⟩
    parse text = .ok (some graph) ∧ (∀ x ∈ graph.floats, Json.ReadsBack x) ∧
      parse (serialize graph) = .ok (some graph) ∧
      Script.compileText (serialize graph) = Script.compileText text := by
  intro text document node graph
  have hparse : parse text = .ok (some graph) := by
    set_option maxRecDepth 1000 in cbv
  have hfloats : ∀ x ∈ graph.floats, Json.ReadsBack x := by
    have hzero : Json.ReadsBack Binary64.zero.neg := by
      have hdown : (Binary64.ofNat 0).scaleDown 1 = .zero := by decide +kernel
      refine readsBack_of_minus (by decide +kernel : _ = ['-', '0', '.', '0']) ?_
      show Except.ok (Json.Number.float ((Binary64.ofNat 0).scaleDown 1).neg, []) = _
      rw [hdown]
    have hfive : Json.ReadsBack 5 := by
      have hdown : (Binary64.ofNat 50).scaleDown 1 = 5 := by decide +kernel
      refine readsBack_of_digit (by decide +kernel : _ = ['5', '.', '0']) rfl ?_
      show Except.ok (Json.Number.float ((Binary64.ofNat 50).scaleDown 1), []) = _
      rw [hdown]
    have hlist : graph.floats = [Binary64.zero.neg, 5] := rfl
    simp [hlist, hzero, hfive]
  refine ⟨hparse, hfloats, ?_⟩
  exact parse_serialize hparse (by simpa using hfloats)

end Graph

end NetScript
