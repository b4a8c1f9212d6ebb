import Mathlib.Data.List.Forall2
import NetScript.Proofs.Json.Reads
import NetScript.Proofs.Json.Verbatim
import NetScript.Setting

/-!
This module contains what the shapes of settings come to. The main statement is that a setting is
read from exactly those texts that a document is read from, and that it only depends on the
document.
-/

namespace NetScript

open Json.Reader

inductive Atom.Represents : Json → Atom → Prop where
  | number (n : Json.Number) : Represents (.number n) (.number n.toBinary64)
  | text (s : String) : Represents (.string s) (.text s)

/--
The setting that a document stands for, by the shape of the document.
-/
inductive Setting.Represents : Json → Setting → Prop where
  | null : Represents .null (.other .null)
  | bool (b : Bool) : Represents (.bool b) (.bool b)
  | number (n : Json.Number) : Represents (.number n) (.number n.toBinary64)
  | text (s : String) : Represents (.string s) (.text s)
  | list {items : List Json} {atoms : List Atom} (h : List.Forall₂ Atom.Represents items atoms) :
      Represents (.array items) (.list atoms)
  | array {items : List Json}
      (h : ∃ item ∈ items, (∀ n, item ≠ .number n) ∧ ∀ s, item ≠ .string s) :
      Represents (.array items) (.other (.array items))
  | object (members : List (String × Json)) :
      Represents (.object members) (.other (.object members))

namespace Atom

theorem ofVerbatim?_eq (document : Json) : ofVerbatim? document = ofJson? document.tidy := by
  cases document <;> rfl

theorem mapM_ofVerbatim?_eq (items : List Json) :
    items.mapM ofVerbatim? = (Json.tidyItems items).mapM ofJson? := by
  induction items with
  | nil => rfl
  | cons item items ih => rw [Json.tidyItems, List.mapM_cons, List.mapM_cons, ofVerbatim?_eq, ih]

theorem represents_iff {document : Json} {atom : Atom} :
    Represents document atom ↔ ofJson? document = some atom := by
  constructor
  · rintro (n | s) <;> rfl
  · intro h
    cases document with
    | number n =>
      cases h
      exact .number n
    | string s =>
      cases h
      exact .text s
    | _ => cases h

theorem mapM_ofJson?_eq_some_iff {items : List Json} {atoms : List Atom} :
    items.mapM ofJson? = some atoms ↔ List.Forall₂ Represents items atoms := by
  induction items generalizing atoms with
  | nil => cases atoms <;> simp
  | cons item items ih =>
    rw [List.mapM_cons]
    simp only [Option.bind_eq_bind, Option.bind_eq_some_iff, Option.pure_def, Option.some.injEq,
      ih, ← represents_iff]
    constructor
    · rintro ⟨atom, hatom, rest, hrest, rfl⟩
      exact .cons hatom hrest
    · rintro (_ | ⟨hatom, hrest⟩)
      exact ⟨_, hatom, _, hrest, rfl⟩

theorem mapM_ofJson?_eq_none_iff {items : List Json} :
    items.mapM ofJson? = none ↔
      ∃ item ∈ items, (∀ n, item ≠ .number n) ∧ ∀ s, item ≠ .string s := by
  induction items with
  | nil => simp
  | cons item items ih =>
    rw [List.mapM_cons, List.exists_mem_cons_iff, ← ih]
    cases item <;> cases items.mapM ofJson? <;> simp [ofJson?]

end Atom

namespace Setting

theorem represents_iff {document : Json} {setting : Setting} :
    Represents document setting ↔ ofJson document = setting := by
  constructor
  · rintro (_ | b | n | s | h | h | members)
    all_goals try rfl
    · rw [ofJson, Atom.mapM_ofJson?_eq_some_iff.mpr h]
    · rw [ofJson, Atom.mapM_ofJson?_eq_none_iff.mpr h]
  · rintro rfl
    cases document with
    | null => exact .null
    | bool b => exact .bool b
    | number n => exact .number n
    | string s => exact .text s
    | object members => exact .object members
    | array items =>
      rw [ofJson]
      split
      · next hatoms => exact .list (Atom.mapM_ofJson?_eq_some_iff.mp hatoms)
      · next hnone => exact .array (Atom.mapM_ofJson?_eq_none_iff.mp hnone)

theorem ofVerbatim?_eq (document : Json) : ofVerbatim? document = some (ofJson document.tidy) := by
  cases document with
  | array items =>
    -- An array fits the shape of a list, or only the last one.
    have hshapes : ofVerbatim? (.array items) =
        ((items.mapM Atom.ofVerbatim?).map .list <|> some (.other (Json.tidy (.array items)))) := by
      unfold ofVerbatim? shapes
      simp only [List.findSome?_cons, Json.bool?, Json.number?, Json.string?, Json.items?,
        Option.map_none, Option.bind_some]
      cases items.mapM Atom.ofVerbatim? <;> rfl
    rw [hshapes, Atom.mapM_ofVerbatim?_eq, Json.tidy, ofJson]
    cases (Json.tidyItems items).mapM Atom.ofJson? <;> rfl
  | _ => rfl

theorem read_eq (depth : Nat) : read depth = ofJson <$> value depth := by
  rw [value_eq_map_verbatim, read, Functor.map_map]
  simp only [ofVerbatim?_eq, map_eq_pure_bind]

theorem parse_eq (text : String) : parse text = (Json.parse text).map ofJson := by
  rw [parse, read_eq, parseWith_map, Json.parse]

/--
A setting is read wherever a document is, and depends on nothing but the document. In the document
that is meant by an object as it is written, the last member of each key counts.
-/
theorem parse_represents (text : String) :
    (∀ error, parse text = .error error ↔ Json.parse text = .error error) ∧
    (∀ setting, parse text = .ok setting ↔
      ∃ document, Json.parse text = .ok document ∧ Represents document setting) ∧
    (∀ depth cs rest, (∃ setting, (read depth).run cs = .ok (setting, rest)) ↔
      ∃ document, (value depth).run cs = .ok (document, rest)) ∧
    Json.parse text = (Json.parseWith (verbatim maxDepth) text).map Json.tidy ∧
    ∀ members, ∃ kept, (Json.object members).tidy = .object kept ∧
      ∀ key, kept.lookup key = (members.reverse.lookup key).map Json.tidy := by
  refine ⟨fun error => ?_, fun setting => ?_, fun depth cs rest => ?_, ?_, fun members => ?_⟩
  · rw [parse_eq]
    cases Json.parse text <;> simp [Except.map]
  · simp only [represents_iff]
    rw [parse_eq]
    cases Json.parse text <;> simp [Except.map]
  · rw [read_eq, run_map]
    cases (value depth).run cs with
    | error failure => simp [Except.map]
    | ok found =>
      obtain ⟨document, left⟩ := found
      simp [Except.map]
  · rw [Json.parse, value_eq_map_verbatim, parseWith_map]
  · refine ⟨_, by rw [Json.tidy], fun key => ?_⟩
    rw [Json.lookup_tidyMembers]
    simp

end Setting

end NetScript
