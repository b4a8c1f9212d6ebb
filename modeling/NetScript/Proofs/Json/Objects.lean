import NetScript.Proofs.Json.Ignored
import NetScript.Proofs.Json.Settled

/-!
This module contains what comes of an object where a record is expected. Its members are taken one
after the other into a draft, so what comes of it is a fold over them, whatever stands between them.
-/

namespace NetScript.Json

open Grammar Reader

variable {δ α : Type} {record : Record δ α} {depth : Nat}

namespace Grammar

def Member.Names (member : Member) (key : String) : Prop :=
  Spells member.key key.toList

theorem Member.names_iff {member : Member} {key : String} :
    member.Names key ↔ spelled? member.key = some key :=
  (spelled?_eq_some_iff member.isBody_key).symm

end Grammar

namespace Record

def move (record : Record δ α) (depth : Nat) (draft : δ) (key : String) (value : List Char) :
    Option δ :=
  match record.slots.find? (·.isNamed key) with
  | some slot => if slot.isFilled draft then none else taken (slot.fill depth draft) value
  | none => some draft

theorem moves_member {entry : Entry} (hvalue : IsValue entry.value)
    (hfill : ∀ slot ∈ record.slots, ∀ draft, Settled (slot.fill depth draft) entry.value) :
    Moves (record.member depth) (record.move depth) entry := by
  intro draft key rest hrest
  rw [member, move]
  cases hslot : record.slots.find? (·.isNamed key) with
  | some slot =>
    dsimp only
    split
    · rfl
    · have hsettled := hfill slot (List.mem_of_find?_eq_some hslot) draft
      rw [passed_colon]
      exact (passed_ok hsettled hrest id).trans (by rw [Option.map_id_apply])
  | none =>
    have hignored := run_ignoreValue (ignored_of_isValue hvalue) entry.blank_lead
      (ends_append entry.blank_behind hrest)
    dsimp only
    rw [passed_colon, passed, outcome_bind_of_ok hignored]
    rfl

def draft? (record : Record δ α) (depth : Nat) (members : List Member) : Option δ :=
  members.foldlM (fun draft member => moveTo (record.move depth) draft member.toEntry) record.blank

theorem outcome_read {object : Object} {before : List Char} (hbefore : AreBlank before)
    (hfill : ∀ slot ∈ record.slots, ∀ draft value, IsValue value →
      Settled (slot.fill depth draft) value) (rest : List Char) :
    outcome (record.read (depth + 1)) (before ++ (object.text ++ rest)) =
      ((record.draft? depth object.members).bind fun draft =>
        (record.finish draft).toOption).map fun a => (a, rest) := by
  have hmoves : ∀ entry ∈ object.members.map Member.toEntry,
      Moves (record.member depth) (record.move depth) entry := by
    intro entry hentry
    obtain ⟨member, hmember, rfl⟩ := List.mem_map.mp hentry
    exact moves_member member.isValue fun slot hslot draft =>
      hfill slot hslot draft member.value member.isValue
  have hobject := outcome_object (fun draft => draft.bind record.finish)
    (fun fault => ⟨fault, rfl⟩) hmoves object.blank_gap record.blank rest
  rw [List.map_map, List.foldlM_map] at hobject
  rw [outcome, Object.text, read, List.cons_append, run_next_of_cons hbefore rfl]
  exact hobject

theorem outcome_read_zero (object : Object) {before : List Char} (hbefore : AreBlank before)
    (rest : List Char) : outcome (record.read 0) (before ++ (object.text ++ rest)) = none := by
  rw [outcome, Object.text, read, List.cons_append, run_next_of_cons hbefore rfl]
  rfl

end Record

end NetScript.Json
