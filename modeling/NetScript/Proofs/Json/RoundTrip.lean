import NetScript.Proofs.Json.Containers
import NetScript.Proofs.Json.Yields

/-!
This module contains the documents that the reader can return. They are read back from their text if
the floats in them are.
-/

namespace NetScript.Json

open Reader

mutual

def floats : Json → List Binary64
  | .number (.float x) => [x]
  | .array items => itemFloats items
  | .object members => memberFloats members
  | _ => []

def itemFloats : List Json → List Binary64
  | [] => []
  | item :: items => floats item ++ itemFloats items

def memberFloats : List (String × Json) → List Binary64
  | [] => []
  | (_, value) :: members => floats value ++ memberFloats members

end

theorem floats_array (items : List Json) : (array items).floats = items.flatMap floats := by
  rw [floats]
  induction items with
  | nil => rfl
  | cons item items ih => rw [itemFloats, ih, List.flatMap_cons]

theorem floats_object (members : List (String × Json)) :
    (object members).floats = members.flatMap (·.2.floats) := by
  rw [floats]
  induction members with
  | nil => rfl
  | cons member members ih => rw [memberFloats, ih, List.flatMap_cons]

/--
The documents that can be read while the given number of arrays and objects may be open at once.
-/
inductive Readable : Nat → Json → Prop where
  | null (depth : Nat) : Readable depth .null
  | bool (depth : Nat) (b : Bool) : Readable depth (.bool b)
  | number (depth : Nat) {n : Number} (h : n.InRange) : Readable depth (.number n)
  | string (depth : Nat) (s : String) : Readable depth (.string s)
  | array {depth : Nat} {items : List Json} (h : ∀ item ∈ items, Readable depth item) :
      Readable (depth + 1) (.array items)
  | object {depth : Nat} {members : List (String × Json)}
      (h : ∀ member ∈ members, Readable depth member.2)
      (hsorted : members.Pairwise fun a b => a.1 < b.1) : Readable (depth + 1) (.object members)

theorem Readable.reads {depth : Nat} {json : Json} (h : Readable depth json)
    (hfloats : ∀ x ∈ json.floats, ReadsBack x) : Reads (value depth) json.render json := by
  -- The depth decreases with the nesting on both sides, so the induction is on what is readable.
  induction h with
  | null depth => exact reads_null depth
  | bool depth b => exact reads_bool depth b
  | number depth hrange =>
    rename_i n
    cases n with
    | int i => exact reads_int hrange depth
    | float x => exact reads_float (hfloats x List.mem_cons_self) depth
  | string depth s => exact reads_string depth s
  | array _ ih =>
    rw [floats_array] at hfloats
    refine reads_array fun item hitem => ih item hitem fun x hx => ?_
    exact hfloats x (List.mem_flatMap.mpr ⟨item, hitem, hx⟩)
  | object _ hsorted ih =>
    rw [floats_object] at hfloats
    refine reads_object (fun member hmember => ih member hmember fun x hx => ?_) hsorted
    exact hfloats x (List.mem_flatMap.mpr ⟨member, hmember, hx⟩)

namespace Reader

theorem absorb_le {limit n : Nat} (h : n ≤ limit) (digits : List Nat) :
    (absorb limit n digits).1 ≤ limit := by
  induction digits generalizing n with
  | nil => exact h
  | cons digit digits ih =>
    unfold absorb
    split
    · next hle => exact ih hle
    · exact h

theorem inRange_ofSignificand (negative : Bool) {significand : Nat}
    (h : significand ≤ significandLimit) : (ofSignificand negative significand).InRange := by
  have hlimit : significandLimit = 0xffffffffffffffff := rfl
  unfold ofSignificand
  split
  · constructor <;> omega
  · split
    · next hbounds =>
      simp only [Bool.and_eq_true, decide_eq_true_eq] at hbounds
      constructor <;> omega
    · trivial

theorem yields_number (negative : Bool) : Yields (number negative) Number.InRange := by
  have hfloat (reader : Reader Binary64) : Yields (do
      return .float (applySign negative (← reader))) Number.InRange :=
    yields_bind _ fun _ => yields_pure trivial
  refine yields_bind _ fun found => ?_
  have hle := absorb_le (Nat.zero_le significandLimit) found
  split
  next significand dropped heq =>
  refine yields_bind _ fun fraction => ?_
  split
  · refine yields_bind _ fun exponent => ?_
    split <;> exact hfloat _
  · refine yields_bind _ fun exponent => ?_
    split
    · exact hfloat _
    · split
      · exact yields_pure (inRange_ofSignificand negative (by rw [heq] at hle; exact hle))
      · exact hfloat _

theorem yields_scalar (c : Char) (depth : Nat) : Yields (scalar c) (Readable depth) := by
  have hnumber (negative : Bool) : Yields (do return .number (← number negative))
      (Readable depth) :=
    (yields_number negative).bind fun _ hn => yields_pure (.number depth hn)
  unfold scalar
  split
  · exact yields_bind _ fun _ => yields_bind _ fun _ => yields_pure (.null depth)
  split
  · exact yields_bind _ fun _ => yields_bind _ fun _ => yields_pure (.bool depth true)
  split
  · exact yields_bind _ fun _ => yields_bind _ fun _ => yields_pure (.bool depth false)
  split
  · exact yields_bind _ fun _ => hnumber true
  split
  · exact hnumber false
  split
  · exact yields_bind _ fun _ => yields_bind _ fun s => yields_pure (.string depth s)
  · exact yields_failAfter _

theorem yields_valueWith {array object : Reader Json} {depth : Nat}
    (harray : Yields array (Readable depth)) (hobject : Yields object (Readable depth)) :
    Yields (valueWith array object) (Readable depth) := by
  refine yields_bind _ fun c => ?_
  split
  · exact yields_failAfter _
  · exact harray
  · exact hobject
  · exact yields_scalar _ depth

theorem yields_objectOf {depth : Nat} (h : Yields (value depth) (Readable depth)) :
    Yields (objectOf (value depth)) (Readable (depth + 1)) := by
  let inv (read : List (String × Json)) : Prop :=
    (∀ member ∈ read, Readable depth member.2) ∧ read.Pairwise fun a b => a.1 < b.1
  have hmember (read : List (String × Json)) (key : String) (hread : inv read) :
      Yields (objectOf.member (value depth) read key) fun next => ∀ s, next = .ok s → inv s := by
    refine yields_bind _ fun _ => h.bind fun json hjson => yields_pure ?_
    intro next hok
    cases hok
    refine ⟨fun member hmem => ?_, Fields.pairwise_insertEntry key json hread.2⟩
    rcases Fields.mem_insertEntry hmem with rfl | hmem
    · exact hjson
    · exact hread.1 member hmem
  refine yields_bind _ fun _ => (yields_members hmember ⟨by simp, .nil⟩).bind fun read hread => ?_
  apply yields_closeObject
  intro json hok
  cases read with
  | error fault => cases hok
  | ok members =>
    cases hok
    exact .object (hread members rfl).1 (hread members rfl).2

theorem yields_value (depth : Nat) : Yields (value depth) (Readable depth) := by
  induction depth with
  | zero => exact yields_valueWith (yields_failAfter _) (yields_failAfter _)
  | succ depth ih =>
    apply yields_valueWith
    · refine yields_bind _ fun _ => (yields_items ih).bind fun items hitems => ?_
      exact yields_closeArray fun _ hok => Except.ok.inj hok ▸ .array hitems
    · exact yields_objectOf ih

end Reader

theorem parse_compress {text : String} {json : Json} (h : parse text = .ok json)
    (hfloats : ∀ x ∈ json.floats, ReadsBack x) : parse json.compress = .ok json :=
  ((yields_value maxDepth).of_parseWith h |>.reads hfloats).parseWith_eq

end NetScript.Json
