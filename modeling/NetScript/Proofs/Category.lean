import NetScript.Category
import NetScript.Proofs.Json.Settled

/-!
This module contains what comes of the text of a value where a category is expected. It is taken if
it is a name, or an object with nothing but a name and `null` in it.
-/

namespace NetScript

open Json Json.Grammar Json.Reader

namespace Category

theorem stays_ofName? (name : String) : Stays (match ofName? name with
    | some category => pure category
    | none => fail (.unknownVariant name (all.map Category.name)) : Json.Reader Category) := by
  cases ofName? name with
  | none => exact ⟨none, fun _ => rfl⟩
  | some category => exact stays_pure category

theorem exists_outcome_readName {body : List Char} (h : IsBody body) :
    ∃ result : Option Category, ∀ rest,
      outcome readName (body ++ '"' :: rest) = result.map fun category => (category, rest) := by
  cases hname : spelled? body with
  | none =>
    refine ⟨none, fun rest => ?_⟩
    rw [readName, outcome_bind, outcome_stringBody h, hname]
    rfl
  | some name =>
    obtain ⟨result, hresult⟩ := stays_ofName? name
    refine ⟨result, fun rest => ?_⟩
    rw [readName, outcome_bind, outcome_stringBody h, hname]
    exact hresult rest

theorem settled_readNull {cs : List Char} (h : IsValue cs) : Settled readNull cs := by
  have hwrong : Decided (wrongType "unit" : Json.Reader Unit) cs :=
    decided_of_failure (outcome_wrongType _) cs
  rcases h.kind_cases with rfl | ⟨body, _, rfl⟩ | ⟨gap, entries, _, _, rfl⟩ |
    ⟨c, tail, rfl, hblank, hc⟩
  · exact settled_next rfl ((decided_literal _).skip 'n')
  · exact settled_next rfl hwrong
  · exact settled_next rfl hwrong
  · refine settled_next hblank ?_
    split
    · contradiction
    · simp_all
    · exact hwrong

theorem outcome_endOfMember {behind : List Char} (h : AreBlank behind) (category : Category)
    (entries : List Entry) (rest : List Char) :
    outcome (do
        match ← next? with
        | none => fail .endOfObject
        | some '\x7d' =>
          skip
          return category
        | some _ => fail .expectedValue)
        (behind ++ (continued (entries.map Entry.text) ++ '\x7d' :: rest)) =
      if entries.isEmpty then some (category, rest) else none := by
  cases entries with
  | nil =>
    rw [List.map_nil, continued, List.flatMap_nil, List.nil_append, outcome, run_next_of_cons h rfl]
    rfl
  | cons entry entries =>
    rw [List.map_cons, continued_cons, List.cons_append, outcome, run_next_of_cons h rfl]
    rfl

theorem decided_readMember {gap : List Char} {entries : List Entry} (hgap : AreBlank gap)
    (hvalue : ∀ entry ∈ entries, IsValue entry.value) :
    Decided readMember (listed gap (entries.map Entry.text) '\x7d') := by
  cases entries with
  | nil =>
    refine ⟨none, fun rest _ => ?_⟩
    rw [List.map_nil, listed_nil_append, outcome, readMember, run_next_append hgap]
    rfl
  | cons entry entries =>
    obtain ⟨name?, hname⟩ := exists_outcome_readName entry.isBody_key
    have hnull := settled_readNull (hvalue entry List.mem_cons_self)
    -- The name comes first, then `null`, and only then it counts whether a member follows.
    refine ⟨name?.bind fun category => (taken readNull entry.value).bind fun _ =>
      if entries.isEmpty then some category else none, fun rest _ => ?_⟩
    have hends : Ends (continued (entries.map Entry.text) ++ '\x7d' :: rest) :=
      ends_continued _ (by decide) rest
    have htext : listed gap ((entry :: entries).map Entry.text) '\x7d' ++ rest =
        gap ++ (entry.before ++ '"' :: (entry.key ++ '"' :: (entry.gap ++ ':' :: (entry.lead ++
          (entry.value ++ (entry.behind ++
            (continued (entries.map Entry.text) ++ '\x7d' :: rest))))))) := by
      rw [List.map_cons, listed_cons_append]
      simp [Entry.text, Entry.assigned, Item.text]
    rw [htext, outcome, readMember, run_next_append hgap, run_next_of_cons entry.blank_before rfl,
      ← outcome]
    show outcome (skip >>= fun _ => readName >>= fun category => colon >>= fun _ => _) _ = _
    rw [outcome_bind_of_ok (run_skip _ _), outcome_bind, hname]
    cases name? with
    | none => rfl
    | some category =>
      rw [Option.map_some, Option.bind_some, Option.bind_some,
        outcome_bind_of_ok (run_colon entry.blank_gap _), outcome_bind,
        hnull _ _ entry.blank_lead (ends_append entry.blank_behind hends)]
      cases taken readNull entry.value with
      | none => rfl
      | some _ =>
        refine (outcome_endOfMember entry.blank_behind category entries rest).trans ?_
        cases entries.isEmpty <;> rfl

theorem settled_read {cs : List Char} (h : IsValue cs) (depth : Nat) :
    Settled (read depth) cs := by
  have hfails {cs : List Char} : Decided (failAfter .expectedValue : Json.Reader Category) cs :=
    decided_of_failure (fun _ => rfl) cs
  rcases h.kind_cases with rfl | ⟨body, hbody, rfl⟩ | ⟨gap, entries, hgap, hvalue, rfl⟩ |
    ⟨c, tail, rfl, hblank, hc⟩
  · exact settled_next rfl hfails
  · obtain ⟨name?, hname⟩ := exists_outcome_readName hbody
    refine settled_next rfl (Decided.skip ⟨name?, fun rest _ => ?_⟩ '"')
    rw [List.append_assoc]
    exact hname rest
  · cases depth with
    | zero => exact settled_next rfl (decided_of_failure (fun _ => rfl) _)
    | succ depth => exact settled_next rfl ((decided_readMember hgap hvalue).skip '\x7b')
  · refine settled_next hblank ?_
    split
    · contradiction
    · simp_all
    · simp_all
    · exact hfails

end Category

end NetScript
