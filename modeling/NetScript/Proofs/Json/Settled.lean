import NetScript.Proofs.Json.Listed

/-!
This module contains the readers that are settled by the text of a value: those of documents, texts,
maps and optional values.
-/

namespace NetScript.Json

open Grammar

namespace Reader

variable {α : Type}

theorem exists_value_eq (depth : Nat) :
    ∃ array object, value depth = valueWith array object := by
  cases depth <;> exact ⟨_, _, rfl⟩

theorem settled_value_of_scalar {c : Char} {cs : List Char} (hblank : isBlank c = false)
    (harray : c ≠ '[') (hobject : c ≠ '\x7b') (depth : Nat) (h : Decided (scalar c) (c :: cs)) :
    Settled (value depth) (c :: cs) := by
  obtain ⟨array, object, heq⟩ := exists_value_eq depth
  rw [heq]
  refine settled_next hblank ?_
  split
  · contradiction
  · simp_all
  · simp_all
  · simp_all

theorem decided_literal (word : List Char) : Decided (literal word) word :=
  ⟨some (), fun rest _ => by rw [outcome_eq_some_iff.mpr (run_literal word rest)]; rfl⟩

theorem Decided.skip {reader : Reader α} {cs : List Char} (h : Decided reader cs) (c : Char) :
    Decided (do skip; reader) (c :: cs) := by
  obtain ⟨result, hresult⟩ := h
  refine ⟨result, fun rest hrest => ?_⟩
  rw [List.cons_append, outcome_bind_of_ok (run_skip _ _), hresult rest hrest]

theorem decided_stringBody {body : List Char} (h : IsBody body) :
    Decided stringBody (body ++ ['"']) := by
  refine ⟨spelled? body, fun rest _ => ?_⟩
  rw [List.append_assoc]
  exact outcome_stringBody h rest

theorem decided_arrayOf {reader : Reader Json} {gap : List Char} {items : List Item}
    (hgap : AreBlank gap) (hvalue : ∀ item ∈ items, IsValue item.value)
    (h : ∀ item ∈ items, Settled reader item.value) :
    Decided (arrayOf reader) ('[' :: listed gap (items.map Item.text) ']') := by
  have harray (rest : List Char) :
      outcome (Reader.items reader >>= fun read => closeArray (.ok (Json.array read)))
          (listed gap (items.map Item.text) ']' ++ rest) =
        ((items.mapM fun item => taken reader item.value).map Json.array).map
          fun document => (document, rest) := by
    rw [outcome_bind, outcome_items hvalue h hgap]
    cases items.mapM fun item => taken reader item.value <;> rfl
  exact Decided.skip ⟨_, fun rest _ => harray rest⟩ '['

theorem decided_objectOf {reader : Reader Json} {gap : List Char} {entries : List Entry}
    (hgap : AreBlank gap) (h : ∀ entry ∈ entries, Settled reader entry.value) :
    Decided (objectOf reader) ('\x7b' :: listed gap (entries.map Entry.text) '\x7d') := by
  have hmoves : ∀ entry ∈ entries, Moves (objectOf.member reader) _ entry := fun entry hentry =>
    moves_of_settled (fun state key => rfl) (h entry hentry)
  exact Decided.skip ⟨_, fun rest _ => outcome_object (fun read => read.map Json.object)
    (fun fault => ⟨fault, rfl⟩) hmoves hgap [] rest⟩ '\x7b'

/--
A document is read from the text of a value, or it is not, whatever follows.
-/
theorem settled_value {cs : List Char} (h : IsValue cs) (depth : Nat) :
    Settled (value depth) cs := by
  induction h generalizing depth with
  | nullWord | trueWord | falseWord =>
    exact settled_value_of_scalar rfl (by decide) (by decide) depth
      (((decided_literal _).map _).skip _)
  | @positive cs h =>
    obtain ⟨c, tail, heq, hc⟩ := h.exists_eq_cons
    have hnumeral : isNumeral c := by simp [isNumeral, hc]
    have hnumber := (decided_number h false).map Json.number
    rw [heq] at hnumber ⊢
    refine settled_value_of_scalar (isBlank_of_isNumeral hnumeral) (ne_of_isNumeral hnumeral rfl)
      (ne_of_isNumeral hnumeral rfl) depth ?_
    rw [scalar_of_isDigit hc]
    exact hnumber
  | @negative cs h =>
    exact settled_value_of_scalar rfl (by decide) (by decide) depth
      (((decided_number h true).map Json.number).skip '-')
  | @string cs h =>
    exact settled_value_of_scalar rfl (by decide) (by decide) depth
      (((decided_stringBody h).map Json.string).skip '"')
  -- Arrays and objects are refused as soon as no more of them may be open.
  | @array gap items hgap hvalue ih =>
    cases depth with
    | zero => exact settled_next rfl (decided_of_failure (fun _ => rfl) _)
    | succ depth =>
      exact settled_next rfl (decided_arrayOf hgap hvalue fun item hitem => ih item hitem depth)
  | @object gap entries hgap hvalue ih =>
    cases depth with
    | zero => exact settled_next rfl (decided_of_failure (fun _ => rfl) _)
    | succ depth =>
      exact settled_next rfl (decided_objectOf hgap fun entry hentry => ih entry hentry depth)

theorem settled_text {cs : List Char} (h : IsValue cs) : Settled text cs := by
  have hwrong : Decided (wrongType "a string" : Reader String) cs :=
    decided_of_failure (outcome_wrongType _) cs
  rcases h.kind_cases with rfl | ⟨body, hbody, rfl⟩ | ⟨gap, entries, _, _, rfl⟩ |
    ⟨c, tail, rfl, hblank, hc⟩
  · exact settled_next rfl hwrong
  · exact settled_next rfl ((decided_stringBody hbody).skip '"')
  · exact settled_next rfl hwrong
  · refine settled_next hblank ?_
    split
    · contradiction
    · simp_all
    · exact hwrong

theorem settled_map {reader : Nat → Reader α} {cs : List Char} (h : IsValue cs)
    (hreader : ∀ depth value, IsValue value → Settled (reader depth) value) (depth : Nat) :
    Settled (map reader depth) cs := by
  have hwrong : Decided (wrongType "a map" : Reader (Fields α)) cs :=
    decided_of_failure (outcome_wrongType _) cs
  rcases h.kind_cases with rfl | ⟨body, _, rfl⟩ | ⟨gap, entries, hgap, hvalue, rfl⟩ |
    ⟨c, tail, rfl, hblank, hc⟩
  · exact settled_next rfl hwrong
  · exact settled_next rfl hwrong
  · cases depth with
    | zero => exact settled_next rfl (decided_of_failure (fun _ => rfl) _)
    | succ depth =>
      have hmoves : ∀ entry ∈ entries, Moves (map.member reader depth) _ entry :=
        fun entry hentry =>
          moves_of_settled (fun state key => rfl) (hreader depth _ (hvalue entry hentry))
      exact settled_next rfl (Decided.skip ⟨_, fun rest _ => outcome_object (fun read => read)
        (fun fault => ⟨fault, rfl⟩) hmoves hgap .empty rest⟩ '\x7b')
  · refine settled_next hblank ?_
    split
    · contradiction
    · simp_all
    · exact hwrong

theorem settled_optional {reader : Reader α} {cs : List Char} (h : IsValue cs)
    (hreader : Settled reader cs) : Settled (optional reader) cs := by
  have hsome : Decided (do return some (← reader)) cs := hreader.decided.map some
  rcases h.kind_cases with rfl | ⟨body, _, rfl⟩ | ⟨gap, entries, _, _, rfl⟩ |
    ⟨c, tail, rfl, hblank, hc⟩
  · exact settled_next rfl (((decided_literal _).map fun _ => none).skip 'n')
  · exact settled_next rfl hsome
  · exact settled_next rfl hsome
  · refine settled_next hblank ?_
    split
    · simp_all
    · exact hsome

end Reader

end NetScript.Json
