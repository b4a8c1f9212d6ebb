import Mathlib.Data.List.Basic
import NetScript.Json.Record
import NetScript.Proofs.Json.Grammar
import NetScript.Proofs.Json.Numbers

/-!
This module contains what comes of a reader if it does not matter why it fails. On a text of the
grammar this is settled by the text alone, whatever follows it. Arrays and objects are taken item by
item and member by member, so what comes of them is a fold.
-/

namespace NetScript.Json

open Grammar

namespace Reader

variable {α β σ : Type}

/--
What a reader returns and what it leaves, if it does not fail.
-/
def outcome (reader : Reader α) (cs : List Char) : Option (α × List Char) :=
  (reader.run cs).toOption

theorem outcome_eq_some_iff {reader : Reader α} {cs rest : List Char} {a : α} :
    outcome reader cs = some (a, rest) ↔ reader.run cs = .ok (a, rest) := by
  rw [outcome]
  cases reader.run cs <;> simp [Except.toOption]

theorem outcome_eq_none_iff {reader : Reader α} {cs : List Char} :
    outcome reader cs = none ↔ ∃ failure, reader.run cs = .error failure := by
  rw [outcome]
  cases reader.run cs <;> simp [Except.toOption]

theorem outcome_bind (reader : Reader α) (next : α → Reader β) (cs : List Char) :
    outcome (reader >>= next) cs =
      (outcome reader cs).bind fun found => outcome (next found.1) found.2 := by
  rw [outcome, StateT.run_bind, outcome]
  cases reader.run cs <;> rfl

theorem outcome_bind_of_ok {reader : Reader α} {next : α → Reader β} {cs rest : List Char} {a : α}
    (h : reader.run cs = .ok (a, rest)) :
    outcome (reader >>= next) cs = outcome (next a) rest := by
  rw [outcome, run_bind_of_ok h, outcome]

@[simp]
theorem outcome_pure (a : α) (cs : List Char) : outcome (pure a) cs = some (a, cs) := rfl

@[simp]
theorem outcome_fail (fault : Fault) (cs : List Char) :
    outcome (fail fault : Reader α) cs = none := rfl

@[simp]
theorem outcome_failAfter (fault : Fault) (cs : List Char) :
    outcome (failAfter fault : Reader α) cs = none := rfl

theorem dropWhile_isBlank_append {lead : List Char} (h : AreBlank lead) (cs : List Char) :
    (lead ++ cs).dropWhile isBlank = cs.dropWhile isBlank :=
  List.dropWhile_append_of_pos h

theorem areBlank_nil : AreBlank [] := by
  simp [AreBlank]

theorem run_next_append {lead : List Char} (h : AreBlank lead) (next : Option Char → Reader α)
    (cs : List Char) : (next? >>= next).run (lead ++ cs) = (next? >>= next).run cs := by
  rw [run_bind_of_ok (run_next? _), run_bind_of_ok (run_next? cs), dropWhile_isBlank_append h]

theorem run_next_of_cons {lead : List Char} (h : AreBlank lead) {c : Char}
    (hc : isBlank c = false) (next : Option Char → Reader α) (cs : List Char) :
    (next? >>= next).run (lead ++ c :: cs) = (next (some c)).run (c :: cs) := by
  rw [run_next_append h, run_bind_of_ok (run_next?_cons hc)]

theorem outcome_wrongType (expected : String) (cs : List Char) :
    outcome (wrongType expected : Reader α) cs = none := by
  rw [wrongType, outcome_bind_of_ok (run_next? cs)]
  split
  · rfl
  · rfl
  · rfl
  · rw [outcome_bind, Option.bind_eq_none_iff]
    rintro ⟨document, rest⟩ _
    cases document <;> rfl

/--
Whatever follows the text `cs`, the reader takes just this text and returns the same, or it fails.
-/
def Decided (reader : Reader α) (cs : List Char) : Prop :=
  ∃ result : Option α, ∀ rest, Ends rest →
    outcome reader (cs ++ rest) = result.map fun a => (a, rest)

theorem decided_of_failure {reader : Reader α} (h : ∀ cs, outcome reader cs = none)
    (cs : List Char) : Decided reader cs :=
  ⟨none, fun _ _ => h _⟩

theorem decided_bind {reader : Reader α} {next : α → Reader β} {cs more : List Char} {a : α}
    (h : ∀ rest, Ends rest → reader.run (cs ++ (more ++ rest)) = .ok (a, more ++ rest))
    (hnext : Decided (next a) more) : Decided (reader >>= next) (cs ++ more) := by
  obtain ⟨result, hresult⟩ := hnext
  refine ⟨result, fun rest hrest => ?_⟩
  rw [List.append_assoc, outcome_bind_of_ok (h rest hrest), hresult rest hrest]

theorem Decided.map {reader : Reader α} {cs : List Char} (h : Decided reader cs) (f : α → β) :
    Decided (do return f (← reader)) cs := by
  obtain ⟨result, hresult⟩ := h
  refine ⟨result.map f, fun rest hrest => ?_⟩
  rw [outcome_bind, hresult rest hrest]
  cases result <;> rfl

def taken (reader : Reader α) (cs : List Char) : Option α :=
  (outcome reader cs).map Prod.fst

/--
The text is taken as if it stood alone, whatever follows it and with any blanks in front.
-/
def Settled (reader : Reader α) (cs : List Char) : Prop :=
  ∀ lead rest, AreBlank lead → Ends rest →
    outcome reader (lead ++ (cs ++ rest)) = (taken reader cs).map fun a => (a, rest)

theorem settled_next {next : Option Char → Reader α} {c : Char} {cs : List Char}
    (hc : isBlank c = false) (h : Decided (next (some c)) (c :: cs)) :
    Settled (next? >>= next) (c :: cs) := by
  obtain ⟨result, hresult⟩ := h
  have houtcome (lead rest : List Char) (hlead : AreBlank lead) (hrest : Ends rest) :
      outcome (next? >>= next) (lead ++ (c :: cs ++ rest)) = result.map fun a => (a, rest) := by
    rw [outcome, List.cons_append, run_next_of_cons hlead hc, ← outcome]
    exact hresult rest hrest
  -- The end of the text is one of the places at which a value may end.
  have htaken : taken (next? >>= next) (c :: cs) = result := by
    have halone := houtcome [] [] areBlank_nil ends_nil
    rw [List.nil_append, List.append_nil] at halone
    rw [taken, halone]
    cases result <;> rfl
  intro lead rest hlead hrest
  rw [htaken, houtcome lead rest hlead hrest]

theorem Settled.decided {reader : Reader α} {cs : List Char} (h : Settled reader cs) :
    Decided reader cs :=
  ⟨taken reader cs, fun rest hrest => h [] rest areBlank_nil hrest⟩

theorem outcome_map (f : α → β) (reader : Reader α) (cs : List Char) :
    outcome (f <$> reader) cs = (outcome reader cs).map fun found => (f found.1, found.2) := by
  rw [map_eq_pure_bind, outcome_bind]
  cases outcome reader cs <;> rfl

theorem taken_map (f : α → β) (reader : Reader α) (cs : List Char) :
    taken (f <$> reader) cs = (taken reader cs).map f := by
  rw [taken, taken, outcome_map, Option.map_map, Option.map_map]
  rfl

theorem Settled.map {reader : Reader α} {cs : List Char} (h : Settled reader cs) (f : α → β) :
    Settled (f <$> reader) cs := by
  intro lead rest hlead hrest
  rw [outcome_map, h lead rest hlead hrest, taken_map, Option.map_map, Option.map_map]
  rfl

end Reader

open Reader

namespace Grammar

theorem ends_append {behind rest : List Char} (h : AreBlank behind) (hrest : Ends rest) :
    Ends (behind ++ rest) := by
  cases behind with
  | nil => exact hrest
  | cons c behind =>
    have hc := h c List.mem_cons_self
    refine ends_cons _ ?_
    simp only [isBlank, Bool.or_eq_true, decide_eq_true_eq] at hc
    rcases hc with ((rfl | rfl) | rfl) | rfl <;> decide

theorem Spells.isBody {cs s : List Char} (h : Spells cs s) : IsBody cs := by
  induction h with
  | nil => exact .nil
  | plain hquote hbackslash hcontrol _ ih => exact .plain hquote hbackslash hcontrol ih
  | escape hc _ ih =>
    cases hc with
    | simple h => exact .simple (by rw [h]; rfl) ih
    | numbered hn => exact .numbered (by rw [hn]; rfl) ih
    | pair hn _ hm => exact .numbered (by rw [hn]; rfl) (.numbered (by rw [hm]; rfl) ih)

theorem spells_self {cs : List Char}
    (h : cs.all fun c => c ≠ '"' && c ≠ '\\' && 0x20 ≤ c.toNat) : Spells cs cs := by
  induction cs with
  | nil => exact .nil
  | cons c cs ih =>
    simp only [List.all_cons, Bool.and_eq_true, decide_eq_true_eq] at h
    obtain ⟨⟨⟨hquote, hbackslash⟩, hcontrol⟩, hcs⟩ := h
    exact .plain hquote hbackslash (Nat.not_lt.mpr hcontrol) (ih hcs)

theorem IsMagnitude.exists_eq_cons {cs : List Char} (h : IsMagnitude cs) :
    ∃ c rest, cs = c :: rest ∧ isDigit c := by
  obtain ⟨hwhole, _, _⟩ := h
  cases hwhole with
  | zero => exact ⟨_, _, rfl, rfl⟩
  | digits _ hdigits => exact ⟨_, _, rfl, hdigits.2 _ List.mem_cons_self⟩

theorem IsValue.exists_eq_cons {cs : List Char} (h : IsValue cs) :
    ∃ c rest, cs = c :: rest ∧ isBlank c = false ∧ c ≠ ']' ∧ c ≠ '\x7d' := by
  cases h with
  | positive h =>
    obtain ⟨c, rest, heq, hc⟩ := h.exists_eq_cons
    have hnumeral : isNumeral c := by simp [isNumeral, hc]
    exact ⟨c, rest, heq, isBlank_of_isNumeral hnumeral, ne_of_isNumeral hnumeral rfl,
      ne_of_isNumeral hnumeral rfl⟩
  | _ => exact ⟨_, _, rfl, by decide, by decide, by decide⟩

theorem IsValue.kind_cases {cs : List Char} (h : IsValue cs) :
    cs = ['n', 'u', 'l', 'l'] ∨ (∃ body, IsBody body ∧ cs = '"' :: (body ++ ['"'])) ∨
      (∃ gap, ∃ entries : List Entry, AreBlank gap ∧ (∀ entry ∈ entries, IsValue entry.value) ∧
        cs = '\x7b' :: listed gap (entries.map Entry.text) '\x7d') ∨
      ∃ c tail, cs = c :: tail ∧ isBlank c = false ∧ c ∉ ['n', '"', '\x7b'] := by
  have hother (c : Char) (tail : List Char) (hblank : isBlank c = false)
      (hc : c ∉ ['n', '"', '\x7b']) : ∃ d rest, c :: tail = d :: rest ∧ isBlank d = false ∧
        d ∉ ['n', '"', '\x7b'] :=
    ⟨c, tail, rfl, hblank, hc⟩
  cases h with
  | nullWord => exact .inl rfl
  | string h => exact .inr (.inl ⟨_, h, rfl⟩)
  | object hgap h => exact .inr (.inr (.inl ⟨_, _, hgap, h, rfl⟩))
  | positive h =>
    obtain ⟨c, tail, rfl, hc⟩ := h.exists_eq_cons
    have hnumeral : isNumeral c := by simp [isNumeral, hc]
    have hne : c ∉ ['n', '"', '\x7b'] := by
      intro hmem
      simp only [List.mem_cons, List.not_mem_nil, or_false] at hmem
      rcases hmem with rfl | rfl | rfl <;> cases hc
    exact .inr (.inr (.inr (hother c tail (isBlank_of_isNumeral hnumeral) hne)))
  | trueWord | falseWord | negative | array =>
    exact .inr (.inr (.inr (hother _ _ rfl (by decide))))

theorem IsValue.length_pos {cs : List Char} (h : IsValue cs) : 0 < cs.length := by
  obtain ⟨c, rest, rfl, _⟩ := h.exists_eq_cons
  simp

def continued (texts : List (List Char)) : List Char :=
  texts.flatMap (',' :: ·)

theorem continued_cons (text : List Char) (texts : List (List Char)) :
    continued (text :: texts) = ',' :: (text ++ continued texts) := rfl

theorem intercalate_cons (text : List Char) (texts : List (List Char)) :
    [','].intercalate (text :: texts) = text ++ continued texts := by
  induction texts generalizing text with
  | nil => simp [continued]
  | cons next texts ih =>
    rw [List.intercalate_cons_cons, ih, continued_cons, List.append_assoc]
    rfl

theorem listed_nil_append (gap : List Char) (closer : Char) (rest : List Char) :
    listed gap [] closer ++ rest = gap ++ closer :: rest := by
  rw [listed, List.append_assoc]
  rfl

theorem listed_cons_append (gap text : List Char) (texts : List (List Char)) (closer : Char)
    (rest : List Char) :
    listed gap (text :: texts) closer ++ rest =
      gap ++ (text ++ (continued texts ++ closer :: rest)) := by
  rw [listed, intercalate_cons, List.append_assoc, List.append_assoc, List.append_assoc,
    List.singleton_append]

theorem ends_continued (texts : List (List Char)) {closer : Char} (h : closer ∈ terminators)
    (rest : List Char) : Ends (continued texts ++ closer :: rest) := by
  cases texts with
  | nil => exact ends_cons _ h
  | cons text texts => exact ends_cons _ (by decide)

theorem length_le_continued (texts : List (List Char)) :
    texts.length ≤ (continued texts).length := by
  induction texts with
  | nil => exact Nat.le_refl 0
  | cons text texts ih =>
    rw [continued_cons, List.length_cons, List.length_cons, List.length_append]
    omega

theorem exists_length_listed (gap : List Char) {text : List Char} (h : 0 < text.length)
    (texts : List (List Char)) (closer : Char) (rest : List Char) :
    ∃ fuel, (listed gap (text :: texts) closer ++ rest).length = texts.length + 1 + fuel + 1 := by
  have hlength := length_le_continued texts
  apply Nat.exists_eq_add_of_lt
  rw [listed_cons_append]
  simp only [List.length_append, List.length_cons]
  omega

end Grammar

end NetScript.Json
