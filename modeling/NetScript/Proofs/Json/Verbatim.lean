import Mathlib.Data.List.Induction
import Mathlib.Tactic.SplitIfs
import NetScript.Json.Verbatim

/-!
This module contains what the two readers of documents have to do with each other. The main
statement is that a document is read as what it stands for, with the same failures: the reader that
keeps only one member of each key loses nothing else.
-/

namespace NetScript.Json

variable {α β σ τ : Type}

theorem tidyItems_eq_map (items : List Json) : tidyItems items = items.map tidy := by
  induction items with
  | nil => rfl
  | cons item items ih => rw [tidyItems, ih, List.map_cons]

theorem tidyMembers_append (sorted members more : List (String × Json)) :
    tidyMembers sorted (members ++ more) = tidyMembers (tidyMembers sorted members) more := by
  induction members generalizing sorted with
  | nil => rfl
  | cons member members ih => exact ih _

theorem tidyMembers_concat (sorted members : List (String × Json)) (key : String) (value : Json) :
    tidyMembers sorted (members ++ [(key, value)]) =
      Fields.insertEntry key value.tidy (tidyMembers sorted members) := by
  rw [tidyMembers_append]
  rfl

/--
The later members of a key hide the earlier ones.
-/
theorem lookup_tidyMembers (sorted members : List (String × Json)) (key : String) :
    (tidyMembers sorted members).lookup key =
      ((members.reverse.lookup key).map tidy <|> sorted.lookup key) := by
  induction members using List.reverseRecOn with
  | nil => rfl
  | append_singleton members member ih =>
    obtain ⟨last, value⟩ := member
    rw [tidyMembers_concat, List.reverse_concat, List.lookup_cons]
    by_cases h : key = last
    · subst h
      rw [Fields.lookup_insertEntry_self]
      simp
    · rw [Fields.lookup_insertEntry_of_ne _ _ h, ih, beq_eq_false_iff_ne.mpr h]

namespace Reader

theorem map_fail (f : α → β) (fault : Fault) : f <$> (fail fault : Reader α) = fail fault := rfl

theorem map_failAfter (f : α → β) (fault : Fault) :
    f <$> (failAfter fault : Reader α) = failAfter fault := rfl

theorem run_map (f : α → β) (reader : Reader α) (cs : List Char) :
    (f <$> reader).run cs = (reader.run cs).map fun found => (f found.1, found.2) := rfl

theorem parseWith_map (f : α → β) (reader : Reader α) (text : String) :
    parseWith (f <$> reader) text = (parseWith reader text).map f := by
  have hdocument : document (f <$> reader) = f <$> document reader := by simp [document]
  rw [parseWith, parseWith, hdocument, run_map]
  cases (document reader).run text.toList <;> rfl

theorem items.go_map (f : α → β) (item : Reader α) (fuel : Nat) (first : Bool) (read : List α) :
    go (f <$> item) fuel first (read.map f) = List.map f <$> go item fuel first read := by
  induction fuel generalizing first read with
  | zero => rfl
  | succ fuel ih =>
    rw [go, go, map_bind]
    congr 1
    funext more
    cases more with
    | false => simp
    | true =>
      simp only [↓reduceIte, bind_map_left, map_bind]
      congr 1
      funext value
      exact ih false (value :: read)

theorem items_map (f : α → β) (item : Reader α) :
    items (f <$> item) = List.map f <$> items item := by
  rw [items, items, map_bind]
  congr 1
  funext cs
  exact items.go_map f item cs.length true []

theorem members.go_map {step : σ → String → Reader (Except Fault σ)}
    {step' : τ → String → Reader (Except Fault τ)} {f : σ → τ}
    (h : ∀ state key, step' (f state) key = Except.map f <$> step state key) (fuel : Nat)
    (first : Bool) (state : σ) :
    go step' fuel first (f state) = Except.map f <$> go step fuel first state := by
  induction fuel generalizing first state with
  | zero => rfl
  | succ fuel ih =>
    rw [go, go, map_bind]
    congr 1
    funext more
    cases more with
    | false => rfl
    | true =>
      simp only [↓reduceIte, map_bind, h, bind_map_left]
      congr 1
      funext key
      congr 1
      funext next
      cases next with
      | error fault => rfl
      | ok next => exact ih false next

theorem members_map {step : σ → String → Reader (Except Fault σ)}
    {step' : τ → String → Reader (Except Fault τ)} {f : σ → τ}
    (h : ∀ state key, step' (f state) key = Except.map f <$> step state key) (initial : σ) :
    members step' (f initial) = Except.map f <$> members step initial := by
  rw [members, members, map_bind]
  congr 1
  funext cs
  exact members.go_map h cs.length true initial

theorem map_closeArray (f : α → β) (a : α) :
    f <$> closeArray (.ok a) = closeArray (.ok (f a)) := by
  simp [closeArray]

theorem map_closeObject (f : α → β) (outcome : Except Fault α) :
    f <$> closeObject outcome = closeObject (outcome.map f) := by
  cases outcome <;> simp [closeObject, Except.map, map_fail]

theorem map_scalar_tidy (c : Char) : tidy <$> scalar c = scalar c := by
  unfold scalar
  split_ifs <;> simp [tidy, map_failAfter]

theorem valueWith_map_tidy (array object : Reader Json) :
    valueWith (tidy <$> array) (tidy <$> object) = tidy <$> valueWith array object := by
  rw [valueWith, valueWith, map_bind]
  congr 1
  funext c
  split
  · rfl
  · rfl
  · rfl
  · exact (map_scalar_tidy _).symm

theorem arrayOf_map_tidy (item : Reader Json) :
    arrayOf (tidy <$> item) = tidy <$> arrayOf item := by
  simp only [arrayOf, items_map, map_bind, bind_map_left, map_closeArray, tidy, tidyItems_eq_map]

theorem objectOf_map_tidy (value : Reader Json) :
    objectOf (tidy <$> value) = tidy <$> verbatimObjectOf value := by
  -- The members read so far have the last one in front, and it is the one that is kept.
  have hmember (read : List (String × Json)) (key : String) :
      objectOf.member (tidy <$> value) (tidyMembers [] read.reverse) key =
        Except.map (fun read => tidyMembers [] read.reverse) <$>
          verbatimObjectOf.member value read key := by
    simp [objectOf.member, verbatimObjectOf.member, tidyMembers_concat, Except.map]
  have hmembers := members_map hmember []
  rw [objectOf, verbatimObjectOf, map_bind]
  congr 1
  funext _
  rw [map_bind, show members (objectOf.member (tidy <$> value)) [] = _ from hmembers,
    bind_map_left]
  congr 1
  funext read
  rw [map_closeObject]
  cases read <;> rfl

theorem value_eq_map_verbatim (depth : Nat) : value depth = tidy <$> verbatim depth := by
  induction depth with
  | zero => rw [value, verbatim, ← valueWith_map_tidy, map_failAfter]
  | succ depth ih =>
    rw [value, verbatim, ih, arrayOf_map_tidy, objectOf_map_tidy, valueWith_map_tidy]

end Reader

end NetScript.Json
