import NetScript.Json.Record
import NetScript.Proofs.Json.Numbers

/-!
This module contains the arrays, objects and records that are read back from their text, given that
their items and members are.
-/

namespace NetScript.Json

open Reader

theorem exists_render_eq_cons (json : Json) :
    ∃ c cs, json.render = c :: cs ∧ isBlank c = false ∧ c ≠ ']' := by
  have hnumber {text : List Char} (hne : text ≠ []) (h : ∀ c ∈ text, isNumeral c) :
      ∃ c cs, text = c :: cs ∧ isBlank c = false ∧ c ≠ ']' := by
    obtain ⟨c, cs, rfl⟩ := List.exists_cons_of_ne_nil hne
    have hc := h c List.mem_cons_self
    exact ⟨c, cs, rfl, isBlank_of_isNumeral hc, ne_of_isNumeral hc rfl⟩
  cases json with
  | null => exact ⟨_, _, rfl, rfl, by decide⟩
  | bool b => cases b <;> exact ⟨_, _, rfl, rfl, by decide⟩
  | number n =>
    cases n with
    | int i =>
      cases i with
      | ofNat n =>
        refine hnumber Nat.toDigits_ne_nil fun c hc => ?_
        simp [isNumeral, isDigit_of_mem_toDigits hc]
      | negSucc n => exact ⟨_, _, rfl, rfl, by decide⟩
    | float x =>
      rcases Number.render_float_cases x with hnull | ⟨hne, hnumeral⟩
      · exact ⟨_, _, hnull, rfl, by decide⟩
      · exact hnumber hne hnumeral
  | string s => exact ⟨_, _, rfl, rfl, by decide⟩
  | array items => cases items <;> exact ⟨_, _, rfl, rfl, by decide⟩
  | object members => cases members <;> exact ⟨_, _, rfl, rfl, by decide⟩

namespace Reader

variable {α σ : Type}

theorem run_hasItem_first (json : Json) (rest : List Char) :
    (hasItem true).run (json.render ++ rest) = .ok (true, json.render ++ rest) := by
  obtain ⟨c, cs, heq, hblank, hc⟩ := exists_render_eq_cons json
  rw [heq, List.cons_append, hasItem, run_bind_of_ok (run_next?_cons hblank)]
  split
  · contradiction
  · simp_all
  · rfl

theorem run_hasItem_comma (json : Json) (rest : List Char) :
    (hasItem false).run (',' :: (json.render ++ rest)) = .ok (true, json.render ++ rest) := by
  obtain ⟨c, cs, heq, hblank, hc⟩ := exists_render_eq_cons json
  rw [heq, List.cons_append, hasItem, run_bind_of_ok (run_next?_cons rfl)]
  show (skip >>= fun _ => next? >>= _ : Reader Bool).run _ = _
  rw [run_bind_of_ok (run_skip _ _), run_bind_of_ok (run_next?_cons hblank)]
  split
  · contradiction
  · simp_all
  · rfl

theorem ends_renderItems (jsons : List Json) (rest : List Char) :
    Ends (renderItems jsons ++ rest) := by
  cases jsons <;> exact ends_cons _ (by decide)

theorem length_lt_renderItems (jsons : List Json) : jsons.length < (renderItems jsons).length := by
  induction jsons with
  | nil => simp [renderItems]
  | cons json jsons ih =>
    rw [renderItems, List.length_cons, List.length_cons, List.length_append]
    omega

theorem items.run_go_item {item : Reader α} {first : Bool} {cs mid rest : List Char} {x : α}
    (hmore : (hasItem first).run cs = .ok (true, mid)) (hitem : item.run mid = .ok (x, rest))
    (fuel : Nat) (read : List α) :
    (go item (fuel + 1) first read).run cs = (go item fuel false (x :: read)).run rest := by
  rw [go, run_bind_of_ok hmore, if_pos rfl, run_bind_of_ok hitem]

theorem items.run_go {item : Reader α} {toJson : α → Json} {xs : List α}
    (h : ∀ x ∈ xs, Reads item (toJson x).render x) {fuel : Nat} (hfuel : xs.length < fuel)
    (read : List α) (rest : List Char) :
    (go item fuel false read).run (renderItems (xs.map toJson) ++ rest) =
      .ok (read.reverse ++ xs, ']' :: rest) := by
  induction xs generalizing fuel read with
  | nil =>
    obtain ⟨fuel, rfl⟩ := Nat.exists_eq_add_of_lt hfuel
    rw [List.map_nil, renderItems, List.append_nil]
    rfl
  | cons x xs ih =>
    obtain ⟨fuel, rfl⟩ := Nat.exists_eq_add_of_lt hfuel
    have hitem := h x List.mem_cons_self (renderItems (xs.map toJson) ++ rest)
      (ends_renderItems _ _)
    rw [List.map_cons, renderItems, List.cons_append, List.append_assoc,
      run_go_item (run_hasItem_comma _ _) hitem,
      ih (fun y hy => h y (List.mem_cons_of_mem x hy)) (by simp; omega)]
    simp

theorem render_array (jsons : List Json) :
    (Json.array jsons).render = '[' :: (Json.array jsons).render.tail := by
  cases jsons <;> rfl

theorem run_items {item : Reader α} {toJson : α → Json} {xs : List α}
    (h : ∀ x ∈ xs, Reads item (toJson x).render x) (rest : List Char) :
    (items item).run ((Json.array (xs.map toJson)).render.tail ++ rest) =
      .ok (xs, ']' :: rest) := by
  rw [items, run_bind_of_ok rfl]
  cases xs with
  | nil => rfl
  | cons x xs =>
    obtain ⟨c, cs, heq, _, _⟩ := exists_render_eq_cons (toJson x)
    have hitem := h x List.mem_cons_self (renderItems (xs.map toJson) ++ rest)
      (ends_renderItems _ _)
    have hlength := length_lt_renderItems (xs.map toJson)
    rw [List.map_cons, render, List.tail_cons, List.append_assoc]
    -- The fuel is the length of the text, which is more than the number of items.
    obtain ⟨fuel, hfuel⟩ : ∃ fuel,
        ((toJson x).render ++ (renderItems (xs.map toJson) ++ rest)).length = fuel + 1 :=
      ⟨_, by rw [heq]; rfl⟩
    rw [hfuel, items.run_go_item (run_hasItem_first _ _) hitem, items.run_go]
    · rfl
    · intro y hy
      exact h y (List.mem_cons_of_mem x hy)
    · simp only [heq, List.length_append, List.length_cons, List.length_map] at hfuel hlength
      omega

theorem run_closeArray (a : α) (rest : List Char) :
    (closeArray (.ok a)).run (']' :: rest) = .ok (a, rest) := rfl

theorem reads_array {depth : Nat} {jsons : List Json}
    (h : ∀ json ∈ jsons, Reads (value depth) json.render json) :
    Reads (value (depth + 1)) (Json.array jsons).render (.array jsons) := by
  intro rest _
  have hitems := @run_items _ (value depth) id jsons h rest
  rw [List.map_id] at hitems
  rw [render_array, List.cons_append, value, valueWith, run_bind_of_ok (run_next?_cons rfl)]
  show (skip >>= fun _ => items (value depth) >>= _).run _ = _
  rw [run_bind_of_ok (run_skip _ _), run_bind_of_ok hitems, run_closeArray]

theorem reads_sequence {item : Nat → Reader α} {toJson : α → Json} {depth : Nat} {xs : List α}
    (h : ∀ x ∈ xs, Reads (item depth) (toJson x).render x) :
    Reads (sequence item (depth + 1)) (Json.array (xs.map toJson)).render xs := by
  intro rest _
  rw [render_array, List.cons_append, sequence, run_bind_of_ok (run_next?_cons rfl)]
  show (skip >>= fun _ => items (item depth) >>= _).run _ = _
  rw [run_bind_of_ok (run_skip _ _), run_bind_of_ok (run_items h rest), run_closeArray]

/--
The steps behind the keys of the given members lead from one state to the other.
-/
inductive Fills (step : σ → String → Reader (Except Fault σ)) :
    σ → List (String × Json) → σ → Prop where
  | nil (state : σ) : Fills step state [] state
  | cons {first next last : σ} {key : String} {value : Json} {members : List (String × Json)}
      (h : Reads (step first key) (':' :: value.render) (.ok next))
      (hrest : Fills step next members last) : Fills step first ((key, value) :: members) last

theorem run_hasMember_first (cs : List Char) :
    (hasMember true).run ('"' :: cs) = .ok (true, cs) := rfl

theorem run_hasMember_comma (cs : List Char) :
    (hasMember false).run (',' :: '"' :: cs) = .ok (true, cs) := rfl

theorem ends_renderMembers (members : List (String × Json)) (rest : List Char) :
    Ends (renderMembers members ++ rest) := by
  cases members <;> exact ends_cons _ (by decide)

theorem length_lt_renderMembers (members : List (String × Json)) :
    members.length < (renderMembers members).length := by
  induction members with
  | nil => simp [renderMembers]
  | cons member members ih =>
    rw [renderMembers, List.length_cons, List.length_cons, List.length_append, List.length_cons,
      List.length_append]
    omega

theorem members.run_go_member {step : σ → String → Reader (Except Fault σ)} {state next : σ}
    {first : Bool} {cs rest : List Char} {key : String} {value : Json}
    (hmore : (hasMember first).run cs =
      .ok (true, key.toList.flatMap Json.escape ++ '"' :: ':' :: (value.render ++ rest)))
    (hstep : Reads (step state key) (':' :: value.render) (.ok next)) (hrest : Ends rest)
    (fuel : Nat) :
    (go step (fuel + 1) first state).run cs = (go step fuel false next).run rest := by
  rw [go, run_bind_of_ok hmore, if_pos rfl, run_bind_of_ok (run_stringBody key _)]
  rw [← List.cons_append, run_bind_of_ok (hstep rest hrest)]

theorem members.run_go {step : σ → String → Reader (Except Fault σ)} {first last : σ}
    {members : List (String × Json)} (h : Fills step first members last) {fuel : Nat}
    (hfuel : members.length < fuel) (rest : List Char) :
    (go step fuel false first).run (renderMembers members ++ rest) =
      .ok (.ok last, '\x7d' :: rest) := by
  induction h generalizing fuel with
  | nil state =>
    obtain ⟨fuel, rfl⟩ := Nat.exists_eq_add_of_lt hfuel
    rfl
  | @cons first next last key value members hstep hfills ih =>
    obtain ⟨fuel, rfl⟩ := Nat.exists_eq_add_of_lt hfuel
    have hmore := run_hasMember_comma (key.toList.flatMap Json.escape ++
      '"' :: ':' :: (value.render ++ (renderMembers members ++ rest)))
    rw [renderMembers, List.cons_append, List.append_assoc, quoted_append, List.cons_append,
      List.append_assoc, run_go_member hmore hstep (ends_renderMembers _ _)]
    exact ih (by simp; omega)

theorem render_object (members : List (String × Json)) :
    (Json.object members).render = '\x7b' :: (Json.object members).render.tail := by
  cases members <;> rfl

theorem run_members {step : σ → String → Reader (Except Fault σ)} {first last : σ}
    {fields : List (String × Json)} (h : Fills step first fields last) (rest : List Char) :
    (members step first).run ((Json.object fields).render.tail ++ rest) =
      .ok (.ok last, '\x7d' :: rest) := by
  rw [members, run_bind_of_ok rfl]
  cases h with
  | nil => rfl
  | @cons _ next _ key value fields hstep hfills =>
    have hlength := length_lt_renderMembers fields
    have hmore := run_hasMember_first (key.toList.flatMap Json.escape ++
      '"' :: ':' :: (value.render ++ (renderMembers fields ++ rest)))
    rw [render, List.tail_cons, List.append_assoc, quoted_append, List.cons_append,
      List.append_assoc, List.length_cons,
      members.run_go_member hmore hstep (ends_renderMembers _ _)]
    apply members.run_go hfills
    simp only [List.length_append, List.length_cons]
    omega

theorem run_closeObject (a : α) (rest : List Char) :
    (closeObject (.ok a)).run ('\x7d' :: rest) = .ok (a, rest) := rfl

theorem Reads.colon {reader : Reader α} {cs : List Char} {a : α} (h : Reads reader cs a) :
    Reads (do colon; reader) (':' :: cs) a := by
  intro rest hrest
  rw [List.cons_append, run_bind_of_ok (a := ()) rfl]
  exact h rest hrest

theorem fills_foldl {step : σ → String → Reader (Except Fault σ)} {reader : Reader α}
    {add : σ → String → α → σ} {toJson : α → Json} {entries : List (String × α)}
    (hstep : ∀ state key, step state key = do colon; return .ok (add state key (← reader)))
    (h : ∀ entry ∈ entries, Reads reader (toJson entry.2).render entry.2) (state : σ) :
    Fills step state (entries.map fun entry => (entry.1, toJson entry.2))
      (entries.foldl (fun state entry => add state entry.1 entry.2) state) := by
  induction entries generalizing state with
  | nil => exact .nil state
  | cons entry entries ih =>
    refine .cons ?_ (ih (fun e he => h e (List.mem_cons_of_mem entry he)) _)
    rw [hstep]
    exact (h entry List.mem_cons_self).map _ |>.colon

theorem insertEntry_of_lt {key : String} {entries : List (String × α)}
    (h : ∀ entry ∈ entries, entry.1 < key) (value : α) :
    Fields.insertEntry key value entries = entries ++ [(key, value)] := by
  induction entries with
  | nil => rfl
  | cons entry entries ih =>
    have hentry := h entry List.mem_cons_self
    rw [Fields.insertEntry, if_neg (String.lt_asymm hentry), if_pos hentry,
      ih fun e he => h e (List.mem_cons_of_mem entry he), List.cons_append]

theorem foldl_insertEntry {read entries : List (String × α)}
    (h : (read ++ entries).Pairwise fun a b => a.1 < b.1) :
    entries.foldl (fun read entry => Fields.insertEntry entry.1 entry.2 read) read =
      read ++ entries := by
  induction entries generalizing read with
  | nil => simp
  | cons entry entries ih =>
    have hlt : ∀ e ∈ read, e.1 < entry.1 := by
      intro e he
      exact (List.pairwise_append.mp h).2.2 e he entry List.mem_cons_self
    rw [List.foldl_cons, insertEntry_of_lt hlt, ih (by simpa using h), List.append_assoc]
    rfl

theorem reads_object {depth : Nat} {fields : List (String × Json)}
    (h : ∀ field ∈ fields, Reads (value depth) field.2.render field.2)
    (hsorted : fields.Pairwise fun a b => a.1 < b.1) :
    Reads (value (depth + 1)) (Json.object fields).render (.object fields) := by
  intro rest _
  have hfills : Fills (objectOf.member (value depth)) [] fields fields := by
    have hfold := @fills_foldl _ _ (objectOf.member (value depth)) (value depth)
      (fun read key value => Fields.insertEntry key value read) id fields (fun _ _ => rfl) h []
    have hmap : fields.map (fun field => (field.1, id field.2)) = fields := List.map_id' fields
    rw [hmap, foldl_insertEntry hsorted] at hfold
    exact hfold
  rw [render_object, List.cons_append, value, valueWith, run_bind_of_ok (run_next?_cons rfl)]
  show (skip >>= fun _ => members (objectOf.member (value depth)) [] >>= _).run _ = _
  rw [run_bind_of_ok (run_skip _ _), run_bind_of_ok (run_members hfills rest)]
  exact run_closeObject _ rest

theorem entries_foldl_insert (entries : List (String × α)) (fields : Fields α) :
    (entries.foldl (fun fields entry => fields.insert entry.1 entry.2) fields).entries =
      entries.foldl (fun read entry => Fields.insertEntry entry.1 entry.2 read) fields.entries := by
  induction entries generalizing fields with
  | nil => rfl
  | cons entry entries ih => exact ih (fields.insert entry.1 entry.2)

theorem reads_map {reader : Nat → Reader α} {toJson : α → Json} {depth : Nat} {fields : Fields α}
    (h : ∀ entry ∈ fields.entries, Reads (reader depth) (toJson entry.2).render entry.2) :
    Reads (map reader (depth + 1))
      (Json.object (fields.entries.map fun entry => (entry.1, toJson entry.2))).render fields := by
  intro rest _
  have hfills := @fills_foldl _ _ (map.member reader depth) (reader depth) Fields.insert toJson
    fields.entries (fun _ _ => rfl) h .empty
  have hfields : fields.entries.foldl (fun fields entry => fields.insert entry.1 entry.2) .empty =
      fields := by
    apply Fields.ext
    rw [entries_foldl_insert]
    exact foldl_insertEntry fields.sorted
  rw [hfields] at hfills
  rw [render_object, List.cons_append, map, run_bind_of_ok (run_next?_cons rfl)]
  show (skip >>= fun _ => members (map.member reader depth) .empty >>= _).run _ = _
  rw [run_bind_of_ok (run_skip _ _), run_bind_of_ok (run_members hfills rest), run_closeObject]

theorem reads_optional_null (reader : Reader α) :
    Reads (optional reader) ['n', 'u', 'l', 'l'] none := by
  intro rest _
  rw [List.cons_append, optional, run_bind_of_ok (run_next?_cons rfl)]
  rfl

theorem reads_optional {reader : Reader α} {c : Char} {cs : List Char} {a : α}
    (h : Reads reader (c :: cs) a) (hblank : isBlank c = false) (hc : c ≠ 'n') :
    Reads (optional reader) (c :: cs) (some a) := by
  intro rest hrest
  rw [List.cons_append, optional, run_bind_of_ok (run_next?_cons hblank)]
  split
  · simp_all
  · exact h.map some rest hrest

end Reader

namespace Record

variable {δ α : Type} {record : Record δ α}

theorem reads_member (slot : Slot δ) {depth : Nat} {draft next : δ} {key : String}
    {cs : List Char} (hslot : record.slots.find? (·.isNamed key) = some slot)
    (hfilled : slot.isFilled draft = false) (h : Reads (slot.fill depth draft) cs next) :
    Reads (record.member depth draft key) (':' :: cs) (.ok next) := by
  have hmember : record.member depth draft key = do
      colon
      return .ok (← slot.fill depth draft) := by
    rw [member, hslot]
    simp [hfilled]
  rw [hmember]
  exact (h.map Except.ok).colon

theorem reads_read {depth : Nat} {fields : List (String × Json)} {draft : δ} {a : α}
    (h : Fills (record.member depth) record.blank fields draft)
    (hfinish : record.finish draft = .ok a) :
    Reads (record.read (depth + 1)) (Json.object fields).render a := by
  intro rest _
  rw [render_object, List.cons_append, read, run_bind_of_ok (run_next?_cons rfl)]
  show (skip >>= fun _ => members (record.member depth) record.blank >>= _).run _ = _
  rw [run_bind_of_ok (run_skip _ _), run_bind_of_ok (run_members h rest)]
  show (closeObject (record.finish draft)).run _ = _
  rw [hfinish, run_closeObject]

end Record

end NetScript.Json
