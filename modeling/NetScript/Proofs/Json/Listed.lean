import NetScript.Proofs.Json.Scalars

/-!
This module contains what comes of the texts of arrays and objects. An array is taken if each of its
items is. An object is taken member by member, each of which moves a state, so what comes of it is a
fold over its entries.
-/

namespace NetScript.Json

open Grammar

namespace Reader

variable {α β σ τ : Type}

theorem run_hasItem_first_item {gap more : List Char} (hgap : AreBlank gap) {item : Item}
    (h : IsValue item.value) :
    (hasItem true).run (gap ++ (item.text ++ more)) =
      .ok (true, item.value ++ (item.behind ++ more)) := by
  obtain ⟨c, cs, heq, hblank, hc, _⟩ := h.exists_eq_cons
  rw [Item.text, heq, hasItem, run_next_append hgap, List.append_assoc, List.cons_append,
    List.cons_append, run_next_of_cons item.blank_lead hblank]
  split
  · contradiction
  · simp_all
  · rw [List.append_assoc]
    rfl

theorem run_hasItem_comma_item {behind more : List Char} (hbehind : AreBlank behind) {item : Item}
    (h : IsValue item.value) :
    (hasItem false).run (behind ++ ',' :: (item.text ++ more)) =
      .ok (true, item.value ++ (item.behind ++ more)) := by
  obtain ⟨c, cs, heq, hblank, hc, _⟩ := h.exists_eq_cons
  rw [Item.text, heq, hasItem, run_next_of_cons hbehind rfl]
  show (skip >>= fun _ => next? >>= _ : Reader Bool).run _ = _
  rw [run_bind_of_ok (run_skip _ _), List.append_assoc, List.cons_append, List.cons_append,
    run_next_of_cons item.blank_lead hblank]
  split
  · contradiction
  · simp_all
  · rw [List.append_assoc]
    rfl

theorem items.outcome_go_item {reader : Reader α} {first : Bool} {cs more : List Char}
    {item : Item} (hmore : (hasItem first).run cs = .ok (true, item.value ++ (item.behind ++ more)))
    (hends : Ends more) (h : Settled reader item.value) (fuel : Nat) (read : List α) :
    outcome (go reader (fuel + 1) first read) cs = (taken reader item.value).bind fun a =>
      outcome (go reader fuel false (a :: read)) (item.behind ++ more) := by
  have hitem := h [] (item.behind ++ more) areBlank_nil (ends_append item.blank_behind hends)
  rw [List.nil_append] at hitem
  rw [go, outcome_bind_of_ok hmore, if_pos rfl, outcome_bind, hitem]
  cases taken reader item.value <;> rfl

theorem items.outcome_go {reader : Reader α} {items : List Item}
    (hvalue : ∀ item ∈ items, IsValue item.value)
    (h : ∀ item ∈ items, Settled reader item.value) {fuel : Nat} (hfuel : items.length < fuel)
    {behind : List Char} (hbehind : AreBlank behind) (read : List α) (rest : List Char) :
    outcome (go reader fuel false read)
        (behind ++ (continued (items.map Item.text) ++ ']' :: rest)) =
      (items.mapM fun item => taken reader item.value).map fun as =>
        (read.reverse ++ as, ']' :: rest) := by
  -- Every item takes one unit of fuel and leaves the blanks behind it to the next round.
  induction items generalizing fuel behind read with
  | nil =>
    obtain ⟨fuel, rfl⟩ := Nat.exists_eq_add_of_lt hfuel
    have hlast : (hasItem false).run (behind ++ ']' :: rest) = .ok (false, ']' :: rest) := by
      rw [hasItem, run_next_of_cons hbehind rfl]
      rfl
    rw [go, List.map_nil, continued, List.flatMap_nil, List.nil_append, outcome_bind_of_ok hlast]
    simp
  | cons item items ih =>
    obtain ⟨fuel, rfl⟩ := Nat.exists_eq_add_of_lt hfuel
    obtain ⟨hitem, hitems⟩ := List.forall_mem_cons.mp hvalue
    obtain ⟨hsettled, hrest⟩ := List.forall_mem_cons.mp h
    have hends : Ends (continued (items.map Item.text) ++ ']' :: rest) :=
      ends_continued _ (by decide) rest
    rw [List.map_cons, continued_cons, List.cons_append, List.append_assoc,
      outcome_go_item (run_hasItem_comma_item hbehind hitem) hends hsettled, List.mapM_cons]
    cases taken reader item.value with
    | none => rfl
    | some a =>
      have hlength : items.length < items.length + 1 + fuel := by omega
      rw [Option.bind_some, List.length_cons,
        ih hitems hrest hlength item.blank_behind (a :: read)]
      cases items.mapM fun item => taken reader item.value <;> simp

theorem outcome_items {reader : Reader α} {items : List Item}
    (hvalue : ∀ item ∈ items, IsValue item.value)
    (h : ∀ item ∈ items, Settled reader item.value) {gap : List Char} (hgap : AreBlank gap)
    (rest : List Char) :
    outcome (Reader.items reader) (listed gap (items.map Item.text) ']' ++ rest) =
      (items.mapM fun item => taken reader item.value).map fun as => (as, ']' :: rest) := by
  rw [Reader.items, outcome_bind_of_ok rfl]
  cases items with
  | nil =>
    have hlast : (hasItem true).run (gap ++ ']' :: rest) = .ok (false, ']' :: rest) := by
      rw [hasItem, run_next_append hgap]
      rfl
    rw [List.map_nil, listed_nil_append, List.length_append, List.length_cons, ← Nat.add_assoc,
      Reader.items.go, outcome_bind_of_ok hlast]
    rfl
  | cons item items =>
    obtain ⟨hitem, hitems⟩ := List.forall_mem_cons.mp hvalue
    obtain ⟨hsettled, hrest⟩ := List.forall_mem_cons.mp h
    have hends : Ends (continued (items.map Item.text) ++ ']' :: rest) :=
      ends_continued _ (by decide) rest
    have hlength : 0 < item.text.length := by
      have := hitem.length_pos
      simp only [Item.text, List.length_append]
      omega
    -- The fuel is the length of the text, which is more than the number of items.
    obtain ⟨fuel, hfuel⟩ := exists_length_listed gap hlength (items.map Item.text) ']' rest
    rw [List.map_cons, hfuel, listed_cons_append, Reader.items.outcome_go_item
      (run_hasItem_first_item hgap hitem) hends hsettled, List.mapM_cons, List.length_map]
    cases taken reader item.value with
    | none => rfl
    | some a =>
      rw [Option.bind_some,
        Reader.items.outcome_go hitems hrest (by omega) item.blank_behind]
      cases items.mapM fun item => taken reader item.value <;> simp

theorem run_hasMember_first_entry {gap more : List Char} (hgap : AreBlank gap) (entry : Entry) :
    (hasMember true).run (gap ++ (entry.text ++ more)) =
      .ok (true, entry.key ++ '"' :: (entry.assigned ++ more)) := by
  rw [Entry.text, hasMember, run_next_append hgap, List.append_assoc, List.cons_append,
    run_next_of_cons entry.blank_before rfl, List.append_assoc]
  rfl

theorem run_hasMember_comma_entry {behind more : List Char} (hbehind : AreBlank behind)
    (entry : Entry) :
    (hasMember false).run (behind ++ ',' :: (entry.text ++ more)) =
      .ok (true, entry.key ++ '"' :: (entry.assigned ++ more)) := by
  rw [Entry.text, hasMember, run_next_of_cons hbehind rfl]
  show (skip >>= fun _ => next? >>= _ : Reader Bool).run _ = _
  rw [run_bind_of_ok (run_skip _ _), List.append_assoc, List.cons_append,
    run_next_of_cons entry.blank_before rfl, List.append_assoc]
  rfl

/--
What comes of a step if a fault in the data counts as a failure, as it does in the end.
-/
def passed (reader : Reader (Except Fault σ)) (cs : List Char) : Option (σ × List Char) :=
  (outcome reader cs).bind fun found => found.1.toOption.map fun state => (state, found.2)

theorem passed_bind (reader : Reader α) (next : α → Reader (Except Fault σ)) (cs : List Char) :
    passed (reader >>= next) cs =
      (outcome reader cs).bind fun found => passed (next found.1) found.2 := by
  rw [passed, outcome_bind, Option.bind_assoc]
  rfl

theorem passed_bind_ok {reader : Reader (Except Fault σ)}
    {next : Except Fault σ → Reader (Except Fault τ)}
    (hnext : ∀ fault cs, passed (next (.error fault)) cs = none) (cs : List Char) :
    passed (reader >>= next) cs =
      (passed reader cs).bind fun found => passed (next (.ok found.1)) found.2 := by
  rw [passed_bind, passed]
  rcases outcome reader cs with _ | ⟨_ | state, rest⟩
  · rfl
  · exact hnext _ _
  · rfl

theorem outcome_bind_ok {reader : Reader (Except Fault σ)} {next : Except Fault σ → Reader β}
    (hnext : ∀ fault cs, outcome (next (.error fault)) cs = none) (cs : List Char) :
    outcome (reader >>= next) cs =
      (passed reader cs).bind fun found => outcome (next (.ok found.1)) found.2 := by
  rw [outcome_bind, passed]
  rcases outcome reader cs with _ | ⟨_ | state, rest⟩
  · rfl
  · exact hnext _ _
  · rfl

def Moves (step : σ → String → Reader (Except Fault σ)) (move : σ → String → List Char → Option σ)
    (entry : Entry) : Prop :=
  ∀ state key rest, Ends rest → passed (step state key) (entry.assigned ++ rest) =
    (move state key entry.value).map fun next => (next, entry.behind ++ rest)

/--
The move that belongs to an entry, if its key is a string at all.
-/
def moveTo (move : σ → String → List Char → Option σ) (state : σ) (entry : Entry) : Option σ :=
  (spelled? entry.key).bind fun key => move state key entry.value

variable {step : σ → String → Reader (Except Fault σ)} {move : σ → String → List Char → Option σ}

theorem members.passed_go_entry {first : Bool} {cs more : List Char} {entry : Entry}
    (hmore : (hasMember first).run cs = .ok (true, entry.key ++ '"' :: (entry.assigned ++ more)))
    (hends : Ends more) (h : Moves step move entry) (fuel : Nat) (state : σ) :
    passed (go step (fuel + 1) first state) cs = (moveTo move state entry).bind fun next =>
      passed (go step fuel false next) (entry.behind ++ more) := by
  rw [go, passed, outcome_bind_of_ok hmore, if_pos rfl, ← passed, passed_bind,
    outcome_stringBody entry.isBody_key, moveTo]
  cases spelled? entry.key with
  | none => rfl
  | some key =>
    rw [Option.map_some, Option.bind_some, Option.bind_some,
      passed_bind_ok fun fault cs => rfl, h state key more hends]
    cases move state key entry.value <;> rfl

theorem members.passed_go {entries : List Entry} (h : ∀ entry ∈ entries, Moves step move entry)
    {fuel : Nat} (hfuel : entries.length < fuel) {behind : List Char} (hbehind : AreBlank behind)
    (state : σ) (rest : List Char) :
    passed (go step fuel false state)
        (behind ++ (continued (entries.map Entry.text) ++ '\x7d' :: rest)) =
      (entries.foldlM (moveTo move) state).map fun last => (last, '\x7d' :: rest) := by
  induction entries generalizing fuel behind state with
  | nil =>
    obtain ⟨fuel, rfl⟩ := Nat.exists_eq_add_of_lt hfuel
    have hlast :
        (hasMember false).run (behind ++ '\x7d' :: rest) = .ok (false, '\x7d' :: rest) := by
      rw [hasMember, run_next_of_cons hbehind rfl]
      rfl
    rw [go, passed, List.map_nil, continued, List.flatMap_nil, List.nil_append,
      outcome_bind_of_ok hlast]
    rfl
  | cons entry entries ih =>
    obtain ⟨fuel, rfl⟩ := Nat.exists_eq_add_of_lt hfuel
    obtain ⟨hentry, hentries⟩ := List.forall_mem_cons.mp h
    have hends : Ends (continued (entries.map Entry.text) ++ '\x7d' :: rest) :=
      ends_continued _ (by decide) rest
    rw [List.map_cons, continued_cons, List.cons_append, List.append_assoc,
      passed_go_entry (run_hasMember_comma_entry hbehind entry) hends hentry, List.foldlM_cons]
    cases moveTo move state entry with
    | none => rfl
    | some next =>
      have hlength : entries.length < entries.length + 1 + fuel := by omega
      exact ih hentries hlength entry.blank_behind next

theorem passed_members {entries : List Entry} (h : ∀ entry ∈ entries, Moves step move entry)
    {gap : List Char} (hgap : AreBlank gap) (initial : σ) (rest : List Char) :
    passed (members step initial) (listed gap (entries.map Entry.text) '\x7d' ++ rest) =
      (entries.foldlM (moveTo move) initial).map fun last => (last, '\x7d' :: rest) := by
  rw [members, passed, outcome_bind_of_ok rfl, ← passed]
  cases entries with
  | nil =>
    have hlast : (hasMember true).run (gap ++ '\x7d' :: rest) = .ok (false, '\x7d' :: rest) := by
      rw [hasMember, run_next_append hgap]
      rfl
    rw [List.map_nil, listed_nil_append, List.length_append, List.length_cons, ← Nat.add_assoc,
      members.go, passed, outcome_bind_of_ok hlast]
    rfl
  | cons entry entries =>
    obtain ⟨hentry, hentries⟩ := List.forall_mem_cons.mp h
    have hends : Ends (continued (entries.map Entry.text) ++ '\x7d' :: rest) :=
      ends_continued _ (by decide) rest
    have hlength : 0 < entry.text.length := by
      simp only [Entry.text, List.length_append, List.length_cons]
      omega
    obtain ⟨fuel, hfuel⟩ :=
      exists_length_listed gap hlength (entries.map Entry.text) '\x7d' rest
    rw [List.map_cons, hfuel, listed_cons_append, members.passed_go_entry
      (run_hasMember_first_entry hgap entry) hends hentry, List.foldlM_cons, List.length_map]
    cases moveTo move initial entry with
    | none => rfl
    | some next => exact members.passed_go hentries (by omega) entry.blank_behind next rest

theorem outcome_closeObject_error (fault : Fault) (cs : List Char) :
    outcome (closeObject (.error fault : Except Fault α)) cs = none := by
  rw [closeObject, outcome_bind]
  cases outcome leaveObject cs <;> rfl

theorem outcome_object (close : Except Fault σ → Except Fault β)
    (hclose : ∀ fault, ∃ other, close (.error fault) = .error other) {entries : List Entry}
    (h : ∀ entry ∈ entries, Moves step move entry) {gap : List Char} (hgap : AreBlank gap)
    (initial : σ) (rest : List Char) :
    outcome (members step initial >>= fun last => closeObject (close last))
        (listed gap (entries.map Entry.text) '\x7d' ++ rest) =
      ((entries.foldlM (moveTo move) initial).bind fun last => (close (.ok last)).toOption).map
        fun value => (value, rest) := by
  -- A fault in the data is only found where the object ends, but then for sure.
  have herror (fault : Fault) (cs : List Char) :
      outcome (closeObject (close (.error fault))) cs = none := by
    obtain ⟨other, hother⟩ := hclose fault
    rw [hother, outcome_closeObject_error]
  rw [outcome_bind_ok herror, passed_members h hgap]
  cases entries.foldlM (moveTo move) initial with
  | none => rfl
  | some last =>
    rw [Option.map_some, Option.bind_some, Option.bind_some]
    cases close (.ok last) with
    | error fault => exact outcome_closeObject_error fault _
    | ok value => rfl

theorem run_colon {gap : List Char} (hgap : AreBlank gap) (cs : List Char) :
    colon.run (gap ++ ':' :: cs) = .ok ((), cs) := by
  rw [colon, run_next_of_cons hgap rfl]
  rfl

theorem passed_colon {reader : Reader (Except Fault σ)} (entry : Entry) (rest : List Char) :
    passed (colon >>= fun _ => reader) (entry.assigned ++ rest) =
      passed reader (entry.lead ++ (entry.value ++ (entry.behind ++ rest))) := by
  rw [Entry.assigned, List.append_assoc, List.cons_append, passed,
    outcome_bind_of_ok (run_colon entry.blank_gap _), ← passed, Item.text, List.append_assoc,
    List.append_assoc]

theorem passed_ok {reader : Reader α} {entry : Entry} (h : Settled reader entry.value)
    {rest : List Char} (hrest : Ends rest) (f : α → σ) :
    passed (do return .ok (f (← reader))) (entry.lead ++ (entry.value ++ (entry.behind ++ rest))) =
      ((taken reader entry.value).map f).map fun next => (next, entry.behind ++ rest) := by
  rw [passed_bind, h _ _ entry.blank_lead (ends_append entry.blank_behind hrest)]
  cases taken reader entry.value <;> rfl

theorem moves_of_settled {reader : Reader α} {add : σ → String → α → σ} {entry : Entry}
    (hstep : ∀ state key, step state key = do colon; return .ok (add state key (← reader)))
    (h : Settled reader entry.value) :
    Moves step (fun state key value => (taken reader value).map (add state key)) entry := by
  intro state key rest hrest
  rw [hstep, passed_colon, passed_ok h hrest]

end Reader

end NetScript.Json
