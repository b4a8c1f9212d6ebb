import NetScript.Json.Record
import NetScript.Proofs.Json.Reads

/-!
This module contains what is known of everything that a reader returns, whatever the text is that it
was given. A property of the items or members of a container carries over to the container.
-/

namespace NetScript.Json

namespace Reader

variable {α β σ : Type} {p : α → Prop} {q : β → Prop}

/--
Everything that the reader returns has the property.
-/
def Yields (reader : Reader α) (p : α → Prop) : Prop :=
  ∀ cs a rest, reader.run cs = .ok (a, rest) → p a

theorem yields_pure {a : α} (h : p a) : Yields (pure a) p := by
  intro cs b rest hrun
  cases hrun
  exact h

theorem yields_fail (fault : Fault) : Yields (fail fault) p := by
  intro cs a rest hrun
  cases hrun

theorem yields_failAfter (fault : Fault) : Yields (failAfter fault) p := by
  intro cs a rest hrun
  cases hrun

theorem Yields.bind {reader : Reader α} {next : α → Reader β} (h : Yields reader p)
    (hnext : ∀ a, p a → Yields (next a) q) : Yields (reader >>= next) q := by
  intro cs b rest hrun
  obtain ⟨a, mid, hfirst, hsecond⟩ := exists_of_run_bind hrun
  exact hnext a (h cs a mid hfirst) mid b rest hsecond

theorem yields_bind (reader : Reader α) {next : α → Reader β} (hnext : ∀ a, Yields (next a) q) :
    Yields (reader >>= next) q := by
  have hany : Yields reader fun _ => True := fun _ _ _ _ => trivial
  exact hany.bind fun a _ => hnext a

theorem Yields.of_parseWith {reader : Reader α} (h : Yields reader p) {text : String} {a : α}
    (hparse : parseWith reader text = .ok a) : p a := by
  obtain ⟨rest, hrun, _⟩ := parseWith_eq_ok_iff.mp hparse
  exact h _ a rest hrun

theorem yields_wrongType (expected : String) : Yields (wrongType expected) p := by
  refine yields_bind _ fun c => ?_
  split
  · exact yields_failAfter _
  · exact yields_fail _
  · exact yields_fail _
  · refine yields_bind _ fun json => ?_
    split <;> exact yields_fail _

theorem items.yields_go {item : Reader α} (h : Yields item p) (fuel : Nat) (first : Bool)
    {read : List α} (hread : ∀ a ∈ read, p a) :
    Yields (go item fuel first read) fun as => ∀ a ∈ as, p a := by
  induction fuel generalizing first read with
  | zero => exact yields_fail _
  | succ fuel ih =>
    refine yields_bind _ fun more => ?_
    split
    · refine h.bind fun a ha => ih false ?_
      simpa using ⟨ha, hread⟩
    · exact yields_pure (by simpa using hread)

theorem yields_items {item : Reader α} (h : Yields item p) :
    Yields (items item) fun as => ∀ a ∈ as, p a :=
  yields_bind _ fun cs => items.yields_go h cs.length true (by simp)

theorem members.yields_go {step : σ → String → Reader (Except Fault σ)} {inv : σ → Prop}
    (h : ∀ state key, inv state → Yields (step state key) fun next => ∀ s, next = .ok s → inv s)
    (fuel : Nat) (first : Bool) {state : σ} (hstate : inv state) :
    Yields (go step fuel first state) fun next => ∀ s, next = .ok s → inv s := by
  induction fuel generalizing first state with
  | zero => exact yields_fail _
  | succ fuel ih =>
    refine yields_bind _ fun more => ?_
    split
    · refine yields_bind _ fun key => (h state key hstate).bind fun next hnext => ?_
      split
      · exact ih false (hnext _ rfl)
      · exact yields_pure (by simp)
    · exact yields_pure (by simpa using hstate)

theorem yields_members {step : σ → String → Reader (Except Fault σ)} {inv : σ → Prop}
    (h : ∀ state key, inv state → Yields (step state key) fun next => ∀ s, next = .ok s → inv s)
    {initial : σ} (hinitial : inv initial) :
    Yields (members step initial) fun last => ∀ s, last = .ok s → inv s :=
  yields_bind _ fun cs => members.yields_go h cs.length true hinitial

theorem yields_closeArray {outcome : Except Fault α} (h : ∀ a, outcome = .ok a → p a) :
    Yields (closeArray outcome) p := by
  unfold closeArray
  split
  · exact yields_bind _ fun _ => yields_pure (h _ rfl)
  · exact yields_bind _ fun _ => yields_fail _

theorem yields_closeObject {outcome : Except Fault α} (h : ∀ a, outcome = .ok a → p a) :
    Yields (closeObject outcome) p := by
  unfold closeObject
  split
  · exact yields_bind _ fun _ => yields_pure (h _ rfl)
  · exact yields_bind _ fun _ => yields_fail _

theorem yields_nested {body : Nat → Reader α} {depth : Nat} (h : Yields (body depth) p) :
    Yields (nested body (depth + 1)) p :=
  yields_bind _ fun _ => h

theorem yields_sequence {item : Nat → Reader α} {depth : Nat} (h : Yields (item depth) p) :
    Yields (sequence item (depth + 1)) fun as => ∀ a ∈ as, p a := by
  refine yields_bind _ fun c => ?_
  split
  · exact yields_failAfter _
  · refine yields_nested ((yields_items h).bind fun as has => ?_)
    exact yields_closeArray fun _ hok => Except.ok.inj hok ▸ has
  · exact yields_wrongType _

theorem yields_map {value : Nat → Reader α} {depth : Nat} (h : Yields (value depth) p) :
    Yields (map value (depth + 1)) fun fields => ∀ entry ∈ fields.entries, p entry.2 := by
  refine yields_bind _ fun c => ?_
  split
  · exact yields_failAfter _
  · apply yields_nested
    refine Yields.bind (yields_members ?_ ?_) fun read hread => yields_closeObject hread
    · intro fields key hfields
      refine yields_bind _ fun _ => h.bind fun a ha => yields_pure ?_
      intro fields hok
      cases hok
      intro entry hentry
      rcases Fields.mem_insertEntry hentry with rfl | hentry
      · exact ha
      · exact hfields entry hentry
    · intro entry hentry
      cases hentry
  · exact yields_wrongType _

theorem yields_optional {reader : Reader α} (h : Yields reader p) :
    Yields (optional reader) fun a? => ∀ a ∈ a?, p a := by
  refine yields_bind _ fun c => ?_
  split
  · exact yields_bind _ fun _ => yields_bind _ fun _ => yields_pure (by simp)
  · exact h.bind fun a ha => yields_pure (by simpa using ha)

end Reader

namespace Record

open Reader

variable {δ α : Type} {record : Record δ α} {inv : δ → Prop} {p : α → Prop} {depth : Nat}

theorem yields_member (hfill : ∀ slot ∈ record.slots, ∀ draft, inv draft →
      Yields (slot.fill depth draft) inv) {draft : δ} (hdraft : inv draft) (key : String) :
    Yields (record.member depth draft key) fun next => ∀ s, next = .ok s → inv s := by
  unfold member
  split
  · next slot hslot =>
    split
    · exact yields_pure (by simp)
    · have hmem := List.mem_of_find?_eq_some hslot
      refine yields_bind _ fun _ => (hfill slot hmem draft hdraft).bind fun next hnext => ?_
      exact yields_pure (by simpa using hnext)
  · exact yields_bind _ fun _ => yields_bind _ fun _ => yields_pure (by simpa using hdraft)

theorem yields_fillItems {slots : List (Slot δ)} (hfill : ∀ slot ∈ slots, ∀ draft, inv draft →
      Yields (slot.fill depth draft) inv) {draft : δ} (hdraft : inv draft) (index : Nat) :
    Yields (record.fillItems depth index draft slots) fun next => ∀ s, next = .ok s → inv s := by
  induction slots generalizing draft index with
  | nil => exact yields_pure (by simpa using hdraft)
  | cons slot slots ih =>
    have hrest : ∀ other ∈ slots, ∀ draft, inv draft → Yields (other.fill depth draft) inv :=
      fun other hother => hfill other (List.mem_cons_of_mem slot hother)
    refine yields_bind _ fun more => ?_
    split
    · refine (hfill slot List.mem_cons_self draft hdraft).bind fun next hnext => ?_
      exact ih hrest hnext (index + 1)
    · split
      · exact ih hrest hdraft (index + 1)
      · exact yields_pure (by simp)

theorem yields_read (inv : δ → Prop) (hblank : inv record.blank)
    (hfill : ∀ slot ∈ record.slots, ∀ draft, inv draft → Yields (slot.fill depth draft) inv)
    (hfinish : ∀ draft a, inv draft → record.finish draft = .ok a → p a) :
    Yields (record.read (depth + 1)) p := by
  have hbind (draft : Except Fault δ) (hdraft : ∀ s, draft = .ok s → inv s) (a : α)
      (ha : draft.bind record.finish = .ok a) : p a := by
    cases draft with
    | error fault => cases ha
    | ok draft => exact hfinish draft a (hdraft draft rfl) ha
  refine yields_bind _ fun c => ?_
  split
  · exact yields_failAfter _
  · apply yields_nested
    refine (yields_fillItems hfill hblank 0).bind fun draft hdraft => ?_
    exact yields_closeArray (hbind draft hdraft)
  · apply yields_nested
    refine (yields_members (fun draft key hdraft => ?_) hblank).bind fun draft hdraft => ?_
    · exact yields_member hfill hdraft key
    · exact yields_closeObject (hbind draft hdraft)
  · exact yields_wrongType _

end Record

end NetScript.Json
