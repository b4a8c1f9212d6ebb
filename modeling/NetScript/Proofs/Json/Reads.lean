import Mathlib.Data.List.TakeWhile
import NetScript.Json.Reader.Value

/-!
This module contains what it means that a reader takes a text, with anything behind it that may
follow a value. The readers of literals and strings take what is written for them.
-/

namespace NetScript.Json

namespace Reader

variable {α β : Type}

theorem run_bind_of_ok {reader : Reader α} {next : α → Reader β} {cs rest : List Char} {a : α}
    (h : reader.run cs = .ok (a, rest)) : (reader >>= next).run cs = (next a).run rest := by
  rw [StateT.run_bind, h]
  rfl

theorem exists_of_run_bind {reader : Reader α} {next : α → Reader β} {cs left : List Char} {b : β}
    (h : (reader >>= next).run cs = .ok (b, left)) :
    ∃ a rest, reader.run cs = .ok (a, rest) ∧ (next a).run rest = .ok (b, left) := by
  rw [StateT.run_bind] at h
  cases hrun : reader.run cs with
  | error failure =>
    rw [hrun] at h
    cases h
  | ok result =>
    rw [hrun] at h
    exact ⟨result.1, result.2, rfl, h⟩

theorem run_skip (c : Char) (cs : List Char) : skip.run (c :: cs) = .ok ((), cs) := rfl

theorem run_next? (cs : List Char) :
    next?.run cs = .ok ((cs.dropWhile isBlank).head?, cs.dropWhile isBlank) := rfl

theorem run_next?_cons {c : Char} {cs : List Char} (h : isBlank c = false) :
    next?.run (c :: cs) = .ok (some c, c :: cs) := by
  rw [run_next?, List.dropWhile_cons_of_neg (by simp [h])]
  rfl

def terminators : List Char :=
  [',', ']', '\x7d', ' ', '\n', '\t', '\r']

def Ends (rest : List Char) : Prop :=
  ∀ c ∈ rest.head?, c ∈ terminators

theorem ends_nil : Ends [] := by
  simp [Ends]

theorem ends_cons {c : Char} (cs : List Char) (h : c ∈ terminators) : Ends (c :: cs) := by
  simpa [Ends] using h

theorem Ends.head?_cases {rest : List Char} (h : Ends rest) :
    rest.head? = none ∨ ∃ c ∈ terminators, rest.head? = some c := by
  cases hhead : rest.head? with
  | none => exact .inl rfl
  | some c => exact .inr ⟨c, h c hhead, rfl⟩

theorem Ends.any_eq_false {rest : List Char} (h : Ends rest) {property : Char → Bool}
    (hproperty : terminators.any property = false) : rest.head?.any property = false := by
  rcases h.head?_cases with hhead | ⟨c, hc, hhead⟩ <;> rw [hhead]
  · rfl
  · simpa using List.any_eq_false.mp hproperty c hc

theorem Ends.head?_ne {rest : List Char} (h : Ends rest) {c : Char} (hc : c ∉ terminators) :
    rest.head? ≠ some c :=
  fun hhead => hc (h c hhead)

/--
The reader takes exactly the characters `cs` in front of the end of a value.
-/
def Reads (reader : Reader α) (cs : List Char) (a : α) : Prop :=
  ∀ rest, Ends rest → reader.run (cs ++ rest) = .ok (a, rest)

theorem Reads.map {reader : Reader α} {cs : List Char} {a : α} (h : Reads reader cs a)
    (f : α → β) : Reads (do return f (← reader)) cs (f a) := by
  intro rest hrest
  rw [run_bind_of_ok (h rest hrest)]
  rfl

theorem run_finish_of_blank {cs : List Char} (h : ∀ c ∈ cs, isBlank c) :
    finish.run cs = .ok ((), []) := by
  rw [finish, run_bind_of_ok (run_next? cs), List.dropWhile_eq_nil_iff.mpr h]
  rfl

theorem blank_of_run_finish {cs rest : List Char} (h : finish.run cs = .ok ((), rest)) :
    ∀ c ∈ cs, isBlank c := by
  rw [finish, run_bind_of_ok (run_next? cs)] at h
  split at h
  · next hhead => simpa using hhead
  · cases h

theorem parseWith_eq_ok_iff {reader : Reader α} {text : String} {a : α} :
    parseWith reader text = .ok a ↔
      ∃ rest, reader.run text.toList = .ok (a, rest) ∧ ∀ c ∈ rest, isBlank c := by
  constructor
  · intro h
    unfold parseWith at h
    split at h
    · next found left hrun =>
      obtain ⟨value, rest, hvalue, hrest⟩ := exists_of_run_bind hrun
      obtain ⟨_, _, hfinish, hpure⟩ := exists_of_run_bind hrest
      cases hpure
      cases h
      exact ⟨rest, hvalue, blank_of_run_finish hfinish⟩
    · cases h
  · rintro ⟨rest, hrun, hblank⟩
    have hdocument : (document reader).run text.toList = .ok (a, []) := by
      rw [document, run_bind_of_ok hrun, run_bind_of_ok (run_finish_of_blank hblank)]
      rfl
    rw [parseWith, hdocument]

theorem Reads.parseWith_eq {reader : Reader α} {cs : List Char} {a : α} (h : Reads reader cs a) :
    parseWith reader (String.ofList cs) = .ok a := by
  rw [parseWith_eq_ok_iff, String.toList_ofList]
  exact ⟨[], by simpa using h [] ends_nil, by simp⟩

theorem digits?_hexPadded {n : Nat} (h : n < 0x10000) (rest : List Char) :
    hexEscape.digits? (Text.hexPadded 4 n ++ rest) = some (n, rest) := by
  have hdigit (m : Nat) : Text.hexValue? (m % 16).digitChar = some (m % 16) :=
    Text.hexValue?_digitChar (Nat.mod_lt _ (by decide))
  simp only [Text.hexPadded, Text.hexPadded.go, List.cons_append, List.nil_append,
    hexEscape.digits?, hdigit, Option.bind_eq_bind, Option.bind_some, Option.pure_def,
    Option.some.injEq, Prod.mk.injEq, and_true]
  omega

theorem escape_of_control {c : Char} (h : c.toNat < 0x20) (rest : List Char) :
    escape ('u' :: (Text.hexPadded 4 c.toNat ++ rest)) = .ok (c, rest) := by
  have hlow : isLowSurrogate c.toNat = false := by
    simp only [isLowSurrogate, Bool.and_eq_false_iff, decide_eq_false_iff_not]
    omega
  have hhigh : isHighSurrogate c.toNat = false := by
    simp only [isHighSurrogate, Bool.and_eq_false_iff, decide_eq_false_iff_not]
    omega
  have hhex : hexEscape (Text.hexPadded 4 c.toNat ++ rest) = .ok (c.toNat, rest) := by
    rw [hexEscape, digits?_hexPadded (by omega)]
  show numberedEscape _ = _
  rw [numberedEscape, hhex]
  show (if isLowSurrogate c.toNat then _ else if isHighSurrogate c.toNat then _ else _) = _
  rw [hlow, hhigh]
  simp [Char.ofNat_toNat, pure, Except.pure]

theorem stringBody.go_quote (rest read : List Char) :
    go ('"' :: rest) read = .ok (String.ofList read.reverse, rest) := by
  rw [go.eq_def]
  rfl

theorem stringBody.go_backslash {cs rest : List Char} {c : Char}
    (h : Reader.escape cs = .ok (c, rest)) (read : List Char) :
    go ('\\' :: cs) read = go rest (c :: read) := by
  rw [go.eq_def]
  simp only [↓reduceIte, Char.reduceEq]
  split <;> simp_all

theorem stringBody.go_of_plain {c : Char} (hquote : c ≠ '"') (hbackslash : c ≠ '\\')
    (hcontrol : ¬c.toNat < 0x20) (rest read : List Char) :
    go (c :: rest) read = go rest (c :: read) := by
  rw [go.eq_def]
  simp only [hquote, hbackslash, hcontrol, ↓reduceIte]

theorem stringBody.go_escape (c : Char) (rest read : List Char) :
    go (Json.escape c ++ rest) read = go rest (c :: read) := by
  unfold Json.escape
  -- The characters that are escaped by a letter come first.
  iterate 7
    split
    · next h =>
      subst h
      exact go_backslash rfl read
  split
  · next hcontrol => exact go_backslash (escape_of_control hcontrol rest) read
  · next hquote hbackslash _ _ _ _ _ hcontrol =>
    exact go_of_plain hquote hbackslash hcontrol rest read

theorem run_stringBody (s : String) (rest : List Char) :
    stringBody.run (s.toList.flatMap Json.escape ++ '"' :: rest) = .ok (s, rest) := by
  have hgo (cs read : List Char) : stringBody.go (cs.flatMap Json.escape ++ '"' :: rest) read =
      .ok (String.ofList (read.reverse ++ cs), rest) := by
    induction cs generalizing read with
    | nil => simp [stringBody.go_quote]
    | cons c cs ih =>
      rw [List.flatMap_cons, List.append_assoc, stringBody.go_escape, ih]
      simp
  show stringBody.go _ [] = _
  rw [hgo]
  simp

theorem quoted_append (s : String) (rest : List Char) :
    quoted s ++ rest = '"' :: (s.toList.flatMap Json.escape ++ '"' :: rest) := by
  simp [quoted]

theorem reads_text (s : String) : Reads text (quoted s) s := by
  intro rest _
  rw [quoted_append, text, run_bind_of_ok (run_next?_cons rfl)]
  show (skip >>= fun _ => stringBody).run _ = _
  rw [run_bind_of_ok (run_skip _ _), run_stringBody]

theorem run_value_of_scalar {c : Char} (hblank : isBlank c = false) (harray : c ≠ '[')
    (hobject : c ≠ '\x7b') (depth : Nat) (cs : List Char) :
    (value depth).run (c :: cs) = (scalar c).run (c :: cs) := by
  cases depth <;> rw [value, valueWith, run_bind_of_ok (run_next?_cons hblank)] <;>
    split <;> simp_all

theorem reads_null (depth : Nat) : Reads (value depth) ['n', 'u', 'l', 'l'] .null := by
  intro rest _
  rw [List.cons_append, run_value_of_scalar rfl (by decide) (by decide)]
  rfl

theorem reads_bool (depth : Nat) (b : Bool) :
    Reads (value depth) (Json.bool b).render (.bool b) := by
  intro rest _
  cases b with
  | true =>
    rw [Json.render, List.cons_append, run_value_of_scalar rfl (by decide) (by decide)]
    rfl
  | false =>
    rw [Json.render, List.cons_append, run_value_of_scalar rfl (by decide) (by decide)]
    rfl

theorem reads_string (depth : Nat) (s : String) :
    Reads (value depth) (quoted s) (.string s) := by
  intro rest _
  rw [quoted_append, run_value_of_scalar rfl (by decide) (by decide)]
  show (skip >>= fun _ => stringBody >>= fun s => pure (Json.string s)).run _ = _
  rw [run_bind_of_ok (run_skip _ _), run_bind_of_ok (run_stringBody s rest)]
  rfl

end Reader

end NetScript.Json
