import NetScript.Proofs.Json.Scalars

/-!
This module contains what is ignored: every value of the grammar is, to its end and at any depth.
Behind a value the reader goes on with what is open around it, so the induction is on the value,
with the rest of the work kept as it is.
-/

namespace NetScript.Json

open Grammar

namespace Reader

variable {α β : Type}

theorem ignoreString.go_quote (rest : List Char) : go ('"' :: rest) = .ok ((), rest) := by
  rw [go.eq_def]
  rfl

theorem ignoreString.go_backslash {cs rest : List Char} (h : ignoreEscape cs = .ok rest) :
    go ('\\' :: cs) = go rest := by
  rw [go.eq_def]
  simp only [↓reduceIte, Char.reduceEq]
  split <;> simp_all

theorem ignoreString.go_of_plain {c : Char} (hquote : c ≠ '"') (hbackslash : c ≠ '\\')
    (hcontrol : ¬c.toNat < 0x20) (rest : List Char) : go (c :: rest) = go rest := by
  rw [go.eq_def]
  simp only [hquote, hbackslash, hcontrol, ↓reduceIte]

theorem run_ignoreString {body : List Char} (h : IsBody body) (rest : List Char) :
    ignoreString.run (body ++ '"' :: rest) = .ok ((), rest) := by
  show ignoreString.go _ = _
  induction h with
  | nil => exact ignoreString.go_quote rest
  | plain hquote hbackslash hcontrol h ih =>
    rw [List.cons_append, ignoreString.go_of_plain hquote hbackslash hcontrol, ih]
  | @simple c cs hc h ih =>
    have hescape : ignoreEscape (c :: (cs ++ '"' :: rest)) = .ok (cs ++ '"' :: rest) := by
      rw [ignoreEscape, if_pos hc]
    rw [List.cons_append, List.cons_append, ignoreString.go_backslash hescape, ih]
  | @numbered a b c d cs hnumber h ih =>
    obtain ⟨n, hn⟩ := Option.isSome_iff_exists.mp hnumber
    have hescape : ignoreEscape ('u' :: a :: b :: c :: d :: (cs ++ '"' :: rest)) =
        .ok (cs ++ '"' :: rest) := by
      show (hexEscape _).map (·.2) = _
      rw [hexEscape_of_hexNumber? hn]
      rfl
    rw [List.cons_append, List.cons_append, List.cons_append, List.cons_append, List.cons_append,
      List.cons_append, ignoreString.go_backslash hescape, ih]

theorem run_ignoreDigits {cs rest : List Char} (h : AreDigits cs)
    (hrest : rest.head?.any isDigit = false) : ignoreDigits.run (cs ++ rest) = .ok ((), rest) := by
  have hne : (cs.map digitValue).isEmpty = false := by simp [h.1]
  rw [ignoreDigits, run_bind_of_ok (run_digits_append h.2 hrest), hne]
  rfl

theorem run_ignoreExponent {cs rest : List Char} (h : IsExponent cs) (hrest : Ends rest) :
    ignoreExponent.run (cs ++ rest) = .ok ((), rest) := by
  cases h with
  | absent =>
    rw [List.nil_append, ignoreExponent, run_bind_of_ok rfl]
    dsimp only
    rw [if_neg hrest.not_mark]
    rfl
  | @digits mark sign cs hmark hsign h =>
    obtain ⟨first, hrun⟩ := exists_run_sign hsign h
    have hmark : ignoreExponent.run (mark :: (sign ++ cs) ++ rest) =
        (do
          let sign ← peek?
          if sign = some '+' || sign = some '-' then
            skip
          ignoreDigits).run (sign ++ (cs ++ rest)) := by
      rw [List.cons_append, List.append_assoc]
      rcases hmark with rfl | rfl <;> rfl
    rw [hmark, hrun fun _ => ignoreDigits]
    exact run_ignoreDigits h hrest.any_isDigit

def ignoreFraction : Reader Unit := do
  if (← peek?) = some '.' then
    skip
    ignoreDigits
  ignoreExponent

theorem run_ignoreFraction {fraction exponent rest : List Char} (hfraction : IsFraction fraction)
    (hexponent : IsExponent exponent) (hrest : Ends rest) :
    ignoreFraction.run (fraction ++ (exponent ++ rest)) = .ok ((), rest) := by
  have hcontinued := isContinued_exponent hexponent hrest
  have hlast := run_ignoreExponent hexponent hrest
  rw [ignoreFraction, run_bind_of_ok rfl]
  cases hfraction with
  | absent =>
    rw [List.nil_append]
    dsimp only
    rw [if_neg (ne_point_of_isContinued hcontinued)]
    exact hlast
  | @digits cs h =>
    show (skip >>= fun _ => ignoreDigits >>= fun _ => ignoreExponent).run _ = _
    rw [List.cons_append, run_bind_of_ok (run_skip _ _),
      run_bind_of_ok (run_ignoreDigits h (any_isDigit_of_isContinued hcontinued)), hlast]

theorem run_ignoreNumber {cs rest : List Char} (h : IsMagnitude cs) (hrest : Ends rest) :
    ignoreNumber.run (cs ++ rest) = .ok ((), rest) := by
  obtain @⟨digits, fraction, exponent, hdigits, hfraction, hexponent⟩ := h
  have hlast := run_ignoreFraction hfraction hexponent hrest
  have hnext : (fraction ++ (exponent ++ rest)).head?.any isDigit = false :=
    isDigit_fraction hfraction (isContinued_exponent hexponent hrest)
  rw [List.append_assoc, List.append_assoc, ignoreNumber, run_bind_of_ok rfl]
  cases hdigits with
  | zero =>
    show (do
      if (← peek?).any isDigit then
        failAfter .invalidNumber
      ignoreFraction).run (fraction ++ (exponent ++ rest)) = _
    rw [run_bind_of_ok rfl]
    dsimp only
    rw [hnext]
    exact hlast
  | @digits c cs hc h =>
    have hhead : (c :: cs ++ (fraction ++ (exponent ++ rest))).head? ≠ some '0' := by
      simpa using hc
    dsimp only
    rw [if_neg hhead]
    show (ignoreDigits >>= fun _ => ignoreFraction).run _ = _
    rw [run_bind_of_ok (run_ignoreDigits h hnext), hlast]

theorem ignoreScalar_of_isDigit {c : Char} (h : isDigit c) : ignoreScalar c = ignoreNumber := by
  unfold ignoreScalar
  rw [if_neg (ne_of_isDigit h rfl), if_neg (ne_of_isDigit h rfl), if_neg (ne_of_isDigit h rfl),
    if_neg (ne_of_isDigit h rfl), if_pos h]

theorem run_bind_congr {reader : Reader α} {next : α → Reader β} {cs ds : List Char}
    (h : reader.run cs = reader.run ds) : (reader >>= next).run cs = (reader >>= next).run ds := by
  rw [StateT.run_bind, StateT.run_bind, h]

/--
The parts that are still to be taken once it is known what is open around the next one.
-/
def onward (fuel : Nat) : Option (List Bracket) → Reader Unit
  | none => return ()
  | some enclosing => ignoreValue.go fuel enclosing

theorem ignoreValue.go_succ (fuel : Nat) (enclosing : List Bracket) :
    go (fuel + 1) enclosing = part enclosing >>= onward fuel := by
  rw [go]
  congr 1

theorem run_ignoreBetween_append {behind : List Char} (h : AreBlank behind) (isOpened : Bool)
    (bracket : Bracket) (outer : List Bracket) (cs : List Char) :
    (ignoreBetween isOpened (bracket :: outer)).run (behind ++ cs) =
      (ignoreBetween isOpened (bracket :: outer)).run cs :=
  run_next_append h _ cs

theorem run_ignoreBetween_closer {behind : List Char} (h : AreBlank behind) (isOpened : Bool)
    (bracket : Bracket) (outer : List Bracket) (rest : List Char) :
    (ignoreBetween isOpened (bracket :: outer)).run (behind ++ bracket.closer :: rest) =
      (ignoreBetween false outer).run rest := by
  cases bracket <;>
    rw [ignoreBetween, Bracket.closer, run_next_of_cons h rfl] <;> rfl

theorem run_ignoreBetween_comma (bracket : Bracket) (outer : List Bracket) (cs : List Char) :
    (ignoreBetween false (bracket :: outer)).run (',' :: cs) =
      (ignoreKey bracket >>= fun _ => pure (some (bracket :: outer))).run cs := rfl

theorem run_ignoreBetween_opened {c : Char} {cs : List Char} (hblank : isBlank c = false)
    {bracket : Bracket} (hc : c ≠ bracket.closer) (outer : List Bracket) :
    (ignoreBetween true (bracket :: outer)).run (c :: cs) =
      (ignoreKey bracket >>= fun _ => pure (some (bracket :: outer))).run (c :: cs) := by
  rw [ignoreBetween, run_bind_of_ok (run_next?_cons hblank)]
  dsimp only
  rw [if_neg (by simp), if_neg hc, if_pos rfl]

/--
The text is taken by some parts, after which the reader goes on with what is open.
-/
def Ignored (cs : List Char) : Prop :=
  ∃ parts, 0 < parts ∧ parts ≤ cs.length ∧ ∀ fuel enclosing lead rest, AreBlank lead → Ends rest →
    (ignoreValue.go (fuel + parts) enclosing).run (lead ++ (cs ++ rest)) =
      (ignoreBetween false enclosing >>= onward fuel).run rest

theorem run_ignoreValue {cs : List Char} (h : Ignored cs) {lead rest : List Char}
    (hlead : AreBlank lead) (hrest : Ends rest) :
    ignoreValue.run (lead ++ (cs ++ rest)) = .ok ((), rest) := by
  obtain ⟨parts, _, hparts, hgo⟩ := h
  obtain ⟨fuel, hfuel⟩ : ∃ fuel, (lead ++ (cs ++ rest)).length = fuel + parts := by
    refine ⟨lead.length + (cs.length - parts) + rest.length, ?_⟩
    simp only [List.length_append]
    omega
  rw [ignoreValue, run_bind_of_ok rfl, hfuel, hgo fuel [] lead rest hlead hrest]
  rfl

theorem ignored_scalar {c : Char} {cs : List Char} (hblank : isBlank c = false) (harray : c ≠ '[')
    (hobject : c ≠ '\x7b')
    (h : ∀ rest, Ends rest → (ignoreScalar c).run (c :: (cs ++ rest)) = .ok ((), rest)) :
    Ignored (c :: cs) := by
  refine ⟨1, Nat.one_pos, by simp, fun fuel enclosing lead rest hlead hrest => ?_⟩
  have hpart : (ignoreValue.part enclosing).run (lead ++ (c :: cs ++ rest)) =
      (ignoreScalar c >>= fun _ => ignoreBetween false enclosing).run (c :: (cs ++ rest)) := by
    rw [ignoreValue.part, List.cons_append, run_next_of_cons hlead hblank]
    split <;> simp_all
  rw [ignoreValue.go_succ, StateT.run_bind, hpart, run_bind_of_ok (h rest hrest), StateT.run_bind]

def EntryIgnored (bracket : Bracket) (text : List Char) : Prop :=
  (∃ before c cs, AreBlank before ∧ isBlank c = false ∧ c ≠ bracket.closer ∧
    text = before ++ c :: cs) ∧
  ∃ parts, 0 < parts ∧ parts ≤ text.length ∧ ∀ fuel outer rest, Ends rest →
    (ignoreKey bracket >>= fun _ => ignoreValue.go (fuel + parts) (bracket :: outer)).run
        (text ++ rest) =
      (ignoreBetween false (bracket :: outer) >>= onward fuel).run rest

theorem Ignored.item {item : Item} (h : Ignored item.value) :
    ∃ parts, 0 < parts ∧ parts ≤ item.text.length ∧ ∀ fuel bracket outer rest, Ends rest →
      (ignoreValue.go (fuel + parts) (bracket :: outer)).run (item.text ++ rest) =
        (ignoreBetween false (bracket :: outer) >>= onward fuel).run rest := by
  obtain ⟨parts, hpos, hparts, hgo⟩ := h
  refine ⟨parts, hpos, by simp [Item.text]; omega, fun fuel bracket outer rest hrest => ?_⟩
  have hvalue := hgo fuel (bracket :: outer) item.lead (item.behind ++ rest) item.blank_lead
    (ends_append item.blank_behind hrest)
  rw [Item.text, List.append_assoc, List.append_assoc, hvalue]
  exact run_bind_congr (run_ignoreBetween_append item.blank_behind _ _ _ _)

theorem entryIgnored_item {item : Item} (hvalue : IsValue item.value) (h : Ignored item.value) :
    EntryIgnored .array item.text := by
  obtain ⟨parts, hpos, hparts, hgo⟩ := h.item
  constructor
  · obtain ⟨c, cs, heq, hblank, hc, _⟩ := hvalue.exists_eq_cons
    have htext : item.text = item.lead ++ c :: (cs ++ item.behind) := by
      rw [Item.text, heq]
      rfl
    exact ⟨item.lead, c, cs ++ item.behind, item.blank_lead, hblank, hc, htext⟩
  · exact ⟨parts, hpos, hparts, fun fuel outer rest hrest => hgo fuel .array outer rest hrest⟩

theorem run_ignoreKey_entry (entry : Entry) (rest : List Char) :
    (ignoreKey .object).run (entry.text ++ rest) = .ok ((), entry.toItem.text ++ rest) := by
  rw [Entry.text, List.append_assoc, List.cons_append, ignoreKey,
    run_next_of_cons entry.blank_before rfl]
  show (skip >>= fun _ => ignoreString >>= fun _ => next? >>= _ : Reader Unit).run _ = _
  rw [run_bind_of_ok (run_skip _ _), List.append_assoc, List.cons_append,
    run_bind_of_ok (run_ignoreString entry.isBody_key _), Entry.assigned, List.append_assoc,
    List.cons_append, run_next_of_cons entry.blank_gap rfl]
  rfl

theorem entryIgnored_entry {entry : Entry} (h : Ignored entry.value) :
    EntryIgnored .object entry.text := by
  obtain ⟨parts, hpos, hparts, hgo⟩ := h.item
  constructor
  · exact ⟨entry.before, '"', _, entry.blank_before, rfl, by decide, rfl⟩
  · refine ⟨parts, hpos, ?_, fun fuel outer rest hrest => ?_⟩
    · simp only [Entry.text, Entry.assigned, List.length_append, List.length_cons]
      omega
    · rw [run_bind_of_ok (run_ignoreKey_entry entry rest), hgo fuel .object outer rest hrest]

theorem exists_ignore_continued {bracket : Bracket} {texts : List (List Char)}
    (h : ∀ text ∈ texts, EntryIgnored bracket text) :
    ∃ parts, parts ≤ (continued texts).length ∧ ∀ fuel outer rest,
      (ignoreBetween false (bracket :: outer) >>= onward (fuel + parts)).run
          (continued texts ++ bracket.closer :: rest) =
        (ignoreBetween false outer >>= onward fuel).run rest := by
  -- The parts of the texts add up, and the fuel that is left over goes on.
  induction texts with
  | nil =>
    refine ⟨0, Nat.zero_le _, fun fuel outer rest => ?_⟩
    rw [continued, List.flatMap_nil, StateT.run_bind]
    rw [run_ignoreBetween_closer areBlank_nil, StateT.run_bind, Nat.add_zero]
  | cons text texts ih =>
    obtain ⟨⟨_, parts, hpos, hparts, hgo⟩, htexts⟩ := List.forall_mem_cons.mp h
    obtain ⟨behind, hbehind, hcontinued⟩ := ih htexts
    refine ⟨behind + parts, ?_, fun fuel outer rest => ?_⟩
    · rw [continued_cons, List.length_cons, List.length_append]
      omega
    · have hends : Ends (continued texts ++ bracket.closer :: rest) :=
        ends_continued texts (by cases bracket <;> decide) rest
      rw [continued_cons, List.cons_append, List.append_assoc, StateT.run_bind,
        run_ignoreBetween_comma, ← StateT.run_bind, bind_assoc, ← Nat.add_assoc, ← hcontinued]
      exact hgo (fuel + behind) outer _ hends

theorem run_ignoreKey_append {before : List Char} (h : AreBlank before) (bracket : Bracket)
    (fuel : Nat) (enclosing : List Bracket) (cs : List Char) :
    (ignoreKey bracket >>= fun _ => ignoreValue.go (fuel + 1) enclosing).run (before ++ cs) =
      (ignoreKey bracket >>= fun _ => ignoreValue.go (fuel + 1) enclosing).run cs := by
  cases bracket with
  | array =>
    rw [ignoreKey, pure_bind, ignoreValue.go_succ]
    exact run_bind_congr (run_next_append h _ cs)
  | object => exact run_bind_congr (run_next_append h _ cs)

theorem ignored_listed (bracket : Bracket) {opener : Char} {gap : List Char}
    {texts : List (List Char)}
    (hopener : ∀ enclosing lead cs, AreBlank lead →
      (ignoreValue.part enclosing).run (lead ++ opener :: cs) =
        (ignoreBetween true (bracket :: enclosing)).run cs)
    (hgap : AreBlank gap) (h : ∀ text ∈ texts, EntryIgnored bracket text) :
    Ignored (opener :: listed gap texts bracket.closer) := by
  cases texts with
  | nil =>
    refine ⟨1, Nat.one_pos, by simp, fun fuel enclosing lead rest hlead _ => ?_⟩
    rw [ignoreValue.go_succ, StateT.run_bind, List.cons_append, hopener _ _ _ hlead,
      listed_nil_append]
    exact congrArg (· >>= _) (run_ignoreBetween_closer hgap true bracket enclosing rest)
  | cons text texts =>
    obtain ⟨htext, htexts⟩ := List.forall_mem_cons.mp h
    obtain ⟨⟨before, c, cs, hbefore, hblank, hc, rfl⟩, parts, hpos, hparts, hgo⟩ := htext
    obtain ⟨behind, hbehind, hcontinued⟩ := exists_ignore_continued htexts
    obtain ⟨more, rfl⟩ := Nat.exists_eq_add_one_of_ne_zero hpos.ne'
    -- One part opens the bracket, then the first text is taken and then all others.
    refine ⟨behind + (more + 1) + 1, Nat.succ_pos _, ?_, fun fuel enclosing lead rest hlead _ => ?_⟩
    · have hlisted := congrArg List.length
        (listed_cons_append gap (before ++ c :: cs) texts bracket.closer [])
      simp only [List.length_cons, List.length_append, List.length_nil] at hlisted hparts ⊢
      omega
    · have hends : Ends (continued texts ++ bracket.closer :: rest) :=
        ends_continued texts (by cases bracket <;> decide) rest
      have hfirst := hgo (fuel + behind) enclosing _ hends
      have hparts : fuel + (behind + (more + 1)) = fuel + behind + more + 1 := by omega
      rw [List.append_assoc, List.cons_append, ← Nat.add_assoc (fuel + behind),
        run_ignoreKey_append hbefore, hcontinued] at hfirst
      rw [← Nat.add_assoc, ignoreValue.go_succ, StateT.run_bind, List.cons_append,
        hopener _ _ _ hlead, listed_cons_append, run_ignoreBetween_append hgap, List.append_assoc,
        List.cons_append, run_ignoreBetween_append hbefore, run_ignoreBetween_opened hblank hc,
        ← StateT.run_bind, bind_assoc, hparts]
      exact hfirst

theorem ignored_of_isValue {cs : List Char} (h : IsValue cs) : Ignored cs := by
  induction h with
  | nullWord | trueWord | falseWord =>
    exact ignored_scalar rfl (by decide) (by decide) fun rest _ => run_literal _ rest
  | @positive cs h =>
    obtain ⟨c, tail, heq, hc⟩ := h.exists_eq_cons
    have hnumeral : isNumeral c := by simp [isNumeral, hc]
    have hnumber (rest : List Char) (hrest : Ends rest) := run_ignoreNumber h hrest
    rw [heq] at hnumber ⊢
    refine ignored_scalar (isBlank_of_isNumeral hnumeral) (ne_of_isNumeral hnumeral rfl)
      (ne_of_isNumeral hnumeral rfl) fun rest hrest => ?_
    rw [ignoreScalar_of_isDigit hc]
    exact hnumber rest hrest
  | negative h =>
    exact ignored_scalar rfl (by decide) (by decide) fun rest hrest => run_ignoreNumber h hrest
  | string h =>
    refine ignored_scalar rfl (by decide) (by decide) fun rest _ => ?_
    rw [List.append_assoc]
    exact run_ignoreString h rest
  | @array gap items hgap hvalue ih =>
    refine ignored_listed .array (fun enclosing lead cs hlead => ?_) hgap ?_
    · rw [ignoreValue.part, run_next_of_cons hlead rfl]
      rfl
    · intro text htext
      obtain ⟨item, hitem, rfl⟩ := List.mem_map.mp htext
      exact entryIgnored_item (hvalue item hitem) (ih item hitem)
  | @object gap entries hgap hvalue ih =>
    refine ignored_listed .object (fun enclosing lead cs hlead => ?_) hgap ?_
    · rw [ignoreValue.part, run_next_of_cons hlead rfl]
      rfl
    · intro text htext
      obtain ⟨entry, hentry, rfl⟩ := List.mem_map.mp htext
      exact entryIgnored_entry (ih entry hentry)

end Reader

end NetScript.Json
