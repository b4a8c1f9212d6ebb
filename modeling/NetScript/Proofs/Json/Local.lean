import NetScript.Proofs.Json.Reads

/-!
This module contains the readers that do not depend on what follows a value. What they take from a
text alone they also take if the text goes on behind it. The reader of numbers is one of them,
although it has to look ahead to find the end of a number.
-/

namespace NetScript

namespace Json

namespace Reader

variable {α β : Type}

theorem Ends.any_isDigit {rest : List Char} (h : Ends rest) : rest.head?.any isDigit = false :=
  h.any_eq_false (by decide)

theorem takeWhile_isDigit_append (cs : List Char) {rest : List Char}
    (h : rest.head?.any isDigit = false) :
    (cs ++ rest).takeWhile isDigit = cs.takeWhile isDigit := by
  induction cs with
  | nil =>
    cases rest with
    | nil => rfl
    | cons c rest =>
      have hc : isDigit c = false := by simpa using h
      simp [hc]
  | cons c cs ih =>
    rw [List.cons_append, List.takeWhile_cons, List.takeWhile_cons, ih]

theorem dropWhile_isDigit_append (cs : List Char) {rest : List Char}
    (h : rest.head?.any isDigit = false) :
    (cs ++ rest).dropWhile isDigit = cs.dropWhile isDigit ++ rest := by
  have hparts : (cs ++ rest).takeWhile isDigit ++ (cs ++ rest).dropWhile isDigit =
      (cs ++ rest).takeWhile isDigit ++ (cs.dropWhile isDigit ++ rest) := by
    rw [List.takeWhile_append_dropWhile, takeWhile_isDigit_append cs h, ← List.append_assoc,
      List.takeWhile_append_dropWhile]
  exact List.append_cancel_left hparts

/--
What the reader takes from a text alone it also takes in front of the end of a value.
-/
structure Local (reader : Reader α) : Prop where
  suffix {cs left : List Char} {a : α} (h : reader.run cs = .ok (a, left)) : left <:+ cs
  extend {cs left rest : List Char} {a : α} (h : reader.run cs = .ok (a, left))
    (hrest : Ends rest) : reader.run (cs ++ rest) = .ok (a, left ++ rest)

theorem Local.bind {reader : Reader α} {next : α → Reader β} (h : Local reader)
    (hnext : ∀ a, Local (next a)) : Local (reader >>= next) where
  suffix hrun := by
    obtain ⟨a, rest, hfirst, hsecond⟩ := exists_of_run_bind hrun
    exact ((hnext a).suffix hsecond).trans (h.suffix hfirst)
  extend hrun hrest := by
    obtain ⟨a, rest, hfirst, hsecond⟩ := exists_of_run_bind hrun
    rw [run_bind_of_ok (h.extend hfirst hrest)]
    exact (hnext a).extend hsecond hrest

theorem Local.reads {reader : Reader α} {cs : List Char} {a : α} (h : Local reader)
    (hrun : reader.run cs = .ok (a, [])) : Reads reader cs a :=
  fun _ hrest => h.extend hrun hrest

theorem local_pure (a : α) : Local (pure a : Reader α) where
  suffix h := by
    cases h
    exact List.suffix_rfl
  extend h _ := by
    cases h
    rfl

theorem Local.of_error {reader : Reader α} (h : ∀ cs, ∃ failure, reader.run cs = .error failure) :
    Local reader where
  suffix {cs _ _} hrun := by
    obtain ⟨failure, hfail⟩ := h cs
    cases hfail.symm.trans hrun
  extend {cs _ _ _} hrun := by
    obtain ⟨failure, hfail⟩ := h cs
    cases hfail.symm.trans hrun

theorem local_fail (fault : Fault) : Local (fail fault : Reader α) :=
  .of_error fun _ => ⟨_, rfl⟩

theorem local_failAfter (fault : Fault) : Local (failAfter fault : Reader α) :=
  .of_error fun _ => ⟨_, rfl⟩

theorem run_digits (cs : List Char) :
    digits.run cs = .ok ((cs.takeWhile isDigit).map digitValue, cs.dropWhile isDigit) := rfl

theorem local_digits : Local digits where
  suffix h := by
    rw [run_digits] at h
    cases h
    exact List.dropWhile_suffix _
  extend {cs _ _ _} h hrest := by
    rw [run_digits] at h
    cases h
    rw [run_digits, takeWhile_isDigit_append cs hrest.any_isDigit,
      dropWhile_isDigit_append cs hrest.any_isDigit]

theorem Local.peek {next : Option Char → Reader α}
    (hend : (∃ failure, (next none).run [] = .error failure) ∨
      ∃ a, next none = pure a ∧ ∀ c ∈ terminators, next (some c) = pure a)
    (hsome : ∀ c, Local (next (some c)) ∨
      ∃ behind, Local behind ∧ next (some c) = skip >>= fun _ => behind) :
    Local (peek? >>= next) where
  suffix {cs left a} h := by
    rw [run_bind_of_ok rfl] at h
    cases cs with
    | nil =>
      rcases hend with ⟨failure, hfail⟩ | ⟨b, hnone, _⟩
      · cases hfail.symm.trans h
      · rw [List.head?_nil, hnone] at h
        exact (local_pure b).suffix h
    | cons c cs =>
      rcases hsome c with hlocal | ⟨behind, hlocal, heq⟩
      · exact hlocal.suffix h
      · rw [List.head?_cons, heq, run_bind_of_ok (run_skip c cs)] at h
        exact (hlocal.suffix h).trans (List.suffix_cons c cs)
  extend {cs left rest a} h hrest := by
    rw [run_bind_of_ok rfl] at h ⊢
    cases cs with
    | nil =>
      rcases hend with ⟨failure, hfail⟩ | ⟨b, hnone, hends⟩
      · cases hfail.symm.trans h
      · rw [List.head?_nil, hnone] at h
        cases h
        -- Alone the text ends here, otherwise the end of a value follows.
        have hnext : next rest.head? = pure a := by
          rcases hrest.head?_cases with hhead | ⟨c, hc, hhead⟩ <;> rw [hhead]
          · exact hnone
          · exact hends c hc
        rw [List.nil_append, hnext]
        rfl
    | cons c cs =>
      rcases hsome c with hlocal | ⟨behind, hlocal, heq⟩
      · exact hlocal.extend h hrest
      · rw [List.head?_cons, heq, run_bind_of_ok (run_skip c cs)] at h
        rw [List.cons_append, List.head?_cons, heq, run_bind_of_ok (run_skip c _)]
        exact hlocal.extend h hrest

theorem local_zero : Local (do
    if (← peek?).any isDigit then failAfter .invalidNumber else return [0]) := by
  refine .peek (.inr ⟨[0], rfl, by simp [terminators, isDigit]⟩) fun c => .inl ?_
  split
  · exact local_failAfter _
  · exact local_pure _

theorem whole_eq : whole = peek? >>= fun
    | none => fail .endOfValue
    | some c =>
      if !isDigit c then failAfter .invalidNumber
      else if c = '0' then
        skip >>= fun _ => do
          if (← peek?).any isDigit then failAfter .invalidNumber else return [0]
      else digits := by
  funext cs
  cases cs with
  | nil => rfl
  | cons c cs =>
    show (if !isDigit c then _ else if c = '0' then _ else digits : Reader _).run _ =
      (if !isDigit c then _ else if c = '0' then _ else digits : Reader _).run _
    split
    · rfl
    · split <;> rfl

theorem local_whole : Local whole := by
  -- The definition matches on all that is left, but only its head matters.
  rw [whole_eq]
  refine .peek (.inl ⟨_, rfl⟩) fun c => ?_
  dsimp only
  split
  · exact .inl (local_failAfter _)
  · split
    · exact .inr ⟨_, local_zero, rfl⟩
    · exact .inl local_digits

theorem local_fraction? : Local fraction? := by
  refine .peek (.inr ⟨none, rfl, by simp [terminators]⟩) fun c => ?_
  split
  · refine .inr ⟨_, ?_, rfl⟩
    refine local_digits.bind fun found => ?_
    split
    · refine .peek (.inl ⟨_, rfl⟩) fun c => .inl (local_failAfter _)
    · exact local_pure _
  · exact .inl (local_pure _)

def exponentDigits (negative : Bool) : Reader (Option (Bool × List Nat)) := do
  match ← peek? with
  | none => fail .endOfValue
  | some c =>
    if isDigit c then
      return some (negative, ← digits)
    else
      failAfter .invalidNumber

theorem local_exponentDigits (negative : Bool) : Local (exponentDigits negative) := by
  refine .peek (.inl ⟨_, rfl⟩) fun c => .inl ?_
  dsimp only
  split
  · exact local_digits.bind fun _ => local_pure _
  · exact local_failAfter _

theorem local_exponent? : Local exponent? := by
  refine .peek (.inr ⟨none, rfl, by simp [terminators]⟩) fun c => ?_
  split
  · refine .inr ⟨_, ?_, rfl⟩
    refine .peek (.inl ⟨_, rfl⟩) fun sign => ?_
    dsimp only
    split
    · exact .inr ⟨_, local_exponentDigits _, rfl⟩
    · exact .inl (local_exponentDigits _)
  · exact .inl (local_pure _)

theorem local_scaled (significand : Nat) (exponent : Int) :
    Local (scaled significand exponent) := by
  unfold scaled
  split
  · split
    · exact local_pure _
    · exact local_fail _
  · exact local_pure _

theorem local_applyExponent (significand : Nat) (exponent : Int) (negative : Bool)
    (digits : List Nat) : Local (applyExponent significand exponent negative digits) := by
  unfold applyExponent
  split
  · exact local_scaled _ _
  · split
    · exact .of_error fun _ => ⟨_, rfl⟩
    · exact local_pure _

theorem local_number (negative : Bool) : Local (number negative) := by
  unfold number
  refine local_whole.bind fun found => ?_
  split
  refine Local.bind local_fraction? fun fraction => ?_
  split
  · refine Local.bind local_exponent? fun exponent => ?_
    split
    · exact (local_applyExponent _ _ _ _).bind fun _ => local_pure _
    · exact (local_scaled _ _).bind fun _ => local_pure _
  · refine Local.bind local_exponent? fun exponent => ?_
    split
    · exact (local_applyExponent _ _ _ _).bind fun _ => local_pure _
    · split
      · exact local_pure _
      · exact (local_scaled _ _).bind fun _ => local_pure _

end Reader

end Json

end NetScript
