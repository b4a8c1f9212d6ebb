import NetScript.Proofs.Json.Outcome

/-!
This module contains what comes of the texts of strings and numbers. Neither the end of a number nor
a surrogate at the end of a string makes the readers depend on what follows.
-/

namespace NetScript.Json

open Grammar

namespace Reader

theorem hexEscape_of_hexNumber? {a b c d : Char} {n : Nat} (h : hexNumber? a b c d = some n)
    (cs : List Char) : hexEscape (a :: b :: c :: d :: cs) = .ok (n, cs) := by
  simp only [hexNumber?, Option.bind_eq_bind, Option.bind_eq_some_iff, Option.pure_def,
    Option.some.injEq] at h
  obtain ⟨a', ha, b', hb, c', hc, d', hd, rfl⟩ := h
  simp [hexEscape, hexEscape.digits?, ha, hb, hc, hd]

theorem isLowSurrogate_of_isHighSurrogate {n : Nat} (h : isHighSurrogate n) :
    isLowSurrogate n = false := by
  simp only [isHighSurrogate, Bool.and_eq_true, decide_eq_true_eq] at h
  simp only [isLowSurrogate, Bool.and_eq_false_iff, decide_eq_false_iff_not]
  omega

theorem numberedEscape_of_basic {a b c d : Char} {n : Nat} (hn : hexNumber? a b c d = some n)
    (hlow : isLowSurrogate n = false) (hhigh : isHighSurrogate n = false) (cs : List Char) :
    numberedEscape (a :: b :: c :: d :: cs) = .ok (Char.ofNat n, cs) := by
  rw [numberedEscape, hexEscape_of_hexNumber? hn]
  show (if isLowSurrogate n then _ else if isHighSurrogate n then _ else _) = _
  rw [hlow, hhigh]
  rfl

theorem numberedEscape_of_high {a b c d : Char} {n : Nat} (hn : hexNumber? a b c d = some n)
    (hhigh : isHighSurrogate n) (cs : List Char) :
    numberedEscape (a :: b :: c :: d :: cs) =
      pairMark '\\' cs >>= pairMark 'u' >>= hexEscape >>= fun second =>
        if isLowSurrogate second.1 then
          .ok (Char.ofNat ((n - 0xd800) * 0x400 + (second.1 - 0xdc00) + 0x10000), second.2)
        else
          .error (failure .loneSurrogate second.2) := by
  rw [numberedEscape, hexEscape_of_hexNumber? hn]
  simp only [bind_assoc]
  show (if isLowSurrogate n then _ else if isHighSurrogate n then _ else _) = _
  rw [isLowSurrogate_of_isHighSurrogate hhigh, hhigh]
  rfl

theorem escape_of_escapes {text : List Char} {c : Char} (h : Escapes text c) (cs : List Char) :
    escape (text ++ cs) = .ok (c, cs) := by
  cases h with
  | simple h => rw [List.singleton_append, escape, h]
  | numbered hn hlow hhigh => exact numberedEscape_of_basic hn hlow hhigh cs
  | pair hn hhigh hm hlow =>
    show numberedEscape (_ :: _ :: _ :: _ :: _) = _
    rw [numberedEscape_of_high hn hhigh]
    show (hexEscape (_ :: _ :: _ :: _ :: cs) >>= _) = _
    rw [hexEscape_of_hexNumber? hm]
    show (if isLowSurrogate _ then _ else _) = _
    rw [hlow]
    rfl

theorem pairMark_cases {cs : List Char} (h : IsBody cs) :
    (∀ rest, ∃ failure, pairMark '\\' (cs ++ '"' :: rest) >>= pairMark 'u' = .error failure) ∨
      ∃ a b c d left m, hexNumber? a b c d = some m ∧ IsBody left ∧
        cs = '\\' :: 'u' :: a :: b :: c :: d :: left := by
  cases h with
  | nil => exact .inl fun rest => ⟨_, rfl⟩
  | plain hquote hbackslash hcontrol h =>
    refine .inl fun rest => ?_
    rw [List.cons_append, pairMark, if_neg hbackslash]
    exact ⟨_, rfl⟩
  | @simple c cs hc h =>
    -- An escape by a letter is not the second surrogate that is looked for.
    have hu : c ≠ 'u' := by
      rintro rfl
      cases hc
    refine .inl fun rest => ?_
    rw [List.cons_append, pairMark, if_pos rfl]
    show ∃ failure, pairMark 'u' (c :: (cs ++ '"' :: rest)) = .error failure
    rw [pairMark, if_neg hu]
    exact ⟨_, rfl⟩
  | numbered hnumber h =>
    obtain ⟨m, hm⟩ := Option.isSome_iff_exists.mp hnumber
    exact .inr ⟨_, _, _, _, _, m, hm, h, rfl⟩

theorem numberedEscape_cases {a b c d : Char} {n : Nat} {cs : List Char}
    (hn : hexNumber? a b c d = some n) (h : IsBody cs) :
    (∀ rest, ∃ failure,
      numberedEscape (a :: b :: c :: d :: (cs ++ '"' :: rest)) = .error failure) ∨
      ∃ text char left, Escapes text char ∧ IsBody left ∧
        'u' :: a :: b :: c :: d :: cs = text ++ left := by
  cases hlow : isLowSurrogate n with
  | true =>
    refine .inl fun rest => ?_
    rw [numberedEscape, hexEscape_of_hexNumber? hn]
    show ∃ failure, (if isLowSurrogate n then _ else _) = Except.error failure
    rw [hlow]
    exact ⟨_, rfl⟩
  | false =>
    cases hhigh : isHighSurrogate n with
    | false => exact .inr ⟨_, _, cs, .numbered hn hlow hhigh, h, rfl⟩
    | true =>
      -- This is the first surrogate of a pair, and only the second one may follow.
      rcases pairMark_cases h with hfails | ⟨a', b', c', d', left, m, hm, hleft, rfl⟩
      · refine .inl fun rest => ?_
        obtain ⟨failure, hfailure⟩ := hfails rest
        rw [numberedEscape_of_high hn hhigh, hfailure]
        exact ⟨_, rfl⟩
      · cases hpair : isLowSurrogate m with
        | true => exact .inr ⟨_, _, left, .pair hn hhigh hm hpair, hleft, rfl⟩
        | false =>
          refine .inl fun rest => ?_
          rw [numberedEscape_of_high hn hhigh]
          show ∃ failure, (hexEscape (_ :: _ :: _ :: _ :: (left ++ '"' :: rest)) >>= _) =
            .error failure
          rw [hexEscape_of_hexNumber? hm]
          show ∃ failure, (if isLowSurrogate m then _ else _) = Except.error failure
          rw [hpair]
          exact ⟨_, rfl⟩

theorem escape_cases {cs : List Char} (h : IsBody ('\\' :: cs)) :
    (∀ rest, ∃ failure, escape (cs ++ '"' :: rest) = .error failure) ∨
      ∃ text char left, Escapes text char ∧ IsBody left ∧ cs = text ++ left := by
  cases h with
  | plain _ hbackslash => exact absurd rfl hbackslash
  | @simple c cs hc h =>
    obtain ⟨char, hchar⟩ := Option.isSome_iff_exists.mp hc
    exact .inr ⟨[c], char, cs, .simple hchar, h, rfl⟩
  | numbered hnumber h =>
    obtain ⟨n, hn⟩ := Option.isSome_iff_exists.mp hnumber
    exact numberedEscape_cases hn h

theorem stringBody.go_backslash_of_error {cs : List Char} {failure : Failure}
    (h : Reader.escape cs = .error failure) (read : List Char) :
    go ('\\' :: cs) read = .error failure := by
  rw [go.eq_def]
  simp only [↓reduceIte, Char.reduceEq]
  split <;> simp_all

theorem stringBody.go_of_spells {cs s : List Char} (h : Spells cs s) (read rest : List Char) :
    go (cs ++ '"' :: rest) read = .ok (String.ofList (read.reverse ++ s), rest) := by
  induction h generalizing read with
  | nil => rw [List.nil_append, go_quote, List.append_nil]
  | plain hquote hbackslash hcontrol h ih =>
    rw [List.cons_append, go_of_plain hquote hbackslash hcontrol, ih]
    simp
  | escape hc h ih =>
    rw [List.cons_append, List.append_assoc, go_backslash (escape_of_escapes hc _), ih]
    simp

theorem stringBody.go_cases {cs : List Char} (h : IsBody cs) :
    (∃ s, Spells cs s) ∨ ∀ read rest, ∃ failure, go (cs ++ '"' :: rest) read = .error failure := by
  -- An escape may take what looks like two of them, so the induction is on the length.
  induction hlength : cs.length using Nat.strongRecOn generalizing cs with
  | ind n ih =>
    subst hlength
    have hescape {tail : List Char} (heq : cs = '\\' :: tail) : (∃ s, Spells cs s) ∨
        ∀ read rest, ∃ failure, go (cs ++ '"' :: rest) read = .error failure := by
      subst heq
      rcases escape_cases h with hfails | ⟨text, char, left, hchar, hleft, rfl⟩
      · refine .inr fun read rest => ?_
        obtain ⟨failure, hfailure⟩ := hfails rest
        exact ⟨failure, go_backslash_of_error hfailure read⟩
      · have hlength : left.length < ('\\' :: (text ++ left)).length := by
          rw [List.length_cons, List.length_append]
          omega
        rcases ih left.length hlength hleft rfl with ⟨s, hs⟩ | hfails
        · exact .inl ⟨char :: s, .escape hchar hs⟩
        · refine .inr fun read rest => ?_
          rw [List.cons_append, List.append_assoc, go_backslash (escape_of_escapes hchar _)]
          exact hfails (char :: read) rest
    cases h with
    | nil => exact .inl ⟨[], .nil⟩
    | @plain c cs hquote hbackslash hcontrol h =>
      rcases ih cs.length (by simp) h rfl with ⟨s, hs⟩ | hfails
      · exact .inl ⟨c :: s, .plain hquote hbackslash hcontrol hs⟩
      · refine .inr fun read rest => ?_
        rw [List.cons_append, go_of_plain hquote hbackslash hcontrol]
        exact hfails (c :: read) rest
    | simple hc h => exact hescape rfl
    | numbered hnumber h => exact hescape rfl

end Reader

/--
The string that stands between quotes, if all its surrogates are paired.
-/
def Grammar.spelled? (body : List Char) : Option String :=
  Reader.taken Reader.stringBody (body ++ ['"'])

theorem Grammar.spelled?_of_spells {body s : List Char} (h : Spells body s) :
    spelled? body = some (String.ofList s) := by
  have hrun : Reader.stringBody.run (body ++ ['"']) = .ok (String.ofList s, []) :=
    Reader.stringBody.go_of_spells h [] []
  rw [spelled?, Reader.taken, Reader.outcome_eq_some_iff.mpr hrun]
  rfl

namespace Reader

variable {α β : Type}

theorem outcome_stringBody {body : List Char} (h : IsBody body) (rest : List Char) :
    outcome stringBody (body ++ '"' :: rest) = (spelled? body).map fun s => (s, rest) := by
  rcases stringBody.go_cases h with ⟨s, hs⟩ | hfails
  · have hrun : stringBody.run (body ++ '"' :: rest) = .ok (String.ofList s, rest) :=
      stringBody.go_of_spells hs [] rest
    rw [outcome_eq_some_iff.mpr hrun, spelled?_of_spells hs]
    rfl
  · have hnone (rest : List Char) : outcome stringBody (body ++ '"' :: rest) = none :=
      outcome_eq_none_iff.mpr (hfails [] rest)
    rw [hnone rest, spelled?, taken, hnone []]
    rfl

theorem spelled?_eq_some_iff {body : List Char} (h : IsBody body) {s : String} :
    spelled? body = some s ↔ Spells body s.toList := by
  constructor
  · intro hs
    rcases stringBody.go_cases h with ⟨cs, hcs⟩ | hfails
    · rw [spelled?_of_spells hcs, Option.some.injEq] at hs
      rwa [← hs, String.toList_ofList]
    · have hnone : outcome stringBody (body ++ ['"']) = none :=
        outcome_eq_none_iff.mpr (hfails [] [])
      rw [spelled?, taken, hnone] at hs
      cases hs
  · intro hs
    rw [spelled?_of_spells hs, String.ofList_toList]

def Stays (reader : Reader α) : Prop :=
  ∃ result : Option α, ∀ cs, outcome reader cs = result.map fun a => (a, cs)

theorem stays_pure (a : α) : Stays (pure a) :=
  ⟨some a, fun _ => rfl⟩

theorem Stays.bind {reader : Reader α} {next : α → Reader β} (h : Stays reader)
    (hnext : ∀ a, Stays (next a)) : Stays (reader >>= next) := by
  obtain ⟨result, hresult⟩ := h
  cases result with
  | none => exact ⟨none, fun cs => by rw [outcome_bind, hresult]; rfl⟩
  | some a =>
    obtain ⟨result, hnext⟩ := hnext a
    exact ⟨result, fun cs => by rw [outcome_bind, hresult]; exact hnext cs⟩

theorem stays_scaled (significand : Nat) (exponent : Int) :
    Stays (scaled significand exponent) := by
  unfold scaled
  split
  · split
    · exact stays_pure _
    · exact ⟨none, fun _ => rfl⟩
  · exact stays_pure _

theorem stays_applyExponent (significand : Nat) (exponent : Int) (negative : Bool)
    (digits : List Nat) : Stays (applyExponent significand exponent negative digits) := by
  unfold applyExponent
  split
  · exact stays_scaled _ _
  · split
    · exact ⟨none, fun _ => rfl⟩
    · exact stays_pure _

def isContinued (c : Char) : Bool :=
  isDigit c || c = '.'

theorem any_isDigit_of_isContinued {rest : List Char} (h : rest.head?.any isContinued = false) :
    rest.head?.any isDigit = false := by
  cases rest with
  | nil => rfl
  | cons c rest =>
    simp only [isContinued, List.head?_cons, Option.any_some, Bool.or_eq_false_iff] at h
    exact h.1

theorem ne_point_of_isContinued {rest : List Char} (h : rest.head?.any isContinued = false) :
    rest.head? ≠ some '.' := by
  intro hhead
  rw [hhead] at h
  cases h

theorem isContinued_exponent {exponent rest : List Char} (h : IsExponent exponent)
    (hrest : Ends rest) : (exponent ++ rest).head?.any isContinued = false := by
  cases h with
  | absent => exact hrest.any_eq_false (by decide)
  | digits hmark => rcases hmark with rfl | rfl <;> rfl

theorem isDigit_fraction {fraction rest : List Char} (h : IsFraction fraction)
    (hrest : rest.head?.any isContinued = false) :
    (fraction ++ rest).head?.any isDigit = false := by
  cases h with
  | absent => exact any_isDigit_of_isContinued hrest
  | digits => rfl

theorem exists_run_fraction? {cs : List Char} (h : IsFraction cs) :
    ∃ found, ∀ rest, rest.head?.any isContinued = false →
      fraction?.run (cs ++ rest) = .ok (found, rest) := by
  cases h with
  | absent =>
    refine ⟨none, fun rest hrest => ?_⟩
    rw [List.nil_append, fraction?, run_bind_of_ok rfl, if_neg (ne_point_of_isContinued hrest)]
    rfl
  | @digits cs h =>
    refine ⟨some (cs.map digitValue), fun rest hrest => ?_⟩
    have hdigits := run_digits_append h.2 (any_isDigit_of_isContinued hrest)
    have hne : (cs.map digitValue).isEmpty = false := by simp [h.1]
    rw [List.cons_append, fraction?, run_bind_of_ok rfl, List.head?_cons, if_pos rfl,
      run_bind_of_ok (run_skip _ _), run_bind_of_ok hdigits, hne]
    rfl

theorem run_exponentDigits {cs rest : List Char} (h : AreDigits cs)
    (hrest : rest.head?.any isDigit = false) (negative : Bool) :
    (exponentDigits negative).run (cs ++ rest) =
      .ok (some (negative, cs.map digitValue), rest) := by
  obtain ⟨c, tail, rfl⟩ := List.exists_cons_of_ne_nil h.1
  have hc : isDigit c := h.2 c List.mem_cons_self
  rw [exponentDigits, run_bind_of_ok rfl, List.cons_append, List.head?_cons]
  dsimp only
  rw [if_pos hc, ← List.cons_append, run_bind_of_ok (run_digits_append h.2 hrest)]
  rfl

theorem exists_run_sign {sign cs : List Char} (hsign : sign = [] ∨ sign = ['+'] ∨ sign = ['-'])
    (h : AreDigits cs) : ∃ mark : Option Char,
      ∀ (next : Option Char → Reader α) (rest : List Char),
        (do
          let sign ← peek?
          if sign = some '+' || sign = some '-' then
            skip
          next sign).run (sign ++ (cs ++ rest)) = (next mark).run (cs ++ rest) := by
  rcases hsign with rfl | rfl | rfl
  · obtain ⟨c, tail, rfl⟩ := List.exists_cons_of_ne_nil h.1
    have hc : isDigit c := h.2 c List.mem_cons_self
    have hplus : c ≠ '+' := ne_of_isDigit hc rfl
    have hminus : c ≠ '-' := ne_of_isDigit hc rfl
    refine ⟨some c, fun next rest => ?_⟩
    rw [List.nil_append, run_bind_of_ok rfl, List.cons_append, List.head?_cons]
    simp [hplus, hminus]
  · exact ⟨some '+', fun next rest => rfl⟩
  · exact ⟨some '-', fun next rest => rfl⟩

theorem exists_run_exponent? {cs : List Char} (h : IsExponent cs) :
    ∃ found, ∀ rest, Ends rest → exponent?.run (cs ++ rest) = .ok (found, rest) := by
  cases h with
  | absent => exact ⟨none, fun rest hrest => run_exponent?_of_ends hrest⟩
  | @digits mark sign cs hmark hsign h =>
    obtain ⟨first, hrun⟩ := exists_run_sign hsign h
    refine ⟨some (first = some '-', cs.map digitValue), fun rest hrest => ?_⟩
    have hmark : exponent?.run (mark :: (sign ++ cs) ++ rest) =
        (do
          let sign ← peek?
          if sign = some '+' || sign = some '-' then
            skip
          exponentDigits (sign = some '-')).run (sign ++ (cs ++ rest)) := by
      rw [List.cons_append, List.append_assoc]
      rcases hmark with rfl | rfl <;> rfl
    rw [hmark, hrun fun sign => exponentDigits (sign = some '-')]
    exact run_exponentDigits h hrest.any_isDigit _

theorem decided_bind_stays {reader : Reader α} {next : α → Reader β} {cs : List Char} {a : α}
    (h : ∀ rest, Ends rest → reader.run (cs ++ rest) = .ok (a, rest)) (hnext : Stays (next a)) :
    Decided (reader >>= next) cs := by
  obtain ⟨result, hresult⟩ := hnext
  exact ⟨result, fun rest hrest => by rw [outcome_bind_of_ok (h rest hrest), hresult rest]⟩

theorem decided_number {cs : List Char} (h : IsMagnitude cs) (negative : Bool) :
    Decided (number negative) cs := by
  obtain @⟨digits, fraction, exponent, hdigits, hfraction, hexponent⟩ := h
  obtain ⟨found, hfound⟩ := exists_run_fraction? hfraction
  obtain ⟨power, hpower⟩ := exists_run_exponent? hexponent
  -- Each part ends where the next one starts, which is never with a digit.
  have hwhole (rest : List Char) (hrest : Ends rest) :
      whole.run (digits ++ (fraction ++ exponent ++ rest)) =
        .ok (digits.map digitValue, fraction ++ exponent ++ rest) := by
    rw [List.append_assoc]
    exact run_whole_append hdigits
      (isDigit_fraction hfraction (isContinued_exponent hexponent hrest))
  have hfound (rest : List Char) (hrest : Ends rest) :
      fraction?.run (fraction ++ (exponent ++ rest)) = .ok (found, exponent ++ rest) :=
    hfound _ (isContinued_exponent hexponent hrest)
  unfold number
  refine decided_bind hwhole ?_
  split
  refine decided_bind hfound ?_
  split
  · refine decided_bind_stays hpower ?_
    split
    · exact (stays_applyExponent _ _ _ _).bind fun _ => stays_pure _
    · exact (stays_scaled _ _).bind fun _ => stays_pure _
  · refine decided_bind_stays hpower ?_
    split
    · exact (stays_applyExponent _ _ _ _).bind fun _ => stays_pure _
    · split
      · exact stays_pure _
      · exact (stays_scaled _ _).bind fun _ => stays_pure _

end Reader

end NetScript.Json
