import NetScript.Proofs.Json.Grammar
import NetScript.Proofs.Json.Local

/-!
This module contains the numbers that are read back from their text. All integers of 64 bits are.
A float need not be, since the reader does not round as exactly as the writer expects. But if it is
read back from its text alone, then it is also read back inside of a document.
-/

namespace NetScript

namespace Json

open Grammar

namespace Reader

theorem ne_of_isDigit {c d : Char} (h : isDigit c) (hd : isDigit d = false) : c ≠ d := by
  rintro rfl
  rw [h] at hd
  cases hd

theorem scalar_of_isDigit {c : Char} (h : isDigit c) :
    scalar c = do return .number (← number false) := by
  unfold scalar
  rw [if_neg (ne_of_isDigit h rfl), if_neg (ne_of_isDigit h rfl), if_neg (ne_of_isDigit h rfl),
    if_neg (ne_of_isDigit h rfl), if_pos h]

theorem le_ofDigitChars (cs : List Char) (n : Nat) : n ≤ Nat.ofDigitChars 10 cs n := by
  induction cs generalizing n with
  | nil => exact Nat.le_refl n
  | cons c cs ih =>
    rw [Nat.ofDigitChars_cons]
    have := ih (10 * n + (c.toNat - '0'.toNat))
    omega

theorem absorb_eq {limit n : Nat} {cs : List Char} (h : Nat.ofDigitChars 10 cs n ≤ limit) :
    absorb limit n (cs.map digitValue) = (Nat.ofDigitChars 10 cs n, []) := by
  induction cs generalizing n with
  | nil => rfl
  | cons c cs ih =>
    rw [Nat.ofDigitChars_cons, Nat.mul_comm] at h ⊢
    have hle := le_ofDigitChars cs (n * 10 + digitValue c)
    rw [List.map_cons, absorb, if_pos (Nat.le_trans hle h)]
    exact ih h

theorem isDigit_of_mem_toDigits {n : Nat} {c : Char} (h : c ∈ Nat.toDigits 10 n) : isDigit c :=
  Nat.isDigit_of_mem_toDigits (by decide) (by decide) h

theorem exists_toDigits_eq_cons {n : Nat} (h : n ≠ 0) :
    ∃ c cs, Nat.toDigits 10 n = c :: cs ∧ c ≠ '0' := by
  have hdigit : ∀ digit < 10, digit ≠ 0 → digit.digitChar ≠ '0' := by decide
  induction n using Nat.strongRecOn with
  | ind n ih =>
    by_cases hlt : n < 10
    · exact ⟨_, _, Nat.toDigits_of_lt_base hlt, hdigit n hlt h⟩
    · obtain ⟨c, cs, heq, hc⟩ := ih (n / 10) (by omega) (by omega)
      refine ⟨c, cs ++ [(n % 10).digitChar], ?_, hc⟩
      rw [Nat.toDigits_of_base_le (by decide) (by omega), heq, List.cons_append]

theorem run_digits_append {cs rest : List Char} (h : ∀ c ∈ cs, isDigit c)
    (hrest : rest.head?.any isDigit = false) :
    digits.run (cs ++ rest) = .ok (cs.map digitValue, rest) := by
  rw [run_digits, takeWhile_isDigit_append cs hrest, dropWhile_isDigit_append cs hrest,
    List.takeWhile_eq_self_iff.mpr h, List.dropWhile_eq_nil_iff.mpr h, List.nil_append]

theorem run_whole_append {cs rest : List Char} (h : IsWhole cs)
    (hrest : rest.head?.any isDigit = false) :
    whole.run (cs ++ rest) = .ok (cs.map digitValue, rest) := by
  rw [whole_eq, run_bind_of_ok rfl]
  cases h with
  | zero =>
    show (do if (← peek?).any isDigit then _ else _ : Reader _).run rest = _
    rw [run_bind_of_ok rfl, if_neg (by simp [hrest])]
    rfl
  | @digits c cs hc h =>
    rw [List.cons_append, List.head?_cons]
    show (if !isDigit c then _ else if c = '0' then _ else digits : Reader _).run _ = _
    rw [if_neg (by simp [h.2]), if_neg hc]
    exact run_digits_append h.2 hrest

theorem isWhole_toDigits (n : Nat) : IsWhole (Nat.toDigits 10 n) := by
  by_cases hzero : n = 0
  · subst hzero
    exact .zero
  · obtain ⟨c, cs, heq, hc⟩ := exists_toDigits_eq_cons hzero
    rw [heq]
    refine .digits hc ⟨List.cons_ne_nil c cs, fun d hd => ?_⟩
    exact isDigit_of_mem_toDigits (heq ▸ hd)

theorem run_fraction?_of_ends {rest : List Char} (h : Ends rest) :
    fraction?.run rest = .ok (none, rest) := by
  rw [fraction?, run_bind_of_ok rfl, if_neg (h.head?_ne (by decide))]
  rfl

theorem Ends.not_mark {rest : List Char} (h : Ends rest) :
    ¬(decide (rest.head? = some 'e') || decide (rest.head? = some 'E')) := by
  simp [h.head?_ne (c := 'e') (by decide), h.head?_ne (c := 'E') (by decide)]

theorem run_exponent?_of_ends {rest : List Char} (h : Ends rest) :
    exponent?.run rest = .ok (none, rest) := by
  rw [exponent?, run_bind_of_ok rfl]
  dsimp only
  rw [if_neg h.not_mark]
  rfl

theorem reads_number {n : Nat} (h : n ≤ significandLimit) (negative : Bool) :
    Reads (number negative) (Nat.toDigits 10 n) (ofSignificand negative n) := by
  intro rest hrest
  have habsorb : absorb significandLimit 0 ((Nat.toDigits 10 n).map digitValue) = (n, []) := by
    have hvalue : Nat.ofDigitChars 10 (Nat.toDigits 10 n) 0 = n := Nat.ofDigitChars_ten_toDigits
    rw [absorb_eq (by rw [hvalue]; exact h), hvalue]
  rw [number, run_bind_of_ok (run_whole_append (isWhole_toDigits n) hrest.any_isDigit), habsorb]
  dsimp only
  rw [run_bind_of_ok (run_fraction?_of_ends hrest), run_bind_of_ok (run_exponent?_of_ends hrest)]
  rfl

def isNumeral (c : Char) : Bool :=
  isDigit c || ['-', '+', '.', 'e'].contains c

theorem isNumeral_of_mem_digits {d : Decimal} {c : Char} (h : c ∈ d.digits) : isNumeral c := by
  simp [isNumeral, isDigit_of_mem_toDigits h]

theorem isNumeral_of_mem_positional {d : Decimal} {c : Char} (h : c ∈ d.positional) :
    isNumeral c := by
  have hdigits := @isNumeral_of_mem_digits d
  have hzero : isNumeral '0' := rfl
  have hpoint : isNumeral '.' := rfl
  unfold Decimal.positional at h
  grind [List.mem_of_mem_take, List.mem_of_mem_drop]

theorem isNumeral_of_mem_scientific {d : Decimal} {c : Char} (h : c ∈ d.scientific) :
    isNumeral c := by
  have hdigits := @isNumeral_of_mem_digits d
  have hpoint : isNumeral '.' := rfl
  have hmark : isNumeral 'e' := rfl
  have hplus : isNumeral '+' := rfl
  have hminus : isNumeral '-' := rfl
  have hexponent : ∀ c ∈ Nat.toDigits 10 d.leadingExponent.natAbs, isNumeral c := by
    intro c hc
    simp [isNumeral, isDigit_of_mem_toDigits hc]
  unfold Decimal.scientific at h
  grind

theorem isNumeral_of_mem_finite {d : Decimal} {c : Char} (h : c ∈ numberFormat.finite d) :
    isNumeral c := by
  unfold NumberFormat.finite at h
  split at h
  · rcases List.mem_append.mp h with h | h
    · exact isNumeral_of_mem_positional h
    · split at h
      · simp only [numberFormat, List.mem_cons, List.not_mem_nil, or_false] at h
        rcases h with rfl | rfl <;> rfl
      · cases h
  · exact isNumeral_of_mem_scientific h

theorem finite_ne_nil (d : Decimal) : numberFormat.finite d ≠ [] := by
  have hdigits : d.digits ≠ [] := Nat.toDigits_ne_nil
  unfold NumberFormat.finite Decimal.positional
  dsimp only
  split
  · split
    · simp [hdigits]
    · split <;> simp
  · simp [Decimal.scientific]

theorem isBlank_of_isNumeral {c : Char} (h : isNumeral c) : isBlank c = false := by
  cases hblank : isBlank c with
  | false => rfl
  | true =>
    simp only [isBlank, Bool.or_eq_true, decide_eq_true_eq] at hblank
    rcases hblank with ((rfl | rfl) | rfl) | rfl <;> cases h

theorem ne_of_isNumeral {c d : Char} (h : isNumeral c) (hd : isNumeral d = false) : c ≠ d := by
  rintro rfl
  rw [h] at hd
  cases hd

end Reader

open Reader

theorem Number.render_float_cases (x : Binary64) :
    (Number.float x).render = ['n', 'u', 'l', 'l'] ∨
      ((Number.float x).render ≠ [] ∧ ∀ c ∈ (Number.float x).render, isNumeral c) := by
  have hfinite (d : Decimal) : ∀ c ∈ numberFormat.finite d, isNumeral c :=
    fun c => isNumeral_of_mem_finite
  rw [Number.render, NumberFormat.render]
  split
  · exact .inl rfl
  split
  · split <;> exact .inl rfl
  · right
    dsimp only
    split
    · exact ⟨by simp, by simpa using ⟨rfl, hfinite _⟩⟩
    · exact ⟨finite_ne_nil _, hfinite _⟩

def Number.InRange : Number → Prop
  | .int i => -0x8000000000000000 ≤ i ∧ i ≤ 0xffffffffffffffff
  | .float _ => True

def ReadsBack (x : Binary64) : Prop :=
  parse (Json.number (.float x)).compress = .ok (.number (.float x))

namespace Reader

theorem reads_of_digit {c : Char} {cs : List Char} {n : Number} (hc : isDigit c)
    (h : Reads (number false) (c :: cs) n) (depth : Nat) :
    Reads (value depth) (c :: cs) (.number n) := by
  have hnumeral : isNumeral c := by simp [isNumeral, hc]
  intro rest hrest
  rw [List.cons_append, run_value_of_scalar (isBlank_of_isNumeral hnumeral)
    (ne_of_isNumeral hnumeral rfl) (ne_of_isNumeral hnumeral rfl), scalar_of_isDigit hc]
  exact h.map Json.number rest hrest

theorem reads_of_minus {cs : List Char} {n : Number} (h : Reads (number true) cs n) (depth : Nat) :
    Reads (value depth) ('-' :: cs) (.number n) := by
  intro rest hrest
  rw [List.cons_append, run_value_of_scalar rfl (by decide) (by decide)]
  exact h.map Json.number rest hrest

theorem reads_int {i : Int} (h : (Number.int i).InRange) (depth : Nat) :
    Reads (value depth) (Number.int i).render (.number (.int i)) := by
  have hlimit : significandLimit = 0xffffffffffffffff := rfl
  obtain ⟨hlow, hhigh⟩ := h
  cases i with
  | ofNat n =>
    rw [Int.ofNat_eq_natCast] at hhigh
    have hread := reads_number (n := n) (by omega) false
    have hdigits : ∀ c ∈ Nat.toDigits 10 n, isDigit c := fun c => isDigit_of_mem_toDigits
    rw [Number.render]
    obtain ⟨c, cs, heq⟩ := List.exists_cons_of_ne_nil (Nat.toDigits_ne_nil (n := n) (b := 10))
    rw [heq] at hread hdigits ⊢
    exact reads_of_digit (hdigits c List.mem_cons_self) hread depth
  | negSucc n =>
    have hread := reads_number (n := n + 1) (by omega) true
    have hsign : ofSignificand true (n + 1) = .int (.negSucc n) := by
      have hbounds : (decide (1 ≤ n + 1) && decide (n + 1 ≤ 0x8000000000000000)) = true := by
        simp
        omega
      rw [ofSignificand, if_neg (by decide), if_pos hbounds]
      rfl
    rw [hsign] at hread
    exact reads_of_minus hread depth

theorem readsBack_of_digit {x : Binary64} {c : Char} {cs : List Char}
    (hrender : (Number.float x).render = c :: cs) (hc : isDigit c)
    (h : (number false).run (c :: cs) = .ok (.float x, [])) : ReadsBack x := by
  have hreads := reads_of_digit hc ((local_number false).reads h) maxDepth
  rw [← hrender] at hreads
  exact hreads.parseWith_eq

theorem readsBack_of_minus {x : Binary64} {cs : List Char}
    (hrender : (Number.float x).render = '-' :: cs)
    (h : (number true).run cs = .ok (.float x, [])) : ReadsBack x := by
  have hreads := reads_of_minus ((local_number true).reads h) maxDepth
  rw [← hrender] at hreads
  exact hreads.parseWith_eq

theorem number_of_run_scalar {c : Char} {cs left : List Char} {n : Number} (hc : isNumeral c)
    (h : (scalar c).run (c :: cs) = .ok (.number n, left)) :
    (isDigit c ∧ (number false).run (c :: cs) = .ok (n, left)) ∨
      (c = '-' ∧ (number true).run cs = .ok (n, left)) := by
  by_cases hdigit : isDigit c
  · rw [scalar_of_isDigit hdigit] at h
    obtain ⟨n, rest, hnumber, hpure⟩ := exists_of_run_bind h
    cases hpure
    exact .inl ⟨hdigit, hnumber⟩
  · have hmem : c ∈ ['-', '+', '.', 'e'] := by simpa [isNumeral, hdigit] using hc
    simp only [List.mem_cons, List.not_mem_nil, or_false] at hmem
    rcases hmem with rfl | rfl | rfl | rfl
    · change (number true >>= fun n => pure (Json.number n)).run cs = _ at h
      obtain ⟨n, rest, hnumber, hpure⟩ := exists_of_run_bind h
      cases hpure
      exact .inr ⟨rfl, hnumber⟩
    all_goals cases h

theorem reads_float {x : Binary64} (h : ReadsBack x) (depth : Nat) :
    Reads (value depth) (Number.float x).render (.number (.float x)) := by
  obtain ⟨left, hrun, hblank⟩ := parseWith_eq_ok_iff.mp h
  rw [compress, String.toList_ofList, render] at hrun
  rcases Number.render_float_cases x with hnull | ⟨hne, hnumeral⟩
  · -- no number is read from `null`
    rw [hnull] at hrun
    cases hrun
  · obtain ⟨c, cs, heq⟩ := List.exists_cons_of_ne_nil hne
    rw [heq] at hrun hnumeral ⊢
    have hc := hnumeral c List.mem_cons_self
    -- What is left behind the number would have to be blank.
    have hleft (hsuffix : left <:+ c :: cs) : left = [] := by
      rw [List.eq_nil_iff_forall_not_mem]
      intro d hd
      have hnot := isBlank_of_isNumeral (hnumeral d (hsuffix.subset hd))
      rw [hblank d hd] at hnot
      cases hnot
    rw [run_value_of_scalar (isBlank_of_isNumeral hc) (ne_of_isNumeral hc rfl)
      (ne_of_isNumeral hc rfl)] at hrun
    rcases number_of_run_scalar hc hrun with ⟨hdigit, hnumber⟩ | ⟨rfl, hnumber⟩
    · have hsuffix := (local_number false).suffix hnumber
      rw [hleft hsuffix] at hnumber
      exact reads_of_digit hdigit ((local_number false).reads hnumber) depth
    · have hsuffix := (local_number true).suffix hnumber
      rw [hleft (hsuffix.trans (List.suffix_cons _ cs))] at hnumber
      exact reads_of_minus ((local_number true).reads hnumber) depth

end Reader

end Json

end NetScript
