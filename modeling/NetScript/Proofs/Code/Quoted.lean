import Mathlib.Algebra.Group.Nat.Defs
import Mathlib.Logic.Function.Basic
import NetScript.Code.Reader.Quoted

/-!
This module contains the string literals that are read back. The literal of a text is read to its
end, whatever stands behind it, and no sooner.
-/

namespace NetScript.Code

namespace Reader

theorem hexadecimal?_go (width extra n m : Nat) (digits rest : List Char) :
    hexadecimal? (width + extra) n (Text.hexPadded.go width m digits ++ rest) =
      hexadecimal? extra (16 ^ width * n + m % 16 ^ width) (digits ++ rest) := by
  induction width generalizing extra m digits with
  | zero => simp [Text.hexPadded.go, Nat.mod_one]
  | succ width ih =>
    have hdigit : Text.hexValue? (m % 16).digitChar = some (m % 16) :=
      Text.hexValue?_digitChar (Nat.mod_lt _ (by decide))
    rw [Text.hexPadded.go, Nat.add_assoc, Nat.add_comm 1 extra, ih, List.cons_append,
      hexadecimal?, hdigit]
    dsimp only
    congr 1
    rw [Nat.pow_succ, Nat.mul_comm (16 ^ width) 16, Nat.mod_mul, Nat.mul_assoc, Nat.mul_add]
    omega

theorem hexadecimal?_hexPadded {width n : Nat} (h : n < 16 ^ width) (rest : List Char) :
    hexadecimal? width 0 (Text.hexPadded width n ++ rest) = some (n, rest) := by
  have hgo := hexadecimal?_go width 0 0 n [] rest
  rwa [Nat.mul_zero, Nat.zero_add, Nat.mod_eq_of_lt h] at hgo

theorem numberedCharacter?_hexPadded {width : Nat} {c : Char} (h : c.toNat < 16 ^ width)
    (rest : List Char) :
    numberedCharacter? width (Text.hexPadded width c.toNat ++ rest) = some (c, rest) := by
  have hvalid : c.toNat.isValidChar := c.valid
  rw [numberedCharacter?, hexadecimal?_hexPadded h]
  dsimp only
  rw [if_pos hvalid, Char.ofNat_toNat]

theorem toNat_lt (c : Char) : c.toNat < 0x110000 := by
  have hvalid : c.toNat.isValidChar := c.valid
  rcases hvalid with hlow | ⟨_, hhigh⟩
  · omega
  · exact hhigh

theorem character?_escape (c : Char) (rest : List Char) :
    character? (escape c ++ rest) = some (c, rest) := by
  unfold escape
  -- The characters that are escaped by a letter come first.
  iterate 5
    split
    · next h =>
      subst h
      rfl
  split
  · next hbackslash hquote _ _ _ hplain =>
    rw [List.singleton_append, character?, if_neg hbackslash, if_pos (by simp [hplain, hquote])]
  · split
    · next hlt => exact numberedCharacter?_hexPadded hlt rest
    · split
      · next hlt => exact numberedCharacter?_hexPadded hlt rest
      · exact numberedCharacter?_hexPadded (Nat.lt_trans (toNat_lt c) (by decide)) rest

theorem textBody?_quote (rest : List Char) : textBody? ('"' :: rest) = some ([], rest) := by
  rw [textBody?]

theorem textBody?_of_character? {cs rest : List Char} {c : Char}
    (h : character? cs = some (c, rest)) :
    textBody? cs = (textBody? rest).map fun (read, rest) => (c :: read, rest) := by
  rw [textBody?.eq_def]
  split
  · cases h
  · split <;> simp_all

theorem textBody?_flatMap (cs rest : List Char) :
    textBody? (cs.flatMap escape ++ '"' :: rest) = some (cs, rest) := by
  induction cs with
  | nil => exact textBody?_quote rest
  | cons c cs ih =>
    rw [List.flatMap_cons, List.append_assoc, textBody?_of_character? (character?_escape c _), ih]
    rfl

theorem text?_quoted (s : String) (rest : List Char) :
    text? ((quoted s).toList ++ rest) = some (s, rest) := by
  have hquoted : (quoted s).toList ++ rest = '"' :: (s.toList.flatMap escape ++ '"' :: rest) := by
    simp [quoted]
  rw [hquoted, text?, if_pos rfl, textBody?_flatMap]
  simp

/-! A literal that is read is also read if something follows. -/

theorem hexadecimal?_append {width n m : Nat} {cs rest : List Char}
    (h : hexadecimal? width n cs = some (m, rest)) (behind : List Char) :
    hexadecimal? width n (cs ++ behind) = some (m, rest ++ behind) := by
  induction width generalizing n cs with
  | zero =>
    cases h
    rfl
  | succ width ih =>
    cases cs with
    | nil => cases h
    | cons c cs =>
      rw [List.cons_append, hexadecimal?]
      rw [hexadecimal?] at h
      split at h
      · exact ih h
      · cases h

theorem numberedCharacter?_append {width : Nat} {cs rest : List Char} {c : Char}
    (h : numberedCharacter? width cs = some (c, rest)) (behind : List Char) :
    numberedCharacter? width (cs ++ behind) = some (c, rest ++ behind) := by
  unfold numberedCharacter? at h ⊢
  split at h
  · next hdigits =>
    rw [hexadecimal?_append hdigits]
    split at h
    · next hvalid =>
      cases h
      exact if_pos hvalid
    · cases h
  · cases h

theorem escape?_append {cs rest : List Char} {c : Char} (h : escape? cs = some (c, rest))
    (behind : List Char) : escape? (cs ++ behind) = some (c, rest ++ behind) := by
  cases cs with
  | nil => cases h
  | cons mark cs =>
    rw [List.cons_append, escape?]
    rw [escape?] at h
    cases hwidth : numberedEscapes.lookup mark with
    | some width =>
      rw [hwidth] at h
      exact numberedCharacter?_append h behind
    | none =>
      rw [hwidth] at h
      obtain ⟨d, hlookup, hd⟩ := Option.map_eq_some_iff.mp h
      cases hd
      rw [hlookup]
      rfl

theorem character?_append {cs rest : List Char} {c : Char} (h : character? cs = some (c, rest))
    (behind : List Char) : character? (cs ++ behind) = some (c, rest ++ behind) := by
  cases cs with
  | nil => cases h
  | cons d cs =>
    rw [List.cons_append, character?]
    rw [character?] at h
    split at h
    · next hbackslash =>
      rw [if_pos hbackslash]
      exact escape?_append h behind
    · next hbackslash =>
      rw [if_neg hbackslash]
      split at h
      · next hplain =>
        cases h
        exact if_pos hplain
      · cases h

theorem textBody?_append {cs read rest : List Char} (h : textBody? cs = some (read, rest))
    (behind : List Char) : textBody? (cs ++ behind) = some (read, rest ++ behind) := by
  fun_induction textBody? cs generalizing read rest with
  | case1 tail =>
    cases h
    exact textBody?_quote _
  | case2 cs hquote c tail hcharacter hlt ih =>
    obtain ⟨⟨found, left⟩, htail, heq⟩ := Option.map_eq_some_iff.mp h
    cases heq
    rw [textBody?_of_character? (character?_append hcharacter behind), ih htail]
    rfl
  | case3 cs hquote hcharacter => cases h

theorem text?_append {cs rest : List Char} {s : String} (h : text? cs = some (s, rest))
    (behind : List Char) : text? (cs ++ behind) = some (s, rest ++ behind) := by
  cases cs with
  | nil => cases h
  | cons c cs =>
    rw [List.cons_append, text?]
    rw [text?] at h
    split at h
    · next hquote =>
      obtain ⟨⟨found, left⟩, hbody, heq⟩ := Option.map_eq_some_iff.mp h
      cases heq
      rw [if_pos hquote, textBody?_append hbody]
      rfl
    · cases h

end Reader

open Reader

theorem quoted_unambiguous :
    (∀ (s : String) (rest : List Char), text? ((quoted s).toList ++ rest) = some (s, rest)) ∧
    Function.Injective quoted ∧
    (∀ (s t : String) (rest left : List Char),
      (quoted s).toList ++ rest = (quoted t).toList ++ left → s = t ∧ rest = left) ∧
    ∀ (s : String) (before behind : List Char),
      (quoted s).toList = before ++ behind → behind ≠ [] → text? before = none := by
  have hsame (s t : String) (rest left : List Char)
      (h : (quoted s).toList ++ rest = (quoted t).toList ++ left) : s = t ∧ rest = left := by
    have hread := text?_quoted s rest
    rw [h, text?_quoted] at hread
    cases hread
    exact ⟨rfl, rfl⟩
  refine ⟨text?_quoted, fun s t h => ?_, hsame, fun s before behind h hbehind => ?_⟩
  · exact (hsame s t [] [] (by rw [h])).1
  · cases hread : text? before with
    | none => rfl
    | some found =>
      -- A literal that ends early would also end there with the rest behind it.
      have hquoted := text?_quoted s []
      rw [List.append_nil, h, text?_append hread] at hquoted
      have hrest : found.2 ++ behind = [] := (Prod.mk.inj (Option.some.inj hquoted)).2
      exact absurd (List.append_eq_nil_iff.mp hrest).2 hbehind

end NetScript.Code
