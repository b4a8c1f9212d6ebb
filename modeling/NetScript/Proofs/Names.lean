import Mathlib.Data.List.Nodup
import Mathlib.Data.List.TakeWhile
import NetScript.Script.ModelClass

/-!
This module contains the names of variables and attributes in the generated code. They all are a
text without digits in front of an ordinal, so the ordinal can be read from the name.
-/

namespace NetScript

def ordinalIn (name : String) : Nat :=
  Nat.ofDigitChars 10 (name.toList.dropWhile (!·.isDigit)) 0

theorem dropWhile_toDigits (n : Nat) :
    (Nat.toDigits 10 n).dropWhile (!·.isDigit) = Nat.toDigits 10 n := by
  rw [List.dropWhile_eq_self_iff]
  intro hpos
  have hdigit : (Nat.toDigits 10 n)[0].isDigit :=
    Nat.isDigit_of_mem_toDigits (by decide) (by decide) (List.getElem_mem hpos)
  simp [hdigit]

theorem ordinalIn_append {stem : String} (h : stem.toList.all (!·.isDigit)) (ordinal : Nat) :
    ordinalIn (stem ++ toString ordinal) = ordinal := by
  unfold ordinalIn
  rw [String.toList_append, List.dropWhile_append_of_pos (List.all_eq_true.mp h),
    Nat.toString_eq_repr, Nat.toList_repr, dropWhile_toDigits, Nat.ofDigitChars_ten_toDigits]

theorem Ref.code_ne_empty (ref : Ref) : ref.code ≠ "" := by
  cases ref <;> simp [Ref.code]

theorem ordinalIn_output (s : Statement) : ordinalIn s.output.code = s.ordinal := by
  apply ordinalIn_append
  decide

theorem ordinalIn_fieldName (layer : Layer) (ordinal : Nat) :
    ordinalIn (layer.fieldName ordinal) = ordinal := by
  apply ordinalIn_append
  cases layer <;> decide

theorem ordinalIn_callee (s : Statement) : ordinalIn s.callee = s.ordinal :=
  ordinalIn_fieldName _ _

theorem nodup_map_of_ordinalIn {statements : List Statement} {name : Statement → String}
    (hname : ∀ s, ordinalIn (name s) = s.ordinal) (h : (statements.map (·.ordinal)).Nodup) :
    (statements.map name).Nodup := by
  apply List.Nodup.of_map ordinalIn
  rw [List.map_map]
  have hcomp : ordinalIn ∘ name = (·.ordinal) := funext hname
  rw [hcomp]
  exact h

end NetScript
