import Mathlib.Data.List.Chain
import Mathlib.Data.List.Infix
import NetScript.Text.Blank
import NetScript.Text.Lines

/-!
This module contains texts that are made of lines. The lines can be read off the text again, and so
can blocks of lines that are divided by two empty lines, unless a block has two of them in a row.
-/

namespace NetScript.Text

theorem split_of_not_mem {separator : Char} {cs : List Char} (h : separator ∉ cs) :
    split separator cs = [cs] := by
  induction cs with
  | nil => rfl
  | cons c cs ih =>
    rw [List.mem_cons, not_or] at h
    rw [split, if_neg (Ne.symm h.1), ih h.2]

theorem split_append_cons (separator : Char) (a b : List Char) :
    split separator (a ++ separator :: b) = split separator a ++ split separator b := by
  induction a with
  | nil => simp [split]
  | cons c a ih =>
    rw [List.cons_append, split, split, ih]
    split
    · rfl
    · cases h : split separator a with
      | nil => exact absurd h (split_ne_nil _ _)
      | cons piece pieces => rfl

section

variable {lines : List String}

theorem split_unlines (h : ∀ line ∈ lines, '\n' ∉ line.toList) :
    split '\n' (unlines lines).toList = lines.map String.toList ++ [[]] := by
  induction lines with
  | nil => rfl
  | cons line lines ih =>
    rw [List.forall_mem_cons] at h
    rw [toList_unlines, List.flatMap_cons, ← toList_unlines, List.append_assoc,
      List.singleton_append, split_append_cons, split_of_not_mem h.1, ih h.2]
    rfl

theorem count_unlines (h : ∀ line ∈ lines, '\n' ∉ line.toList) :
    (unlines lines).toList.count '\n' = lines.length := by
  induction lines with
  | nil => rfl
  | cons line lines ih =>
    rw [List.forall_mem_cons] at h
    rw [toList_unlines, List.flatMap_cons, ← toList_unlines, List.count_append, ih h.2,
      List.count_append, List.count_eq_zero.mpr h.1]
    simp
    omega

theorem unlines_eq_intercalate (h : lines ≠ []) :
    unlines lines = "\n".intercalate lines ++ "\n" := by
  induction lines with
  | nil => contradiction
  | cons line lines ih =>
    cases lines with
    | nil => simp [unlines]
    | cons next lines =>
      rw [String.intercalate_cons_cons, String.append_assoc, ← ih (by simp),
        ← List.singleton_append, unlines_append]
      simp [unlines]

theorem split_intercalate (hne : lines ≠ []) (h : ∀ line ∈ lines, '\n' ∉ line.toList) :
    split '\n' ("\n".intercalate lines).toList = lines.map String.toList := by
  have hsplit := split_unlines h
  rw [unlines_eq_intercalate hne, String.toList_append] at hsplit
  change split '\n' (_ ++ '\n' :: []) = _ at hsplit
  rw [split_append_cons] at hsplit
  exact List.append_cancel_right hsplit

end

/--
The pieces between the occurrences of a separator, which are looked for from the left. An empty
separator never occurs.
-/
def splitOn (separator : List Char) (cs : List Char) : List (List Char) :=
  match cs with
  | [] => [[]]
  | c :: rest =>
    if separator ≠ [] ∧ separator <+: c :: rest then
      [] :: splitOn separator (rest.drop (separator.length - 1))
    else
      (splitOn separator rest).modifyHead (c :: ·)
termination_by cs.length
decreasing_by
  · simp only [List.length_drop, List.length_cons]
    omega
  · simp

theorem splitOn_of_not_isInfix {separator cs : List Char} (h : ¬separator <:+: cs) :
    splitOn separator cs = [cs] := by
  induction cs with
  | nil => rw [splitOn]
  | cons c cs ih =>
    rw [splitOn, if_neg, ih]
    · rfl
    · intro hoccurs
      apply h
      exact hoccurs.trans (List.suffix_cons c cs).isInfix
    · intro hstart
      apply h
      exact hstart.2.isInfix

theorem splitOn_append {separator a : List Char} (rest : List Char) (hne : separator ≠ [])
    (h : ∀ tail, tail ≠ [] → tail <:+ a → ¬separator <+: tail ++ (separator ++ rest)) :
    splitOn separator (a ++ (separator ++ rest)) = a :: splitOn separator rest := by
  -- The separator must not start in `a`, not even if it ends behind it.
  induction a with
  | nil =>
    obtain ⟨c, cs, rfl⟩ := List.exists_cons_of_ne_nil hne
    rw [List.nil_append, List.cons_append, splitOn, if_pos]
    · simp
    · exact ⟨hne, List.prefix_append (c :: cs) rest⟩
  | cons c a ih =>
    rw [List.cons_append, splitOn, if_neg, ih]
    · rfl
    · intro tail htail hsuffix
      apply h tail htail
      exact hsuffix.trans (List.suffix_cons c a)
    · intro hstart
      exact h (c :: a) (by simp) (List.suffix_refl _) hstart.2

abbrev gap : List Char := ['\n', '\n', '\n']

theorem not_gap_isInfix {cs : List Char}
    (h : (split '\n' cs).IsChain fun a b => a ≠ [] ∨ b ≠ []) : ¬gap <:+: cs := by
  rintro ⟨before, after, rfl⟩
  have hsplit : split '\n' (before ++ gap ++ after) =
      split '\n' before ++ ([] :: [] :: split '\n' after) := by
    rw [List.append_assoc]
    exact split_append_cons '\n' before ('\n' :: '\n' :: after)
  -- Between three newlines there are two empty lines.
  rw [hsplit, List.isChain_append] at h
  simp [List.isChain_cons_cons] at h

theorem splitOn_gap_append {a : List Char} (rest : List Char) (hgap : ¬gap <:+: a)
    (hlast : a.getLast? ≠ some '\n') :
    splitOn gap (a ++ (gap ++ rest)) = a :: splitOn gap rest := by
  apply splitOn_append rest (by simp)
  intro tail hne hsuffix hstart
  rcases List.prefix_or_prefix_of_prefix hstart (List.prefix_append tail _) with hgap' | htail
  · apply hgap
    exact hgap'.isInfix.trans hsuffix.isInfix
  · -- An occurrence that starts in `a` and ends behind it starts with newlines at the end of `a`.
    have hnewline : tail.getLast hne = '\n' := by
      have hmem := htail.subset (List.getLast_mem hne)
      simpa using hmem
    apply hlast
    obtain ⟨front, rfl⟩ := hsuffix
    rw [List.getLast?_append_of_ne_nil _ hne, List.getLast?_eq_some_getLast hne, hnewline]

def endsVisibly (line : String) : Bool :=
  line.toList.getLast?.any (!isBlank ·)

theorem exists_eq_push {line : String} (h : endsVisibly line) :
    ∃ (front : String) (c : Char), line = front.push c ∧ ¬isBlank c := by
  obtain ⟨c, hlast, hc⟩ := (Option.any_eq_true _ _).mp h
  obtain ⟨front, hfront⟩ := List.getLast?_eq_some_iff.mp hlast
  refine ⟨String.ofList front, c, ?_, by simpa using hc⟩
  apply String.toList_inj.mp
  simpa using hfront

theorem ne_empty_of_endsVisibly {line : String} (h : endsVisibly line) : line ≠ "" := by
  rintro rfl
  contradiction

theorem endsVisibly_append (a : String) {b : String} (h : endsVisibly b) :
    endsVisibly (a ++ b) := by
  obtain ⟨front, c, rfl, hc⟩ := exists_eq_push h
  simpa [endsVisibly] using hc

/--
Lines that can stand between two empty lines: there are no two empty lines among them, and the last
one ends with a character that is not blank.
-/
structure Block (lines : List String) : Prop where
  newline_not_mem : ∀ line ∈ lines, '\n' ∉ line.toList
  isChain : lines.IsChain fun a b => a ≠ "" ∨ b ≠ ""
  endsVisibly : lines.getLast?.any Text.endsVisibly

namespace Block

variable {lines : List String}

theorem exists_eq_concat (h : Block lines) :
    ∃ before last, lines = before ++ [last] ∧ Text.endsVisibly last := by
  obtain ⟨last, hlast, hvisible⟩ := (Option.any_eq_true _ _).mp h.endsVisibly
  obtain ⟨before, rfl⟩ := List.getLast?_eq_some_iff.mp hlast
  exact ⟨before, last, rfl, hvisible⟩

theorem ne_nil (h : Block lines) : lines ≠ [] := by
  rintro rfl
  exact absurd h.endsVisibly (by simp)

theorem endsVisibly_intercalate (h : Block lines) :
    Text.endsVisibly ("\n".intercalate lines) := by
  obtain ⟨before, last, rfl, hlast⟩ := h.exists_eq_concat
  cases before with
  | nil => simpa using hlast
  | cons line rest =>
    rw [String.intercalate_append_of_ne_nil (by simp) (by simp), String.intercalate_singleton]
    exact endsVisibly_append _ hlast

theorem trimEnd_intercalate (h : Block lines) :
    trimEnd ("\n".intercalate lines) = "\n".intercalate lines := by
  obtain ⟨front, c, heq, hc⟩ := exists_eq_push h.endsVisibly_intercalate
  rw [heq, trimEnd_of_not_isBlank hc]

theorem trimEnd_unlines (h : Block lines) : trimEnd (unlines lines) = "\n".intercalate lines := by
  have hblank : ∀ c ∈ "\n".toList, isBlank c := List.forall_mem_singleton.mpr (by decide)
  rw [unlines_eq_intercalate h.ne_nil, trimEnd_append_of_isBlank _ hblank, h.trimEnd_intercalate]

theorem isChain_toList (h : Block lines) :
    (lines.map String.toList).IsChain fun a b => a ≠ [] ∨ b ≠ [] := by
  rw [List.isChain_map]
  apply h.isChain.imp
  simp

theorem splitOn_gap_append (h : Block lines) (rest : List Char) :
    splitOn gap (("\n".intercalate lines).toList ++ (gap ++ rest)) =
      ("\n".intercalate lines).toList :: splitOn gap rest := by
  apply Text.splitOn_gap_append
  · apply not_gap_isInfix
    rw [split_intercalate h.ne_nil h.newline_not_mem]
    exact h.isChain_toList
  · obtain ⟨front, c, heq, hc⟩ := exists_eq_push h.endsVisibly_intercalate
    rw [heq, String.toList_push, List.getLast?_concat]
    rintro hnewline
    cases hnewline
    exact hc rfl

theorem splitOn_gap_unlines (h : Block lines) :
    splitOn gap (unlines lines).toList = [(unlines lines).toList] := by
  apply splitOn_of_not_isInfix
  apply not_gap_isInfix
  rw [split_unlines h.newline_not_mem, List.isChain_append]
  refine ⟨h.isChain_toList, List.isChain_singleton _, ?_⟩
  obtain ⟨before, last, rfl, hlast⟩ := h.exists_eq_concat
  simp [ne_empty_of_endsVisibly hlast]

end Block

end NetScript.Text
