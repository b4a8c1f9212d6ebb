import NetScript.Node.Basic

/-!
This module contains the camel case of keys, word by word. The main statement is that the camel case
of a key consists of the words between its underscores, all but the first of them capitalized.
Because no underscore is left, a key of one word has no other spelling to be looked up under.
-/

namespace NetScript

namespace Text

def capitalize : List Char → List Char
  | [] => []
  | c :: cs => upperCase c ++ cs

/--
The words one after the other. All but the first one are capitalized.
-/
def joinWords : List (List Char) → List Char
  | [] => []
  | word :: words => word ++ words.flatMap capitalize

theorem eq_toNat_of_ofNat_eq {n : Nat} {c : Char} (h : Char.ofNat n = c) (hc : c.toNat ≠ 0) :
    n = c.toNat := by
  subst h
  by_cases hn : n.isValidChar
  · rw [Char.ofNat, dif_pos hn]
    rfl
  · rw [Char.ofNat, dif_neg hn] at hc
    contradiction

theorem caseTables_avoid_underscore :
    caseWords.all (fun (_, word) => !word.contains 0x5f) ∧
      caseSpans.all fun span => !span.contains (0x5f - span.offset).toNat := by
  decide +kernel

theorem underscore_not_mem_upperCase {c : Char} (h : c ≠ '_') : '_' ∉ upperCase c := by
  obtain ⟨hwords, hspans⟩ := caseTables_avoid_underscore
  intro hmem
  unfold upperCase at hmem
  split at hmem
  · next word hword =>
    obtain ⟨before, after, heq, -⟩ := List.lookup_eq_some_iff.mp hword
    obtain ⟨n, hn, hchar⟩ := List.mem_map.mp hmem
    -- An underscore would have to be in a word of the table, which was checked.
    have hcode : n = 0x5f := eq_toNat_of_ofNat_eq hchar (by decide)
    have havoids := List.all_eq_true.mp hwords (c.toNat, word) (by simp [heq])
    simp [← hcode, hn] at havoids
  · split at hmem
    · next span hspan =>
      have hcode : (c.toNat + span.offset).toNat = 0x5f :=
        eq_toNat_of_ofNat_eq (List.mem_singleton.mp hmem).symm (by decide)
      have hc : c.toNat = (0x5f - span.offset).toNat := by omega
      have hcontains := List.find?_some hspan
      have havoids := List.all_eq_true.mp hspans span (List.mem_of_find?_eq_some hspan)
      simp [← hc, hcontains] at havoids
    · exact h (List.mem_singleton.mp hmem).symm

theorem joinWords_modifyHead_cons (c : Char) {words : List (List Char)} (h : words ≠ []) :
    joinWords (words.modifyHead (c :: ·)) = c :: joinWords words := by
  cases words with
  | nil => contradiction
  | cons word words => rfl

theorem flatMap_capitalize_modifyHead_cons (c : Char) {words : List (List Char)} (h : words ≠ []) :
    (words.modifyHead (c :: ·)).flatMap capitalize = upperCase c ++ joinWords words := by
  cases words with
  | nil => contradiction
  | cons word words => simp [capitalize, joinWords]

theorem camelCase.go_eq (upper : Bool) (cs : List Char) :
    go upper cs =
      if upper then (cs.splitOn '_').flatMap capitalize else joinWords (cs.splitOn '_') := by
  induction cs generalizing upper with
  | nil => cases upper <;> rfl
  | cons c cs ih =>
    have hne : cs.splitOn '_' ≠ [] := List.splitOn_ne_nil _ _
    rw [List.splitOn_cons_eq_if_modifyHead, go]
    simp only [beq_iff_eq]
    split
    · rw [ih]
      cases upper <;> rfl
    · cases upper with
      | false =>
        rw [joinWords_modifyHead_cons c hne, ih]
        rfl
      | true =>
        rw [flatMap_capitalize_modifyHead_cons c hne, ih]
        rfl

theorem underscore_not_mem_go (upper : Bool) (cs : List Char) : '_' ∉ camelCase.go upper cs := by
  induction cs generalizing upper with
  | nil => simp [camelCase.go]
  | cons c cs ih =>
    unfold camelCase.go
    split
    · exact ih true
    · next hc =>
      split
      · rw [List.mem_append, not_or]
        exact ⟨underscore_not_mem_upperCase hc, ih false⟩
      · rw [List.mem_cons, not_or]
        exact ⟨Ne.symm hc, ih false⟩

theorem underscore_not_mem_camelCase (key : String) : '_' ∉ (camelCase key).toList := by
  rw [camelCase, String.toList_ofList]
  exact underscore_not_mem_go false key.toList

theorem camelCase_camelCase (key : String) : camelCase (camelCase key) = camelCase key :=
  camelCase_of_not_mem (underscore_not_mem_camelCase key)

end Text

theorem Node.setting?_of_not_mem {key : String} (h : '_' ∉ key.toList) (node : Node) :
    node.setting? key = node.settings.find? key := by
  unfold setting?
  rw [Text.camelCase_of_not_mem h]
  simp

namespace Text

/--
A key is spelled word by word. The result is one word, which is looked up under itself only.
-/
theorem camelCase_eq_joinWords_and_idempotent (key : String) :
    (camelCase key).toList = joinWords (key.toList.splitOn '_') ∧
    '_' ∉ (camelCase key).toList ∧
    camelCase (camelCase key) = camelCase key ∧
    ('_' ∉ key.toList → ∀ node : Node, node.setting? key = node.settings.find? key) := by
  refine ⟨?_, underscore_not_mem_camelCase key, camelCase_camelCase key, ?_⟩
  · rw [camelCase, String.toList_ofList, camelCase.go_eq]
    rfl
  · intro h node
    exact node.setting?_of_not_mem h

/--
Empty words vanish, and the upper case of a character may be a word of its own.
-/
example : camelCase "_in__ßa_b_" = "InSSaB" := by
  decide +kernel

/--
A setting under the key with an underscore is not found by the camel case of this key.
-/
theorem camelCase_eq_joinWords_and_idempotent_of_one_word :
    let node := (Node.ofKind "c" "conv2d").set "kernel_size" (.number 5)
    '_' ∉ "kernelSize".toList ∧ node.setting? "kernelSize" = node.settings.find? "kernelSize" ∧
      node.settings.find? "kernelSize" = none := by
  intro node
  have hword : '_' ∉ "kernelSize".toList := by decide
  exact ⟨hword, (camelCase_eq_joinWords_and_idempotent "kernelSize").2.2.2 hword node, rfl⟩

end Text

end NetScript
