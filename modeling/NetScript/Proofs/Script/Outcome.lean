import Mathlib.Data.List.TakeWhile
import NetScript.Proofs.Json.Reads
import NetScript.Script.Basic

/-!
This module contains what can come of compiling a text. There is no graph in it if it is the literal
`null` with blanks around it, and nothing else that is read has no script.
-/

namespace NetScript

namespace Json

open Reader

/--
Texts of the literal `null`, with any blanks around it.
-/
def IsNullText (text : String) : Prop :=
  ∃ before behind, (∀ c ∈ before, isBlank c) ∧ (∀ c ∈ behind, isBlank c) ∧
    text.toList = before ++ ['n', 'u', 'l', 'l'] ++ behind

namespace Reader

variable {α : Type}

theorem eq_append_of_run_literal {expected cs rest : List Char}
    (h : (literal expected).run cs = .ok ((), rest)) : cs = expected ++ rest := by
  induction expected generalizing cs with
  | nil =>
    cases h
    rfl
  | cons c expected ih =>
    rw [literal, run_bind_of_ok rfl] at h
    cases cs with
    | nil => cases h
    | cons d cs =>
      rw [List.head?_cons] at h
      dsimp only at h
      split at h
      · next heq =>
        rw [run_bind_of_ok (run_skip d cs)] at h
        rw [heq, ih h, List.cons_append]
      · cases h

theorem run_optional_eq_none_iff {reader : Reader α} {cs rest : List Char} :
    (optional reader).run cs = .ok (none, rest) ↔
      ∃ before, (∀ c ∈ before, isBlank c) ∧ cs = before ++ ['n', 'u', 'l', 'l'] ++ rest := by
  rw [optional, run_bind_of_ok (run_next? cs)]
  constructor
  · intro h
    split at h
    · next hhead =>
      obtain ⟨tail, htail⟩ := List.head?_eq_some_iff.mp hhead
      rw [htail, run_bind_of_ok (run_skip _ _)] at h
      obtain ⟨_, _, hliteral, hpure⟩ := exists_of_run_bind h
      cases hpure
      refine ⟨cs.takeWhile isBlank, fun c => List.mem_takeWhile_imp, ?_⟩
      rw [List.append_assoc, List.cons_append, ← eq_append_of_run_literal hliteral, ← htail,
        List.takeWhile_append_dropWhile]
    · obtain ⟨_, _, _, hpure⟩ := exists_of_run_bind h
      cases hpure
  · rintro ⟨before, hbefore, rfl⟩
    have hdrop : (before ++ ['n', 'u', 'l', 'l'] ++ rest).dropWhile isBlank =
        ['n', 'u', 'l', 'l'] ++ rest := by
      rw [List.append_assoc, List.dropWhile_append_of_pos hbefore]
      rfl
    rw [hdrop]
    show (skip >>= fun _ => literal ['u', 'l', 'l'] >>= fun _ => pure none).run _ = _
    rw [List.cons_append, run_bind_of_ok (run_skip _ _), run_bind_of_ok (run_literal _ _)]
    rfl

end Reader

end Json

theorem Graph.parse_eq_ok_none_iff {text : String} :
    parse text = .ok none ↔ Json.IsNullText text := by
  rw [parse, Json.Reader.parseWith_eq_ok_iff]
  simp only [read, Json.Reader.run_optional_eq_none_iff]
  constructor
  · rintro ⟨behind, ⟨before, hbefore, heq⟩, hbehind⟩
    exact ⟨before, behind, hbefore, hbehind, heq⟩
  · rintro ⟨before, behind, hbefore, hbehind, heq⟩
    exact ⟨behind, ⟨before, hbefore, heq⟩, hbehind⟩

namespace Script

theorem compileText_eq (text : String) :
    compileText text =
      match Graph.parse text with
      | .error error => .error (.malformed error)
      | .ok none => .error .noGraph
      | .ok (some graph) => .ok (ofGraph graph) := by
  rw [compileText, readGraph]
  cases Graph.parse text with
  | error error => rfl
  | ok graph? => cases graph? <;> rfl

variable {text : String}

theorem compileText_eq_noGraph_iff :
    compileText text = .error .noGraph ↔ Graph.parse text = .ok none := by
  rw [compileText_eq]
  split <;> simp_all

theorem compileText_eq_malformed_iff {error : Json.Error} :
    compileText text = .error (.malformed error) ↔ Graph.parse text = .error error := by
  rw [compileText_eq]
  split <;> simp_all

theorem compileText_eq_ok_iff {script : Script} :
    compileText text = .ok script ↔
      ∃ graph, Graph.parse text = .ok (some graph) ∧ script = ofGraph graph := by
  rw [compileText_eq]
  split
  · simp_all
  · simp_all
  · next graph hparse =>
    constructor
    · intro h
      cases h
      exact ⟨graph, hparse, rfl⟩
    · rintro ⟨found, hfound, rfl⟩
      cases hparse.symm.trans hfound
      rfl

theorem compileText_outcome (text : String) :
    (compileText text = .error .noGraph ↔ Json.IsNullText text) ∧
    (∀ error, compileText text = .error (.malformed error) ↔ Graph.parse text = .error error) ∧
    (∀ script, compileText text = .ok script ↔
      ∃ graph, Graph.parse text = .ok (some graph) ∧ script = ofGraph graph) ∧
    (¬Json.IsNullText text → (∀ error, Graph.parse text ≠ .error error) →
      ∃ script, compileText text = .ok script) ∧
    ∀ failure, compileText text = .error failure →
      (Json.IsNullText text ∧ failure.message = "No graph was supplied to the compiler") ∨
        ∃ error, Graph.parse text = .error error ∧
          failure.message = "Graph JSON is malformed: " ++ error.message := by
  rw [← Graph.parse_eq_ok_none_iff]
  refine ⟨compileText_eq_noGraph_iff, fun _ => compileText_eq_malformed_iff,
    fun _ => compileText_eq_ok_iff, ?_, ?_⟩
  · intro hnone hread
    cases hparse : Graph.parse text with
    | error error => exact absurd hparse (hread error)
    | ok graph? =>
      cases graph? with
      | none => exact absurd hparse hnone
      | some graph => exact ⟨_, compileText_eq_ok_iff.mpr ⟨graph, hparse, rfl⟩⟩
  · intro failure hfailure
    cases failure with
    | noGraph => exact .inl ⟨compileText_eq_noGraph_iff.mp hfailure, rfl⟩
    | malformed error => exact .inr ⟨error, compileText_eq_malformed_iff.mp hfailure, rfl⟩

end Script

end NetScript
