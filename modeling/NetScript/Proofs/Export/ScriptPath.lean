import NetScript.Manifest

/-!
This module contains where the scripts of a manifest are written to. The script of an entry is in
the output directory and named after the entry, unless its id starts at the root. Then the output
directory counts for nothing, and another entry can have the same script.
-/

namespace NetScript

namespace Path

def separator (dir : String) : String :=
  if dir = "" ∨ endsWithSlash dir then "" else "/"

theorem join_of_isAbsolute {right : String} (h : isAbsolute right) (left : String) :
    join left right = right := by
  have hhead : right.toList.head? = some '/' := by simpa [isAbsolute] using h
  rw [join, if_pos hhead]

theorem join_of_not_isAbsolute {right : String} (h : ¬isAbsolute right) (left : String) :
    join left right = left ++ separator left ++ right := by
  have hhead : ¬right.toList.head? = some '/' := by simpa [isAbsolute] using h
  rw [join, if_neg hhead, separator]
  by_cases hleft : left = "" ∨ endsWithSlash left
  · rw [if_pos hleft, if_pos (by simpa [endsWithSlash] using hleft), String.append_empty]
  · rw [if_neg hleft, if_neg (by simpa [endsWithSlash] using hleft)]

end Path

namespace Manifest

open NetScript.Path

def idPrefix (manifest : Manifest) (base : String) (entry : Entry) : String :=
  if isAbsolute entry.id then ""
  else manifest.outPath base ++ separator (manifest.outPath base)

theorem isAbsolute_append_extension (id : String) : isAbsolute (id ++ ".py") = isAbsolute id := by
  unfold isAbsolute
  rw [String.toList_append]
  cases id.toList with
  | nil => decide
  | cons c cs => rfl

theorem scriptPath_eq (manifest : Manifest) (base : String) (entry : Entry) :
    manifest.scriptPath base entry = manifest.idPrefix base entry ++ entry.id ++ ".py" := by
  unfold scriptPath idPrefix
  split
  · next h =>
    rw [← isAbsolute_append_extension] at h
    rw [join_of_isAbsolute h, String.empty_append]
  · next h =>
    rw [← isAbsolute_append_extension] at h
    rw [join_of_not_isAbsolute h, ← String.append_assoc]

theorem scriptPath_eq_scriptPath_iff (manifest : Manifest) (base : String) (entry other : Entry) :
    manifest.scriptPath base other = manifest.scriptPath base entry ↔
      manifest.idPrefix base other ++ other.id = manifest.idPrefix base entry ++ entry.id := by
  rw [scriptPath_eq, scriptPath_eq]
  exact String.append_left_inj ".py"

theorem scriptPath_eq_and_shared_iff (manifest : Manifest) (base : String) (entry : Entry) :
    (¬isAbsolute entry.id → manifest.scriptPath base entry =
      manifest.outPath base ++ separator (manifest.outPath base) ++ entry.id ++ ".py") ∧
    (isAbsolute entry.id → manifest.scriptPath base entry = entry.id ++ ".py") ∧
    ∀ other : Entry, other.id ≠ entry.id →
      (manifest.scriptPath base other = manifest.scriptPath base entry ↔
        (isAbsolute entry.id ∧ ¬isAbsolute other.id ∧ entry.id =
          manifest.outPath base ++ separator (manifest.outPath base) ++ other.id) ∨
        (isAbsolute other.id ∧ ¬isAbsolute entry.id ∧ other.id =
          manifest.outPath base ++ separator (manifest.outPath base) ++ entry.id)) := by
  refine ⟨fun h => ?_, fun h => ?_, fun other hne => ?_⟩
  · rw [scriptPath_eq, idPrefix, if_neg h]
  · rw [scriptPath_eq, idPrefix, if_pos h, String.empty_append]
  · rw [scriptPath_eq_scriptPath_iff, idPrefix, idPrefix]
    -- Ids that are both relative, or both absolute, have the same in front of them.
    by_cases h : isAbsolute entry.id <;> by_cases hother : isAbsolute other.id <;>
      simp [h, hother, hne, hne.symm, eq_comm]

/--
The output directory is given with a slash at its end, and the ids leave it again.
-/
theorem scriptPath_eq_and_shared_iff_of_dots :
    let manifest : Manifest := ⟨"out/", [⟨"../x", "a.json"⟩, ⟨"", "b.json"⟩]⟩
    let entry : Entry := ⟨"../x", "a.json"⟩
    let other : Entry := ⟨"", "b.json"⟩
    ¬isAbsolute entry.id ∧ other.id ≠ entry.id ∧
      manifest.scriptPath "assets" entry = "assets/out/../x.py" ∧
      manifest.scriptPath "assets" other ≠ manifest.scriptPath "assets" entry := by
  intro manifest entry other
  obtain ⟨hrelative, _, hshared⟩ := scriptPath_eq_and_shared_iff manifest "assets" entry
  have hne : other.id ≠ entry.id := by decide
  refine ⟨by decide, hne, (hrelative (by decide)).trans (by decide), ?_⟩
  rw [ne_eq, hshared other hne]
  decide

/--
One id is relative. The other one starts at the root, and is where the script of the first one is.
-/
theorem scriptPath_shared :
    let manifest : Manifest := ⟨"generated", [⟨"x", "a.json"⟩, ⟨"/srv/generated/x", "b.json"⟩]⟩
    ∃ entry ∈ manifest.programs, ∃ other ∈ manifest.programs,
      other.id ≠ entry.id ∧
      manifest.scriptPath "/srv" other = manifest.scriptPath "/srv" entry ∧
      manifest.scriptPath "/srv" other ≠
        manifest.outPath "/srv" ++ separator (manifest.outPath "/srv") ++ other.id ++ ".py" := by
  decide

end Manifest

end NetScript
