import NetScript.Text.Split

/-!
This module contains the arithmetic of paths, which never looks at the files that they name.
-/

namespace NetScript.Path

/--
The path `right` as seen from `left`. If `right` starts at the root then this is `right` itself.
-/
def join (left right : String) : String :=
  if right.toList.head? = some '/' then
    right
  else if left.toList.isEmpty || left.toList.getLast? = some '/' then
    left ++ right
  else
    left ++ "/" ++ right

def splitLast (cs : List Char) : List Char × List Char :=
  ((cs.reverse.dropWhile (· ≠ '/')).tail.reverse, (cs.reverse.takeWhile (· ≠ '/')).reverse)

theorem length_splitLast_lt {cs : List Char} (h : cs ≠ []) :
    (splitLast cs).1.length < cs.length := by
  have hpos : 0 < cs.length := List.length_pos_iff.mpr h
  have hle : (cs.reverse.dropWhile (· ≠ '/')).length ≤ cs.length := by
    simpa using (List.dropWhile_sublist (l := cs.reverse) (· ≠ '/')).length_le
  simp only [splitLast, List.length_reverse, List.length_tail]
  omega

/--
Removes what does not move at the end of a path: empty names and single dots.
-/
def trimRight (cs : List Char) : List Char :=
  if h : cs ≠ [] ∧ ((splitLast cs).2 = [] ∨ (splitLast cs).2 = ['.']) then
    have := length_splitLast_lt h.1
    trimRight (splitLast cs).1
  else
    cs
termination_by cs.length

theorem length_trimRight_le (cs : List Char) : (trimRight cs).length ≤ cs.length := by
  fun_induction trimRight cs with
  | case1 cs h _ ih => exact Nat.le_trans ih (Nat.le_of_lt (length_splitLast_lt h.1))
  | case2 cs h => exact Nat.le_refl _

/--
The part of a path that `parent?` never removes a slash from: the root, or a dot at the start.
-/
def anchorLength (cs : List Char) : Nat :=
  if cs.head? = some '/' || cs = ['.'] || cs.take 2 = ['.', '/'] then 1 else 0

/--
The path without its last name. The root has no parent, and neither has the empty path.
-/
def parent? (path : String) : Option String :=
  let cs := path.toList
  let anchor := cs.take (anchorLength cs)
  let body := trimRight (cs.drop (anchorLength cs))
  if body ≠ [] then
    some (String.ofList (anchor ++ trimRight (splitLast body).1))
  else if anchor = ['.'] then
    some ""
  else
    none

theorem length_parent?_lt {path parent : String} (h : parent? path = some parent) :
    parent.toList.length < path.toList.length := by
  simp only [parent?] at h
  split at h
  · next hbody =>
    -- The last name is removed, and what is in front of it only gets shorter.
    have hsplit := length_splitLast_lt hbody
    have houter := length_trimRight_le (splitLast
      (trimRight (path.toList.drop (anchorLength path.toList)))).1
    have hinner := length_trimRight_le (path.toList.drop (anchorLength path.toList))
    rw [Option.some.injEq] at h
    subst h
    simp only [String.toList_ofList, List.length_append, List.length_take]
    simp only [List.length_drop] at hinner
    omega
  · split at h
    · next hanchor =>
      have hlength := congrArg List.length hanchor
      rw [Option.some.injEq] at h
      subst h
      simp only [List.length_take, List.length_cons, List.length_nil] at hlength
      simp only [String.toList_empty, List.length_nil]
      omega
    · simp at h

def ancestors (path : String) : List String :=
  match hparent : parent? path with
  | some parent =>
    have := length_parent?_lt hparent
    path :: ancestors parent
  | none => [path]
termination_by path.toList.length

def isAbsolute (path : String) : Bool :=
  path.toList.head? = some '/'

def names (path : String) : List String :=
  ((Text.split '/' path.toList).filter (· ≠ [])).map String.ofList

def endsWithSlash (path : String) : Bool :=
  path.toList.getLast? = some '/'

end NetScript.Path
