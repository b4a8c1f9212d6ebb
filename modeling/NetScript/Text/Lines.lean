import NetScript.Text.Split

/-!
Texts as lists of lines, each of which is ended by a newline.
-/

namespace NetScript.Text

def unlines (lines : List String) : String :=
  String.join (lines.map (· ++ "\n"))

theorem toList_unlines (lines : List String) :
    (unlines lines).toList = lines.flatMap fun line => line.toList ++ ['\n'] := by
  simp [unlines, String.toList_join, List.flatMap_map]

theorem unlines_append (a b : List String) : unlines (a ++ b) = unlines a ++ unlines b := by
  apply String.toList_inj.mp
  simp [toList_unlines]

def indent (width : Nat) (line : String) : String :=
  String.ofList (List.replicate width ' ') ++ line

def dropReturn (cs : List Char) : List Char :=
  if cs.getLast? = some '\r' then cs.dropLast else cs

/--
The lines of a text. The last one does not have to be ended by a newline.
-/
def lines (s : String) : List String :=
  let pieces := split '\n' s.toList
  let last := (pieces.getLast?.toList).filter (· ≠ [])
  (pieces.dropLast.map dropReturn ++ last).map String.ofList

end NetScript.Text
