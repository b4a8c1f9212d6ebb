/-!
Sets of characters as lists of runs, each given by its first and its last character.
-/

namespace NetScript.Text

def inRuns (runs : List (Nat × Nat)) (code : Nat) : Bool :=
  runs.any fun (first, last) => first ≤ code && code ≤ last

end NetScript.Text
