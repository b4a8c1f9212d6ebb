import NetScript.Pattern.Meaning
import NetScript.Pattern.Reader.Tree
import NetScript.Pattern.Size

/-!
This module contains the patterns that are given by a text.
-/

namespace NetScript.Pattern

inductive Failure where
  | fault (fault : Fault)
  | tooLarge
deriving DecidableEq

def Failure.message (text : List Char) : Failure → String
  | fault reason => reason.message text
  | tooLarge => "Compiled regex exceeds size limit of " ++ toString sizeLimit ++ " bytes."

def parse (text : List Char) : Except Failure (Pattern Leaf) := do
  let tree ← (Tree.read text).mapError .fault
  let (pattern, _) ← (tree.meaning {}).mapError .fault
  if pattern.isTooLarge then throw .tooLarge else return pattern

end NetScript.Pattern
