import NetScript.Text.UpperCase

/-!
The camel case spelling of a key that separates its words by underscores.
-/

namespace NetScript.Text

/--
Drops every underscore and puts the character after it in upper case.
-/
def camelCase (key : String) : String :=
  String.ofList (go false key.toList)
where
  go (upper : Bool) : List Char → List Char
    | [] => []
    | c :: rest =>
      if c = '_' then
        go true rest
      else if upper then
        upperCase c ++ go false rest
      else
        c :: go false rest

theorem camelCase.go_of_not_mem {key : List Char} (h : '_' ∉ key) : go false key = key := by
  induction key with
  | nil => rfl
  | cons c rest ih =>
    simp only [List.mem_cons, not_or] at h
    simp [go, Ne.symm h.1, ih h.2]

theorem camelCase_of_not_mem {key : String} (h : '_' ∉ key.toList) : camelCase key = key := by
  simp [camelCase, camelCase.go_of_not_mem h]

end NetScript.Text
