/-!
Blank characters, by the Unicode property White_Space, and the removal of those at the end of a
text.
-/

namespace NetScript.Text

def isBlank (c : Char) : Bool :=
  let code := c.toNat
  (0x9 ≤ code && code ≤ 0xd) || code = 0x20 || code = 0x85 || code = 0xa0 || code = 0x1680 ||
    (0x2000 ≤ code && code ≤ 0x200a) || code = 0x2028 || code = 0x2029 || code = 0x202f ||
    code = 0x205f || code = 0x3000

def trimEnd (s : String) : String :=
  String.ofList (s.toList.reverse.dropWhile isBlank).reverse

theorem toList_trimEnd (s : String) :
    (trimEnd s).toList = (s.toList.reverse.dropWhile isBlank).reverse := by
  simp [trimEnd]

theorem trimEnd_append_of_isBlank (s : String) {t : String} (h : ∀ c ∈ t.toList, isBlank c) :
    trimEnd (s ++ t) = trimEnd s := by
  apply String.toList_inj.mp
  rw [toList_trimEnd, toList_trimEnd, String.toList_append, List.reverse_append,
    List.dropWhile_append_of_pos]
  simpa using h

theorem trimEnd_of_not_isBlank {s : String} {c : Char} (h : ¬isBlank c) :
    trimEnd (s.push c) = s.push c := by
  apply String.toList_inj.mp
  simp [toList_trimEnd, h]

end NetScript.Text
