import NetScript.Text.Hex

/-!
This module contains the string literals of the generated code. A literal stands in double quotes
and consists of printable ASCII only, whatever the text is: all other characters are escaped.
-/

namespace NetScript.Code

def isPlain (c : Char) : Bool :=
  ' ' ≤ c && c ≤ '~'

def escape (c : Char) : List Char :=
  if c = '\\' then ['\\', '\\']
  else if c = '"' then ['\\', '"']
  else if c = '\n' then ['\\', 'n']
  else if c = '\r' then ['\\', 'r']
  else if c = '\t' then ['\\', 't']
  else if isPlain c then [c]
  else if c.toNat < 0x100 then '\\' :: 'x' :: Text.hexPadded 2 c.toNat
  else if c.toNat < 0x10000 then '\\' :: 'u' :: Text.hexPadded 4 c.toNat
  else '\\' :: 'U' :: Text.hexPadded 8 c.toNat

theorem isPlain_digitChar {digit : Nat} (h : digit < 16) : isPlain (Nat.digitChar digit) := by
  decide +revert

theorem isPlain_of_mem_hexPadded {width n : Nat} {c : Char} (h : c ∈ Text.hexPadded width n) :
    isPlain c := by
  rcases Text.exists_of_mem_hexPadded h with ⟨digit, hlt, rfl⟩
  exact isPlain_digitChar hlt

theorem isPlain_of_mem_escape {c d : Char} (h : d ∈ escape c) : isPlain d := by
  have hhex {mark : Char} {width : Nat} (hmark : isPlain mark)
      (h : d ∈ '\\' :: mark :: Text.hexPadded width c.toNat) : isPlain d := by
    rcases List.mem_cons.mp h with rfl | h
    · decide
    · rcases List.mem_cons.mp h with rfl | h
      · exact hmark
      · exact isPlain_of_mem_hexPadded h
  have hpair {mark : Char} (hmark : isPlain mark) (h : d ∈ ['\\', mark]) : isPlain d := by
    exact @hhex mark 0 hmark h
  unfold escape at h
  repeat' split at h
  · exact hpair (by decide) h
  · exact hpair (by decide) h
  · exact hpair (by decide) h
  · exact hpair (by decide) h
  · exact hpair (by decide) h
  · next hplain =>
    rw [List.mem_singleton] at h
    rw [h]
    exact hplain
  · exact hhex (by decide) h
  · exact hhex (by decide) h
  · exact hhex (by decide) h

def quoted (s : String) : String :=
  String.ofList ('"' :: (s.toList.flatMap escape ++ ['"']))

end NetScript.Code
