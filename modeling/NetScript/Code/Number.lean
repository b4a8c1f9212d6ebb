import NetScript.Decimal.Layout

/-!
This module contains the number literals of the generated code.
-/

namespace NetScript.Code

def numberFormat : NumberFormat where
  tie := .up
  isPositional _ := true
  wholeSuffix := []
  notANumber := ['N', 'a', 'N']
  infinity := ['i', 'n', 'f']
  negativeInfinity := ['-', 'i', 'n', 'f']

theorem numberFormat_finite (d : Decimal) : numberFormat.finite d = d.positional := by
  simp [NumberFormat.finite, numberFormat]

def number (x : Binary64) : String :=
  String.ofList (numberFormat.render x)

end NetScript.Code
