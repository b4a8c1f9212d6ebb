import NetScript.Code.Reader.Qualifier
import NetScript.Proofs.Code.Call
import NetScript.Proofs.Script.Plain

/-!
This module contains the qualifiers in generated code, piece by piece. Literals have none, whatever
numbers and texts they are made of, and a call has the one of its callee.
-/

namespace NetScript

namespace Code

namespace Scan

def isBreak (c : Char) : Bool :=
  !Reader.isNameChar c && !(['.', '"', '\''].contains c)

variable {scan : Scan}

theorem feed_cons (scan : Scan) (c : Char) (cs : List Char) :
    scan.feed (c :: cs) =
      ((scan.qualifier? c).toList ++ ((scan.next c).feed cs).1, ((scan.next c).feed cs).2) := rfl

theorem feed_append (scan : Scan) (a b : List Char) :
    scan.feed (a ++ b) =
      ((scan.feed a).1 ++ ((scan.feed a).2.feed b).1, ((scan.feed a).2.feed b).2) := by
  induction a generalizing scan with
  | nil => rfl
  | cons c a ih => simp only [List.cons_append, feed_cons, ih, List.append_assoc]

theorem qualifier?_of_ne {c : Char} (hc : c ≠ '.') : scan.qualifier? c = none := by
  unfold qualifier?
  split
  · rfl
  · rw [if_neg]
    exact fun h => hc h.1

theorem qualifier?_of_digits {c : Char} (h : ∀ d ∈ scan.word, d.isDigit) :
    scan.qualifier? c = none := by
  unfold qualifier?
  split
  · rfl
  · next d ds heq =>
    have hd : d.isDigit := h d (by simp [heq])
    simp [hd]

theorem feed_break {c : Char} (hmode : scan.mode = .code) (hc : isBreak c) (cs : List Char) :
    scan.feed (c :: cs) = start.feed (c :: cs) := by
  obtain ⟨mode, isAttribute, word⟩ := scan
  cases hmode
  simp only [isBreak, List.contains_iff_mem, List.mem_cons, List.not_mem_nil, or_false, not_or,
    Bool.and_eq_true, Bool.not_eq_true', Bool.eq_false_iff, ne_eq] at hc
  obtain ⟨hname, hpoint, hdouble, hsingle⟩ := hc
  rw [feed_cons, feed_cons, qualifier?_of_ne hpoint, qualifier?_of_ne hpoint]
  simp [next, start, readCode, hname, hdouble, hsingle]

theorem next_of_isNameChar {c : Char} (hmode : scan.mode = .code) (hc : Reader.isNameChar c) :
    scan.next c = { scan with word := scan.word ++ [c] } := by
  have hcomment : c ≠ '#' := Reader.ne_of_isNameChar hc rfl
  have hdouble : c ≠ '"' := Reader.ne_of_isNameChar hc rfl
  have hsingle : c ≠ '\'' := Reader.ne_of_isNameChar hc rfl
  simp [next, hmode, readCode, hc, hcomment, hdouble, hsingle]

theorem feed_word {cs : List Char} (hmode : scan.mode = .code)
    (h : ∀ c ∈ cs, Reader.isNameChar c) :
    scan.feed cs = ([], { scan with word := scan.word ++ cs }) := by
  induction cs generalizing scan with
  | nil => simp [feed]
  | cons c cs ih =>
    rw [List.forall_mem_cons] at h
    have hpoint : c ≠ '.' := Reader.ne_of_isNameChar h.1 rfl
    rw [feed_cons, qualifier?_of_ne hpoint, next_of_isNameChar hmode h.1, ih (by exact hmode) h.2]
    simp

theorem isNameChar_of_isDigit {c : Char} (h : c.isDigit) : Reader.isNameChar c := by
  simp [Reader.isNameChar, Char.isAlphanum, h]

/--
A word of digits is no name, so the points among digits do not matter.
-/
theorem feed_digits {cs : List Char} (hmode : scan.mode = .code)
    (hword : ∀ d ∈ scan.word, d.isDigit) (h : ∀ c ∈ cs, c.isDigit ∨ c = '.') :
    (scan.feed cs).1 = [] ∧ (scan.feed cs).2.mode = .code := by
  induction cs generalizing scan with
  | nil => exact ⟨rfl, hmode⟩
  | cons c cs ih =>
    rw [List.forall_mem_cons] at h
    have hnext : (scan.next c).mode = .code ∧ ∀ d ∈ (scan.next c).word, d.isDigit := by
      rcases h.1 with hdigit | rfl
      · rw [next_of_isNameChar hmode (isNameChar_of_isDigit hdigit), List.forall_mem_append,
          List.forall_mem_singleton]
        exact ⟨hmode, hword, hdigit⟩
      · simp [next, hmode, readCode, Reader.isNameChar]
    rw [feed_cons, qualifier?_of_digits hword]
    exact ih hnext.1 hnext.2 h.2

def quotes : Scan := { start with mode := .literal '"' false }

theorem feed_quotes {cs : List Char} (h : ∀ c ∈ cs, c ≠ '\\' ∧ c ≠ '"') :
    quotes.feed cs = ([], quotes) := by
  induction cs with
  | nil => rfl
  | cons c cs ih =>
    rw [List.forall_mem_cons] at h
    have hnext : quotes.next c = quotes := by simp [next, quotes, h.1]
    rw [feed_cons, hnext, ih h.2]
    rfl

theorem feed_hexadecimal (mark : Char) (width n : Nat) :
    quotes.feed ('\\' :: mark :: Text.hexPadded width n) = ([], quotes) := by
  have hdigit : ∀ digit < 16, Nat.digitChar digit ≠ '\\' ∧ Nat.digitChar digit ≠ '"' := by decide
  have hdigits : quotes.feed (Text.hexPadded width n) = ([], quotes) := by
    apply feed_quotes
    intro c hc
    obtain ⟨digit, hlt, rfl⟩ := Text.exists_of_mem_hexPadded hc
    exact hdigit digit hlt
  have hmark : (quotes.next '\\').next mark = quotes := rfl
  rw [feed_cons, feed_cons, hmark, hdigits]
  rfl

theorem feed_escape (c : Char) : quotes.feed (escape c) = ([], quotes) := by
  unfold escape
  split
  · rfl
  · next hbackslash =>
    split
    · rfl
    · next hquote =>
      repeat' split
      · rfl
      · rfl
      · rfl
      · exact feed_quotes (List.forall_mem_singleton.mpr ⟨hbackslash, hquote⟩)
      · apply feed_hexadecimal
      · apply feed_hexadecimal
      · apply feed_hexadecimal

theorem feed_flatMap_escape (cs : List Char) : quotes.feed (cs.flatMap escape) = ([], quotes) := by
  induction cs with
  | nil => rfl
  | cons c cs ih =>
    rw [List.flatMap_cons, feed_append, feed_escape, ih]
    rfl

theorem feed_quoted (s : String) : start.feed (quoted s).toList = ([], start) := by
  have hopen : start.next '"' = quotes := rfl
  rw [quoted, String.toList_ofList, feed_cons, hopen, feed_append, feed_flatMap_escape]
  rfl

end Scan

/--
Read from the start of a line, the text has these qualifiers, and there is code behind it.
-/
def Finds (s : String) (names : List String) : Prop :=
  (Scan.start.feed s.toList).1 = names ∧ (Scan.start.feed s.toList).2.mode = .code

def IsSeparator (s : String) : Prop :=
  s.toList.head?.any Scan.isBreak ∧ Scan.start.feed s.toList = ([], .start)

instance (s : String) (names : List String) : Decidable (Finds s names) :=
  inferInstanceAs (Decidable (_ ∧ _))

instance (s : String) : Decidable (IsSeparator s) :=
  inferInstanceAs (Decidable (_ ∧ _))

namespace Finds

variable {a b : String} {names more : List String}

theorem qualifiers_eq (h : Finds a names) : qualifiers a = names := h.1

theorem feed_append (h : Finds a names) (hb : b.toList.head?.any Scan.isBreak) :
    Scan.start.feed (a ++ b).toList =
      (names ++ (Scan.start.feed b.toList).1, (Scan.start.feed b.toList).2) := by
  obtain ⟨c, hc, hbreak⟩ := (Option.any_eq_true _ _).mp hb
  obtain ⟨cs, hcs⟩ := List.head?_eq_some_iff.mp hc
  rw [String.toList_append, Scan.feed_append, h.1, hcs, Scan.feed_break h.2 hbreak]

theorem empty : Finds "" [] := by decide

theorem after (ha : Scan.start.feed a.toList = (names, .start)) (hb : Finds b more) :
    Finds (a ++ b) (names ++ more) := by
  unfold Finds
  rw [String.toList_append, Scan.feed_append, ha, hb.1]
  exact ⟨rfl, hb.2⟩

theorem join {separator : String} (ha : Finds a names) (hseparator : IsSeparator separator)
    (hb : Finds b more) : Finds (a ++ separator ++ b) (names ++ more) := by
  apply after _ hb
  rw [ha.feed_append hseparator.1, hseparator.2, List.append_nil]

theorem behind {separator : String} (hseparator : IsSeparator separator) (ha : Finds a names) :
    Finds (separator ++ a) names := by
  simpa using empty.join hseparator ha

theorem close (ha : Finds a names) (hb : b.toList.head?.any Scan.isBreak ∧ Finds b []) :
    Finds (a ++ b) names := by
  unfold Finds
  rw [ha.feed_append hb.1, hb.2.1, List.append_nil]
  exact ⟨rfl, hb.2.2⟩

theorem word {s : String} (ha : Finds a names) (h : ∀ c ∈ s.toList, Reader.isNameChar c) :
    Finds (a ++ s) names := by
  unfold Finds
  rw [String.toList_append, Scan.feed_append, ha.1, Scan.feed_word ha.2 h]
  exact ⟨List.append_nil _, ha.2⟩

theorem intercalate {separator : String} {items : List String} (hseparator : IsSeparator separator)
    (h : ∀ item ∈ items, Finds item []) : Finds (separator.intercalate items) [] := by
  induction items with
  | nil => exact empty
  | cons item items ih =>
    rw [List.forall_mem_cons] at h
    cases items with
    | nil => simpa using h.1
    | cons next items =>
      rw [String.intercalate_cons_cons]
      exact h.1.join hseparator (ih h.2)

end Finds

theorem isNameChar_of_mem_repr {n : Nat} {c : Char} (h : c ∈ n.repr.toList) :
    Reader.isNameChar c := by
  rw [Nat.toList_repr] at h
  exact Scan.isNameChar_of_isDigit (Nat.isDigit_of_mem_toDigits (by decide) (by decide) h)

theorem finds_digits {cs : List Char} (h : ∀ c ∈ cs, c.isDigit ∨ c = '.') :
    Finds (String.ofList cs) [] := by
  unfold Finds
  rw [String.toList_ofList]
  exact Scan.feed_digits rfl (by simp [Scan.start]) h

theorem finds_number (x : Binary64) : Finds (number x) [] := by
  have hfinite (d : Decimal) : Finds (String.ofList (numberFormat.finite d)) [] := by
    rw [numberFormat_finite]
    exact finds_digits fun c => d.isDigit_of_mem_positional
  have hminus (cs : List Char) : String.ofList ('-' :: cs) = "-" ++ String.ofList cs := by
    apply String.toList_inj.mp
    simp
  unfold number NumberFormat.render
  split
  · decide
  split
  · split <;> decide
  · dsimp only
    split
    · rw [hminus]
      exact .behind (by decide) (hfinite _)
    · apply hfinite

theorem finds_quoted (s : String) : Finds (quoted s) [] := by
  unfold Finds
  rw [Scan.feed_quoted]
  exact ⟨rfl, rfl⟩

end Code

open Code

theorem Atom.finds_code (atom : Atom) : Finds atom.code [] := by
  cases atom with
  | number x => exact finds_number x
  | text s => exact finds_quoted s

theorem Setting.finds_tuple {items : List String} (h : ∀ item ∈ items, Finds item []) :
    Finds (Setting.tuple items) [] := by
  unfold Setting.tuple
  split
  · next item =>
    have hitem : Finds item [] := h item (by simp)
    exact .close (.behind (by decide) hitem) (by decide)
  · have hitems : Finds (", ".intercalate items) [] := .intercalate (by decide) h
    exact .close (.behind (by decide) hitems) (by decide)

theorem Setting.finds_code (setting : Setting) : Finds setting.code [] := by
  unfold Setting.code
  split
  · decide
  · decide
  · exact finds_number _
  · exact finds_quoted _
  · apply Setting.finds_tuple
    rw [List.forall_mem_map]
    exact fun atom _ => atom.finds_code
  · decide

theorem Call.finds_code {call : Call} {names : List String} (hcallee : Finds call.callee names)
    (hkeywords : ∀ keyword ∈ call.keywords, Finds keyword.1 []) : Finds call.code names := by
  have harguments : Finds (", ".intercalate
      (call.positional.map Setting.code ++ call.keywords.map Call.keywordCode)) [] := by
    apply Finds.intercalate (by decide)
    rw [List.forall_mem_append, List.forall_mem_map, List.forall_mem_map]
    constructor
    · exact fun setting _ => setting.finds_code
    · intro keyword hkeyword
      exact (hkeywords keyword hkeyword).join (by decide) keyword.2.finds_code
  have hcall : Finds (call.callee ++ "(" ++ _) (names ++ []) :=
    hcallee.join (by decide) harguments
  rw [List.append_nil] at hcall
  exact hcall.close (by decide)

namespace Layer

theorem finds_call (layer : Layer) (node : Node) : Finds (layer.call node).code ["nn"] := by
  have hnames : ∀ name ∈ ["bias", "stride", "padding", "batch_first"], Finds name [] := by decide
  apply Call.finds_code
  · cases layer <;> dsimp only [call] <;> decide
  · exact fun keyword hkeyword => hnames _ (fst_mem_of_mem_keywords hkeyword)

theorem finds_fieldName (layer : Layer) (ordinal : Nat) :
    Finds (layer.fieldName ordinal) ["self"] := by
  unfold fieldName
  apply Finds.word
  · cases layer <;> decide
  · exact fun c => isNameChar_of_mem_repr

end Layer

theorem Ref.finds_code (ref : Ref) : Finds ref.code [] := by
  cases ref with
  | input => decide
  | output ordinal =>
    have hstem : Finds "x" [] := by decide
    exact hstem.word fun c => isNameChar_of_mem_repr

theorem Statement.finds_code (s : Statement) : Finds s.code ["self"] := by
  have hresults : Finds (s.output.code ++ if s.layer = .lstm then ", _" else "") [] := by
    split
    · exact s.output.finds_code.close (by decide)
    · rw [String.append_empty]
      exact s.output.finds_code
  have hcallee : Finds s.callee ["self"] := s.layer.finds_fieldName s.ordinal
  have hassigned : Finds (_ ++ " = " ++ s.callee) ([] ++ ["self"]) :=
    hresults.join (by decide) hcallee
  exact .close (hassigned.join (by decide) s.argument.finds_code) (by decide)

theorem ModelClass.Field.finds_code {layer : Layer} (node : Node) (ordinal : Nat) :
    Finds (Field.code ⟨layer, ordinal, layer.call node⟩) ["self", "nn"] :=
  (layer.finds_fieldName ordinal).join (by decide) (layer.finds_call node)

example : qualifiers "self.conv1 = nn.Conv2d(3, 0.5, padding=\"\\\"a.b # c.d\")  # e.f" =
    ["self", "nn"] := by
  decide +kernel

end NetScript
