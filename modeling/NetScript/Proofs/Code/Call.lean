import Mathlib.Data.List.TakeWhile
import NetScript.Layer.Signature
import NetScript.Proofs.Code.Number
import NetScript.Proofs.Code.Quoted

/-!
This module contains the calls that are read back. The texts of the items may hold commas, quotes
and brackets, but each of them is read to its own end, and it does not start like a blank, like the
closing bracket or like a keyword.
-/

namespace NetScript

namespace Code.Reader

def Ends (rest : List Char) : Prop :=
  ∀ c ∈ rest.head?, c = ',' ∨ c = ')'

theorem ends_comma (rest : List Char) : Ends (',' :: rest) := by simp [Ends]

theorem ends_bracket (rest : List Char) : Ends (')' :: rest) := by simp [Ends]

theorem Ends.eq_false {rest : List Char} (h : Ends rest) {property : Char → Bool}
    (hcomma : property ',' = false) (hbracket : property ')' = false) :
    ∀ c ∈ rest.head?, property c = false := by
  intro c hc
  rcases h c hc with rfl | rfl
  · exact hcomma
  · exact hbracket

theorem run?_append {property : Char → Bool} {front rest : List Char} (hne : front ≠ [])
    (hfront : ∀ c ∈ front, property c) (hrest : ∀ c ∈ rest.head?, property c = false) :
    run? property (front ++ rest) = some (front, rest) := by
  have htake : rest.takeWhile property = [] := by
    cases rest with
    | nil => rfl
    | cons c rest => exact List.takeWhile_cons_of_neg (by simp [hrest c rfl])
  have hdrop : rest.dropWhile property = rest := by
    cases rest with
    | nil => rfl
    | cons c rest => exact List.dropWhile_cons_of_neg (by simp [hrest c rfl])
  unfold run?
  rw [List.takeWhile_append_of_pos hfront, List.dropWhile_append_of_pos hfront, htake, hdrop,
    List.append_nil]
  cases front with
  | nil => contradiction
  | cons c front => rfl

theorem run?_eq_none_of_head {property : Char → Bool} {c : Char} (h : property c = false)
    (cs : List Char) : run? property (c :: cs) = none := by
  unfold run?
  rw [List.takeWhile_cons_of_neg (by simp [h])]

theorem head_of_run? {property : Char → Bool} {cs : List Char} {found : List Char × List Char}
    (h : run? property cs = some found) : ∃ c tail, cs = c :: tail ∧ property c := by
  cases cs with
  | nil => cases h
  | cons c cs =>
    refine ⟨c, cs, rfl, ?_⟩
    by_contra hc
    rw [run?_eq_none_of_head (by simpa using hc)] at h
    cases h

/-! Names -/

def isName (name : String) : Bool :=
  match name.toList with
  | [] => false
  | c :: cs => (c :: cs).all isNameChar && !c.isDigit

theorem name?_append {name : String} (h : isName name) (rest : List Char)
    (hrest : ∀ c ∈ rest.head?, isNameChar c = false) :
    name? (name.toList ++ rest) = some (name, rest) := by
  unfold isName at h
  split at h
  · cases h
  · next c cs heq =>
    rw [Bool.and_eq_true, List.all_eq_true, Bool.not_eq_true'] at h
    rw [name?, heq, run?_append (List.cons_ne_nil _ _) h.1 hrest]
    dsimp only
    rw [if_neg (by simp [h.2]), ← heq, String.ofList_toList]

theorem head_of_name? {cs : List Char} {found : String × List Char} (h : name? cs = some found) :
    ∃ c tail, cs = c :: tail ∧ isNameChar c ∧ c.isDigit = false := by
  unfold name? at h
  split at h
  · next d name rest hrun =>
    obtain ⟨c, tail, rfl, hc⟩ := head_of_run? hrun
    refine ⟨c, tail, rfl, hc, ?_⟩
    -- The first character of the run is the one of the text.
    have hd : d = c := by
      unfold run? at hrun
      rw [List.takeWhile_cons_of_pos hc] at hrun
      grind
    subst hd
    grind
  · cases h

theorem ne_of_isNameChar {c d : Char} (hc : isNameChar c) (hd : isNameChar d = false) : c ≠ d := by
  rintro rfl
  rw [hd] at hc
  cases hc

theorem keyword?_append {name : String} (h : isName name) (rest : List Char) :
    keyword? (name.toList ++ '=' :: rest) = some (name, rest) := by
  rw [keyword?, name?_append h _ (by simp; decide)]
  rfl

theorem path?_of_point {name : String} {cs rest : List Char}
    (h : name? cs = some (name, '.' :: rest)) (hlt : rest.length < cs.length) :
    path? cs = (path? rest).map fun (path, rest) => (name :: path, rest) := by
  rw [path?, h]
  exact if_pos hlt

theorem path?_of_bracket {name : String} {cs rest : List Char}
    (h : name? cs = some (name, '(' :: rest)) : path? cs = some ([name], '(' :: rest) := by
  rw [path?, h]
  rfl

theorem path?_intercalate {name : String} {names : List String}
    (h : ∀ part ∈ name :: names, isName part) (rest : List Char) :
    path? ((".".intercalate (name :: names)).toList ++ '(' :: rest) =
      some (name :: names, '(' :: rest) := by
  induction names generalizing name with
  | nil =>
    rw [String.intercalate_singleton]
    exact path?_of_bracket (name?_append (h name List.mem_cons_self) _ (by simp; decide))
  | cons next names ih =>
    have hsplit : (".".intercalate (name :: next :: names)).toList ++ '(' :: rest =
        name.toList ++ '.' :: ((".".intercalate (next :: names)).toList ++ '(' :: rest) := by
      simp [String.intercalate_cons_cons]
    have hread := name?_append (h name List.mem_cons_self)
      ('.' :: ((".".intercalate (next :: names)).toList ++ '(' :: rest)) (by simp; decide)
    have hlt {front tail : List Char} : tail.length < (front ++ '.' :: tail).length := by
      rw [List.length_append, List.length_cons]
      omega
    have hnext := ih fun part hpart => h part (List.mem_cons_of_mem _ hpart)
    rw [hsplit, path?_of_point hread hlt, hnext]
    rfl

/-! Numbers -/

theorem digits?_whole {whole rest : List Char} (hne : whole ≠ []) (h : ∀ c ∈ whole, c.isDigit)
    (hrest : Ends rest) : digits? (whole ++ rest) = some (whole, rest) := by
  rw [digits?, run?_append hne h (hrest.eq_false rfl rfl)]
  split
  · next heq =>
    cases heq
    have hpoint := hrest '.' rfl
    simp at hpoint
  · rfl

theorem digits?_point {whole fraction rest : List Char} (hwhole : whole ≠ [])
    (hfraction : fraction ≠ []) (h : ∀ c ∈ whole, c.isDigit) (h' : ∀ c ∈ fraction, c.isDigit)
    (hrest : Ends rest) :
    digits? (whole ++ '.' :: fraction ++ rest) = some (whole ++ '.' :: fraction, rest) := by
  have hrun : run? Char.isDigit (whole ++ '.' :: (fraction ++ rest)) =
      some (whole, '.' :: (fraction ++ rest)) := run?_append hwhole h (by simp)
  rw [List.append_assoc, List.cons_append, digits?, hrun]
  simp only [run?_append hfraction h' (hrest.eq_false rfl rfl)]

theorem digits?_positional (d : Decimal) {rest : List Char} (hrest : Ends rest) :
    digits? (d.positional ++ rest) = some (d.positional, rest) := by
  rcases d.positional_cases with
    ⟨_, heq⟩ | ⟨whole, fraction, zeros, heq, hwhole, hfraction, hdigits, _⟩
  · have hne : d.digits ≠ [] := Nat.toDigits_ne_nil
    rw [heq]
    refine digits?_whole (by simp [hne]) (fun c hc => ?_) hrest
    exact Decimal.isDigit_of_mem_padded (d := d) (List.mem_append.mpr (List.mem_append.mp hc).symm)
  · have hall : ∀ c ∈ whole ++ fraction, c.isDigit := by
      rw [hdigits]
      exact fun c => Decimal.isDigit_of_mem_padded
    rw [List.forall_mem_append] at hall
    rw [heq]
    exact digits?_point hwhole hfraction hall.1 hall.2 hrest

theorem number?_of_digits? {cs digits rest : List Char} (h : digits? cs = some (digits, rest)) :
    number? cs = some (String.ofList digits, rest) := by
  unfold number?
  split
  · rw [digits?, run?_eq_none_of_head rfl] at h
    cases h
  · rw [h]
    rfl

theorem number?_number {x : Binary64} (hx : x.isFinite) {rest : List Char} (hrest : Ends rest) :
    number? ((number x).toList ++ rest) = some (number x, rest) := by
  have hdigits := digits?_positional (Decimal.shortest .up x) hrest
  have htoken : number x = String.ofList (number x).toList := String.ofList_toList.symm
  rw [htoken, String.toList_ofList, toList_number hx]
  split
  · rw [List.cons_append, number?, hdigits]
    rfl
  · exact number?_of_digits? hdigits

theorem head_of_number? {cs : List Char} {found : String × List Char}
    (h : number? cs = some found) : ∃ c tail, cs = c :: tail ∧ (c = '-' ∨ c.isDigit) := by
  unfold number? at h
  split at h
  · exact ⟨_, _, rfl, .inl rfl⟩
  · cases hrun : run? Char.isDigit cs with
    | none =>
      rw [digits?, hrun] at h
      cases h
    | some run =>
      obtain ⟨c, tail, hcs, hc⟩ := head_of_run? hrun
      exact ⟨c, tail, hcs, .inr hc⟩

/-! Literals -/

theorem name?_of_constant? {cs rest : List Char} {literal : Literal}
    (h : constant? cs = some (literal, rest)) : ∃ name, name? cs = some (name, rest) := by
  unfold constant? at h
  split at h
  · next name left hname =>
    obtain ⟨_, _, heq⟩ := Option.map_eq_some_iff.mp h
    cases heq
    exact ⟨name, hname⟩
  · cases h

theorem literal?_of_text? {cs rest : List Char} {value : String} (h : text? cs = some (value, rest))
    (depth : Nat) : literal? depth cs = some (.text value, rest) := by
  cases cs with
  | nil => cases h
  | cons c cs =>
    have hquote : c = '"' := by
      by_contra hquote
      rw [text?, if_neg hquote] at h
      cases h
    rw [literal?.eq_def]
    subst hquote
    show Option.map _ (text? _) = _
    rw [h]
    rfl

theorem literal?_of_number? {cs rest : List Char} {token : String}
    (h : number? cs = some (token, rest)) (depth : Nat) :
    literal? depth cs = some (.number token, rest) := by
  obtain ⟨c, tail, rfl, hc⟩ := head_of_number? h
  have hbracket : c ≠ '(' := by
    rintro rfl
    simp at hc
  have hquote : c ≠ '"' := by
    rintro rfl
    simp at hc
  rw [literal?.eq_def]
  dsimp only
  rw [if_neg hbracket, if_neg hquote, if_pos (by simpa using hc), h]
  rfl

theorem literal?_of_constant? {cs rest : List Char} {literal : Literal}
    (h : constant? cs = some (literal, rest)) (depth : Nat) :
    literal? depth cs = some (literal, rest) := by
  obtain ⟨name, hname⟩ := name?_of_constant? h
  obtain ⟨c, tail, rfl, hc, hdigit⟩ := head_of_name? hname
  have hminus : c ≠ '-' := ne_of_isNameChar hc rfl
  rw [literal?.eq_def]
  dsimp only
  rw [if_neg (ne_of_isNameChar hc rfl), if_neg (ne_of_isNameChar hc rfl),
    if_neg (by simp [hdigit, hminus]), h]

theorem cases_of_literal? {depth : Nat} {cs : List Char} {found : Literal × List Char}
    (h : literal? depth cs = some found) :
    (∃ c tail, cs = c :: tail ∧ (c = '(' ∨ c = '"' ∨ c = '-' ∨ c.isDigit)) ∨
      constant? cs = some found := by
  rw [literal?.eq_def] at h
  split at h
  · cases h
  · next c cs =>
    split at h
    · next hbracket => exact .inl ⟨c, cs, rfl, .inl hbracket⟩
    · split at h
      · next hquote => exact .inl ⟨c, cs, rfl, .inr (.inl hquote)⟩
      · split at h
        · next hnumber => exact .inl ⟨c, cs, rfl, .inr (.inr (by simpa using hnumber))⟩
        · exact .inr h

theorem name?_eq_none {c : Char} (h : isNameChar c = false ∨ c.isDigit) (cs : List Char) :
    name? (c :: cs) = none := by
  cases hname : name? (c :: cs) with
  | none => rfl
  | some found =>
    obtain ⟨d, tail, heq, hchar, hdigit⟩ := head_of_name? hname
    cases heq
    rcases h with h | h
    · rw [h] at hchar
      cases hchar
    · rw [h] at hdigit
      cases hdigit

theorem keyword?_eq_none_of_literal? {depth : Nat} {cs rest : List Char} {value : Literal}
    (h : literal? depth cs = some (value, rest)) (hrest : Ends rest) : keyword? cs = none := by
  rcases cases_of_literal? h with ⟨c, tail, rfl, hc⟩ | hconstant
  · have hname : name? (c :: tail) = none := by
      apply name?_eq_none
      rcases hc with rfl | rfl | rfl | hdigit
      · exact .inl rfl
      · exact .inl rfl
      · exact .inl rfl
      · exact .inr hdigit
    rw [keyword?, hname]
  · obtain ⟨name, hname⟩ := name?_of_constant? hconstant
    rw [keyword?, hname]
    -- A constant is a name as well, but what follows an item is not the sign of a keyword.
    split
    · next heq =>
      cases heq
      have hsign := hrest '=' rfl
      simp at hsign
    · rfl

/-! Items -/

/--
The text of an item is read to its end and not taken for a blank or for the closing bracket.
-/
structure IsItem {α : Type} (item? : List Char → Option (α × List Char)) (text : List Char)
    (value : α) : Prop where
  starts : ∃ c tail, text = c :: tail ∧ c ≠ ' ' ∧ c ≠ ')'
  reads : ∀ rest, Ends rest → item? (text ++ rest) = some (value, rest)

namespace IsItem

theorem literal {depth : Nat} {text : List Char} {value : Literal}
    (h : ∀ rest, Ends rest → literal? depth (text ++ rest) = some (value, rest)) :
    IsItem (literal? depth) text value where
  starts := by
    have hread := h [] (by simp [Ends])
    rw [List.append_nil] at hread
    rcases cases_of_literal? hread with ⟨c, tail, rfl, hc⟩ | hconstant
    · refine ⟨c, tail, rfl, ?_, ?_⟩
      · rintro rfl
        simp at hc
      · rintro rfl
        simp at hc
    · obtain ⟨name, hname⟩ := name?_of_constant? hconstant
      obtain ⟨c, tail, rfl, hc, _⟩ := head_of_name? hname
      exact ⟨c, tail, rfl, ne_of_isNameChar hc rfl, ne_of_isNameChar hc rfl⟩
  reads := h

variable {depth : Nat} {text : List Char} {value : Literal}

theorem positional (h : IsItem (literal? depth) text value) :
    IsItem (argument? depth) text ⟨none, value⟩ where
  starts := h.starts
  reads rest hrest := by
    have hread := h.reads rest hrest
    rw [argument?, keyword?_eq_none_of_literal? hread hrest, hread]
    rfl

theorem keyword {name : String} (hname : isName name) (h : IsItem (literal? depth) text value) :
    IsItem (argument? depth) (name.toList ++ '=' :: text) ⟨some name, value⟩ where
  starts := by
    have hread := name?_append hname [] (by simp)
    obtain ⟨c, tail, heq, hc, _⟩ := head_of_name? hread
    rw [List.append_nil] at heq
    exact ⟨c, tail ++ '=' :: text, by rw [heq, List.cons_append], ne_of_isNameChar hc rfl,
      ne_of_isNameChar hc rfl⟩
  reads rest hrest := by
    rw [argument?, List.append_assoc, List.cons_append, keyword?_append hname]
    dsimp only
    rw [h.reads rest hrest]
    rfl

variable {α : Type} {item? : List Char → Option (α × List Char)} {value : α}

theorem skipBlanks_append (h : IsItem item? text value) (rest : List Char) :
    skipBlanks (text ++ rest) = text ++ rest := by
  obtain ⟨c, tail, rfl, hblank, _⟩ := h.starts
  rw [skipBlanks, List.cons_append, List.dropWhile_cons_of_neg (by simpa using hblank)]

theorem items?_last (h : IsItem item? text value) {front rest : List Char}
    (hfront : skipBlanks front = text ++ ')' :: rest) :
    items? item? front = some (([value], false), rest) := by
  have hread := h.reads _ (ends_bracket rest)
  obtain ⟨c, tail, rfl, _, hbracket⟩ := h.starts
  rw [items?.eq_def, hfront]
  split
  · next heq =>
    cases heq
    contradiction
  · rw [hread]
    rfl

theorem items?_comma (h : IsItem item? text value) {front rest : List Char}
    (hfront : skipBlanks front = text ++ ',' :: rest) :
    items? item? front =
      (items? item? rest).map fun ((items, ended), left) => ((value :: items, ended), left) := by
  have hread := h.reads _ (ends_comma rest)
  -- The reader stops where its text does not get shorter, which never happens here.
  have hlt : rest.length < front.length := by
    have hle : (skipBlanks front).length ≤ front.length := List.length_dropWhile_le _ _
    rw [hfront, List.length_append, List.length_cons] at hle
    omega
  obtain ⟨c, tail, rfl, _, hbracket⟩ := h.starts
  rw [items?.eq_def, hfront]
  split
  · next heq =>
    cases heq
    contradiction
  · rw [hread]
    exact if_pos hlt

end IsItem

/-! Items between brackets -/

section

variable {α : Type} {item? : List Char → Option (α × List Char)} {items : List (String × α)}

theorem skipBlanks_intercalate (h : ∀ item ∈ items, IsItem item? item.1.toList item.2)
    (rest : List Char) :
    skipBlanks ((", ".intercalate (items.map Prod.fst)).toList ++ ')' :: rest) =
      (", ".intercalate (items.map Prod.fst)).toList ++ ')' :: rest := by
  cases items with
  | nil => rfl
  | cons item items =>
    have hitem := h item List.mem_cons_self
    cases items with
    | nil =>
      rw [List.map_singleton, String.intercalate_singleton]
      exact hitem.skipBlanks_append _
    | cons next items =>
      rw [List.map_cons, List.map_cons, String.intercalate_cons_cons, String.append_assoc,
        String.toList_append, List.append_assoc]
      exact hitem.skipBlanks_append _

theorem items?_intercalate (h : ∀ item ∈ items, IsItem item? item.1.toList item.2)
    {front rest : List Char}
    (hfront : skipBlanks front =
      (", ".intercalate (items.map Prod.fst)).toList ++ ')' :: rest) :
    items? item? front = some ((items.map Prod.snd, items.isEmpty), rest) := by
  induction items generalizing front with
  | nil =>
    rw [items?.eq_def, hfront]
    rfl
  | cons item items ih =>
    rw [List.forall_mem_cons] at h
    cases items with
    | nil =>
      rw [List.map_singleton, String.intercalate_singleton] at hfront
      exact h.1.items?_last hfront
    | cons next items =>
      have hjoin : (", ".intercalate ((item :: next :: items).map Prod.fst)).toList ++ ')' :: rest =
          item.1.toList ++ ',' ::
            (' ' :: ((", ".intercalate ((next :: items).map Prod.fst)).toList ++ ')' :: rest)) := by
        simp [String.intercalate_cons_cons]
      -- The blank behind the comma is skipped before the next item is read.
      have hnext : items? item?
          (' ' :: ((", ".intercalate ((next :: items).map Prod.fst)).toList ++ ')' :: rest)) =
            some (((next :: items).map Prod.snd, false), rest) :=
        ih h.2 (skipBlanks_intercalate h.2 rest)
      rw [h.1.items?_comma (hfront.trans hjoin), hnext]
      rfl

end

theorem literal?_of_items? {depth : Nat} {cs rest : List Char} {items : List Literal} {ended : Bool}
    (h : items? (literal? depth) cs = some ((items, ended), rest))
    (htuple : ended = false → items.length ≠ 1) :
    literal? (depth + 1) ('(' :: cs) = some (.tuple items, rest) := by
  rw [literal?.eq_def]
  dsimp only
  rw [if_pos rfl, h]
  split
  · next heq =>
    cases heq
    exact absurd rfl (htuple rfl)
  · next heq =>
    cases heq
    rfl
  · contradiction

theorem literal?_tuple {depth : Nat} {items : List (String × Literal)}
    (h : ∀ item ∈ items, IsItem (literal? depth) item.1.toList item.2) (rest : List Char) :
    literal? (depth + 1) ((Setting.tuple (items.map Prod.fst)).toList ++ rest) =
      some (.tuple (items.map Prod.snd), rest) := by
  have hempty : items? (literal? depth) (')' :: rest) = some (([], true), rest) := by
    rw [items?.eq_def]
    rfl
  match items, h with
  | [], _ => exact literal?_of_items? hempty (by simp)
  -- The comma behind a single item tells the tuple from an item in brackets.
  | [item], h =>
    have hitem := h item List.mem_cons_self
    have hread := hitem.items?_comma (hitem.skipBlanks_append (',' :: ')' :: rest))
    rw [hempty] at hread
    have htext : (Setting.tuple [item.1]).toList ++ rest =
        '(' :: (item.1.toList ++ ',' :: ')' :: rest) := by
      simp [Setting.tuple]
    rw [List.map_singleton, htext]
    exact literal?_of_items? hread (by simp)
  | first :: second :: items, h =>
    have hread := items?_intercalate h (skipBlanks_intercalate h rest)
    have htext : (Setting.tuple ((first :: second :: items).map Prod.fst)).toList ++ rest =
        '(' :: ((", ".intercalate ((first :: second :: items).map Prod.fst)).toList ++
          ')' :: rest) := by
      simp [Setting.tuple]
    rw [htext]
    exact literal?_of_items? hread (by simp)

theorem isItem_atom {atom : Atom} (h : atom.isFinite) (depth : Nat) :
    IsItem (literal? depth) atom.code.toList atom.literal := by
  apply IsItem.literal
  intro rest hrest
  cases atom with
  | number x => exact literal?_of_number? (number?_number h hrest) depth
  | text s => exact literal?_of_text? (text?_quoted s rest) depth

theorem constant?_append (name : String) {literal : Literal} {rest : List Char}
    (h : constants.lookup name = some literal) (hname : isName name) (hrest : Ends rest) :
    constant? (name.toList ++ rest) = some (literal, rest) := by
  rw [constant?, name?_append hname rest (hrest.eq_false rfl rfl)]
  dsimp only
  rw [h]
  rfl

theorem isItem_setting {setting : Setting} (h : setting.isFinite) (depth : Nat) :
    IsItem (literal? (depth + 1)) setting.code.toList setting.literal := by
  apply IsItem.literal
  intro rest hrest
  cases setting with
  | bool b =>
    cases b with
    | true => exact literal?_of_constant? (constant?_append "True" rfl rfl hrest) _
    | false => exact literal?_of_constant? (constant?_append "False" rfl rfl hrest) _
  | number x => exact literal?_of_number? (number?_number h hrest) _
  | text s => exact literal?_of_text? (text?_quoted s rest) _
  | list items =>
    have hitems : ∀ item ∈ items.map fun atom => (atom.code, atom.literal),
        IsItem (literal? depth) item.1.toList item.2 := by
      rw [List.forall_mem_map]
      exact fun atom hatom => isItem_atom (List.all_eq_true.mp h atom hatom) depth
    have hread := literal?_tuple hitems rest
    rwa [List.map_map, List.map_map] at hread
  | other document =>
    exact literal?_of_constant? (constant?_append "None" rfl rfl hrest) _

/-! Calls -/

theorem ofArguments?_append (callee : List String) (positional : List Literal)
    (keywords : List (String × Literal)) :
    Application.ofArguments? callee (positional.map (⟨none, ·⟩) ++
      keywords.map fun keyword => ⟨some keyword.1, keyword.2⟩) =
        some ⟨callee, positional, keywords⟩ := by
  have hkeywords : Application.ofArguments? callee
      (keywords.map fun keyword => ⟨some keyword.1, keyword.2⟩) = some ⟨callee, [], keywords⟩ := by
    induction keywords with
    | nil => rfl
    | cons keyword keywords ih =>
      rw [List.map_cons, Application.ofArguments?, ih]
  induction positional with
  | nil => exact hkeywords
  | cons value positional ih =>
    rw [List.map_cons, List.cons_append, Application.ofArguments?, ih]

theorem call?_code {call : Call} (name : String) (names : List String)
    (hcallee : call.callee = ".".intercalate (name :: names))
    (hnames : ∀ part ∈ name :: names, isName part)
    (hpositional : ∀ setting ∈ call.positional, setting.isFinite)
    (hkeywords : ∀ keyword ∈ call.keywords, isName keyword.1 ∧ keyword.2.isFinite)
    (rest : List Char) :
    call? (call.code.toList ++ rest) =
      some (⟨name :: names, call.positional.map Setting.literal,
        call.keywords.map fun keyword => (keyword.1, keyword.2.literal)⟩, rest) := by
  let items : List (String × Argument) :=
    call.positional.map (fun setting => (setting.code, ⟨none, setting.literal⟩)) ++
      call.keywords.map fun keyword =>
        (Call.keywordCode keyword, ⟨some keyword.1, keyword.2.literal⟩)
  let inside := (", ".intercalate (items.map Prod.fst)).toList ++ ')' :: rest
  -- What is inside the brackets is not empty, so lists can be read as well.
  obtain ⟨depth, hdepth⟩ : ∃ depth, inside.length = depth + 1 :=
    Nat.exists_eq_succ_of_ne_zero (by simp [inside])
  have hitems : ∀ item ∈ items, IsItem (argument? inside.length) item.1.toList item.2 := by
    rw [hdepth, List.forall_mem_append, List.forall_mem_map, List.forall_mem_map]
    constructor
    · intro setting hsetting
      exact (isItem_setting (hpositional setting hsetting) depth).positional
    · intro keyword hkeyword
      obtain ⟨hname, hfinite⟩ := hkeywords keyword hkeyword
      have hitem := (isItem_setting hfinite depth).keyword hname
      simpa [Call.keywordCode] using hitem
  have hread := items?_intercalate hitems (skipBlanks_intercalate hitems rest)
  have htext : call.code.toList ++ rest =
      (".".intercalate (name :: names)).toList ++ '(' :: inside := by
    simp [Call.code, hcallee, inside, items, Function.comp_def]
  have hvalues : items.map Prod.snd = (call.positional.map Setting.literal).map (⟨none, ·⟩) ++
      (call.keywords.map fun keyword => (keyword.1, keyword.2.literal)).map
        fun keyword => ⟨some keyword.1, keyword.2⟩ := by
    simp [items, Function.comp_def]
  rw [htext, call?, path?_intercalate hnames]
  simp only [hread, inside, hvalues, ofArguments?_append]
  rfl

end Code.Reader
end NetScript
