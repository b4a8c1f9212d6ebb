import NetScript.Node.Json
import NetScript.Proofs.Category
import NetScript.Proofs.Json.Objects
import NetScript.Proofs.Setting.Shapes

/-!
This module contains the objects that nodes are read from. The main statement is that a node does
not depend on how its object is spelled: on the order of its members, the names of its fields,
members that belong to no field and a category that is missing or `null`. An object that gives a
field twice, or has no name or no kind, is never a node.
-/

namespace NetScript.Node

open Json.Grammar Json.Reader

def spellings : List (List String) :=
  [["id"], ["kind", "type"], ["category"], ["parameters", "params"]]

def Omits (members : List Member) (names : List String) : Prop :=
  ∀ member ∈ members, ∀ key ∈ names, ¬member.Names key

/--
Objects that are meant to be the same node, by their members.
-/
inductive Respelled : List Member → List Member → Prop where
  | permuted {members members' : List Member} (h : members.Perm members') :
      Respelled members members'
  /-- Blanks and the escapes of the key may change as well. -/
  | renamed {members : List Member} {member member' : Member} {key key' : String}
      (hkey : member.Names key) (hkey' : member'.Names key')
      (h : key = key' ∨ ∃ names ∈ spellings, key ∈ names ∧ key' ∈ names)
      (hvalue : member.value = member'.value) :
      Respelled (member :: members) (member' :: members)
  | nullCategory {members : List Member} {member : Member} (hkey : member.Names "category")
      (hvalue : member.value = ['n', 'u', 'l', 'l'])
      (hmissing : Omits members ["category"]) :
      Respelled members (member :: members)
  | unknown {members : List Member} {member : Member} {key : String} (hkey : member.Names key)
      (hunknown : ∀ names ∈ spellings, key ∉ names) : Respelled members (member :: members)
  | symm {members members' : List Member} (h : Respelled members members') :
      Respelled members' members
  | trans {members members' members'' : List Member} (h : Respelled members members')
      (h' : Respelled members' members'') : Respelled members members''

/--
Two members give the same field, under the same or under different names.
-/
def GivesTwice (members : List Member) : Prop :=
  ∃ names ∈ spellings, ∃ key ∈ names, ∃ key' ∈ names, ∃ front middle back member member',
    members = front ++ member :: (middle ++ member' :: back) ∧ member.Names key ∧
      member'.Names key'

inductive Part where
  | id (id : String)
  | kind (kind : String)
  | category (category : Option Category)
  | settings (settings : Fields Setting)
  | nothing

def Part.of? (depth : Nat) (key : String) (value : List Char) : Option Part :=
  if key = "id" then
    (taken text value).map .id
  else if key = "kind" ∨ key = "type" then
    (taken text value).map .kind
  else if key = "category" then
    (taken (optional (Category.read depth)) value).map .category
  else if key = "parameters" ∨ key = "params" then
    (taken (map Setting.read depth) value).map .settings
  else
    some .nothing

def Draft.add (draft : Draft) : Part → Option Draft
  | .id id => if draft.id.isSome then none else some { draft with id := some id }
  | .kind kind => if draft.kind.isSome then none else some { draft with kind := some kind }
  | .category category =>
    if draft.category.isSome then none else some { draft with category := some category }
  | .settings settings =>
    if draft.settings.isSome then none else some { draft with settings := some settings }
  | .nothing => some draft

variable {depth : Nat}

theorem Draft.add_comm (draft : Draft) (p q : Part) :
    (draft.add p).bind (·.add q) = (draft.add q).bind (·.add p) := by
  obtain ⟨id, kind, category, settings⟩ := draft
  cases p <;> cases q <;> cases id <;> cases kind <;> cases category <;> cases settings <;> rfl

theorem settled_fill {slot : Json.Slot Draft} (hslot : slot ∈ record.slots) (draft : Draft)
    {value : List Char} (h : IsValue value) : Settled (slot.fill depth draft) value := by
  have hsetting (depth : Nat) (value : List Char) (hvalue : IsValue value) :
      Settled (Setting.read depth) value := by
    rw [Setting.read_eq]
    exact (settled_value hvalue depth).map Setting.ofJson
  have htext := settled_text h
  have hcategory := settled_optional h (Category.settled_read h depth)
  have hsettings := settled_map h hsetting depth
  simp only [record, List.mem_cons, List.not_mem_nil, or_false] at hslot
  rcases hslot with rfl | rfl | rfl | rfl
  · exact htext.map fun id => { draft with id := some id }
  · exact htext.map fun kind => { draft with kind := some kind }
  · exact hcategory.map fun category => { draft with category := some category }
  · exact hsettings.map fun settings => { draft with settings := some settings }

theorem move_eq (draft : Draft) (key : String) (value : List Char) :
    record.move depth draft key value = (Part.of? depth key value).bind draft.add := by
  -- All fields are alike: a field is refused if it is there already, and filled otherwise.
  have hfield {α : Type} (reader : Json.Reader α) (set : α → Draft) (part : α → Part)
      (isFilled : Bool) (hadd : ∀ a, draft.add (part a) = if isFilled then none else some (set a)) :
      (if isFilled then none else taken (set <$> reader) value) =
        ((taken reader value).map part).bind draft.add := by
    rw [taken_map]
    cases isFilled <;> cases taken reader value <;> simp [hadd]
  rw [Json.Record.move, Part.of?]
  split_ifs with hid hkind hcategory hsettings
  · subst hid
    exact hfield text (fun id => { draft with id := some id }) .id _ fun _ => rfl
  · rcases hkind with rfl | rfl <;>
      exact hfield text (fun kind => { draft with kind := some kind }) .kind _ fun _ => rfl
  · subst hcategory
    exact hfield (optional (Category.read depth))
      (fun category => { draft with category := some category }) .category _ fun _ => rfl
  · rcases hsettings with rfl | rfl <;>
      exact hfield (map Setting.read depth)
        (fun settings => { draft with settings := some settings }) .settings _ fun _ => rfl
  · have hnone : record.slots.find? (·.isNamed key) = none := by
      simp_all [record, Json.Slot.isNamed, idSlot, kindSlot, categorySlot, settingsSlot]
    rw [hnone]
    rfl

def said? (depth : Nat) (member : Member) : Option Part :=
  (spelled? member.key).bind fun key => Part.of? depth key member.value

def Draft.take (depth : Nat) (draft : Draft) (member : Member) : Option Draft :=
  (said? depth member).bind draft.add

def ofMembers? (depth : Nat) (members : List Member) : Option Node :=
  (members.foldlM (Draft.take depth) {}).bind fun draft => draft.finish.toOption

theorem outcome_read (object : Object) {lead : List Char} (hlead : AreBlank lead)
    (rest : List Char) :
    outcome (read (depth + 1)) (lead ++ (object.text ++ rest)) =
      (ofMembers? depth object.members).map fun node => (node, rest) := by
  have htake : (fun draft (member : Member) => moveTo (record.move depth) draft member.toEntry) =
      Draft.take depth := by
    funext draft member
    rw [moveTo, Draft.take, said?, Option.bind_assoc]
    simp only [move_eq]
  have hsettled (slot : Json.Slot Draft) (hslot : slot ∈ record.slots) (draft : Draft)
      (value : List Char) (hvalue : IsValue value) : Settled (slot.fill depth draft) value :=
    settled_fill hslot draft hvalue
  rw [read, Json.Record.outcome_read hlead hsettled, Json.Record.draft?, htake]
  rfl

theorem Part.of?_congr {key key' : String}
    (h : ∃ names ∈ spellings, key ∈ names ∧ key' ∈ names) (value : List Char) :
    of? depth key value = of? depth key' value := by
  obtain ⟨names, hnames, hkey, hkey'⟩ := h
  simp only [spellings, List.mem_cons, List.not_mem_nil, or_false] at hnames
  rcases hnames with rfl | rfl | rfl | rfl <;>
    simp only [List.mem_cons, List.not_mem_nil, or_false] at hkey hkey'
  · rw [hkey, hkey']
  · rcases hkey with rfl | rfl <;> rcases hkey' with rfl | rfl <;> rfl
  · rw [hkey, hkey']
  · rcases hkey with rfl | rfl <;> rcases hkey' with rfl | rfl <;> rfl

theorem said?_of_names {member : Member} {key : String} (h : member.Names key) :
    said? depth member = Part.of? depth key member.value := by
  rw [said?, Member.names_iff.mp h, Option.bind_some]

theorem Part.of?_category_null :
    of? depth "category" ['n', 'u', 'l', 'l'] = some (.category none) := by
  rfl

theorem Part.of?_unknown {key : String} (h : ∀ names ∈ spellings, key ∉ names) (value : List Char) :
    of? depth key value = some .nothing := by
  have hid : key ∉ ["id"] := h _ (by decide)
  have hkind : key ∉ ["kind", "type"] := h _ (by decide)
  have hcategory : key ∉ ["category"] := h _ (by decide)
  have hsettings : key ∉ ["parameters", "params"] := h _ (by decide)
  simp only [List.mem_cons, List.not_mem_nil, or_false] at hid hkind hcategory hsettings
  rw [of?, if_neg hid, if_neg hkind, if_neg hcategory, if_neg hsettings]

theorem Draft.take_comm (draft : Draft) (member member' : Member) :
    (draft.take depth member).bind (·.take depth member') =
      (draft.take depth member').bind (·.take depth member) := by
  unfold take
  cases said? depth member with
  | none => simp
  | some p =>
    cases said? depth member' with
    | none => simp
    | some q => exact draft.add_comm p q

theorem foldlM_take_perm {members members' : List Member} (h : members.Perm members')
    (draft : Draft) :
    members.foldlM (Draft.take depth) draft = members'.foldlM (Draft.take depth) draft := by
  -- As a fold over drafts that may be missing, the order of commuting steps does not count.
  rw [List.foldlM_eq_foldl, List.foldlM_eq_foldl]
  refine h.foldl_eq' (fun member _ member' _ found => ?_) _
  cases found with
  | none => rfl
  | some draft => exact draft.take_comm member member'

def Part.names : Part → List String
  | .id _ => ["id"]
  | .kind _ => ["kind", "type"]
  | .category _ => ["category"]
  | .settings _ => ["parameters", "params"]
  | .nothing => []

theorem Part.mem_names {key : String} {value : List Char} {part : Part}
    (h : of? depth key value = some part) : part = .nothing ∨ key ∈ part.names := by
  unfold of? at h
  split_ifs at h with hid hkind hcategory hsettings
  · obtain ⟨id, _, rfl⟩ := Option.map_eq_some_iff.mp h
    exact .inr (by simp [names, hid])
  · obtain ⟨kind, _, rfl⟩ := Option.map_eq_some_iff.mp h
    exact .inr (by simpa [names] using hkind)
  · obtain ⟨category, _, rfl⟩ := Option.map_eq_some_iff.mp h
    exact .inr (by simp [names, hcategory])
  · obtain ⟨settings, _, rfl⟩ := Option.map_eq_some_iff.mp h
    exact .inr (by simpa [names] using hsettings)
  · cases h
    exact .inl rfl

theorem names_ne_of_omits {members : List Member} {names : List String} (hnames : names ∈ spellings)
    (homits : Omits members names) {member : Member} (hmember : member ∈ members) {part : Part}
    (h : said? depth member = some part) : part.names ≠ names := by
  rintro rfl
  rw [said?, Option.bind_eq_some_iff] at h
  obtain ⟨key, hkey, hpart⟩ := h
  rcases Part.mem_names hpart with rfl | hmem
  · simp [Part.names, spellings] at hnames
  · exact homits member hmember key hmem (Member.names_iff.mpr hkey)

def Draft.withCategory (draft : Draft) (category : Option (Option Category)) : Draft :=
  { draft with category }

theorem Draft.add_withCategory {part : Part} (h : part.names ≠ ["category"]) (draft : Draft)
    (category : Option (Option Category)) :
    (draft.withCategory category).add part = (draft.add part).map (·.withCategory category) := by
  cases part <;> simp only [add, withCategory] <;> grind [Part.names]

theorem foldlM_withCategory {members : List Member} (h : Omits members ["category"])
    (draft : Draft) (category : Option (Option Category)) :
    members.foldlM (Draft.take depth) (draft.withCategory category) =
      (members.foldlM (Draft.take depth) draft).map (·.withCategory category) := by
  induction members generalizing draft with
  | nil => rfl
  | cons member members ih =>
    have hmember : (draft.withCategory category).take depth member =
        (draft.take depth member).map (·.withCategory category) := by
      rw [Draft.take, Draft.take]
      cases hsaid : said? depth member with
      | none => rfl
      | some part =>
        exact Draft.add_withCategory
          (names_ne_of_omits (by decide) h List.mem_cons_self hsaid) draft category
    rw [List.foldlM_cons, List.foldlM_cons, hmember]
    cases draft.take depth member with
    | none => rfl
    | some next => exact ih (fun other hother => h other (List.mem_cons_of_mem member hother)) next

theorem ofMembers?_nullCategory {members : List Member} {member : Member}
    (hkey : member.Names "category") (hvalue : member.value = ['n', 'u', 'l', 'l'])
    (h : Omits members ["category"]) :
    ofMembers? depth members = ofMembers? depth (member :: members) := by
  have htake : Draft.take depth {} member = some (Draft.withCategory {} (some none)) := by
    rw [Draft.take, said?_of_names hkey, hvalue, Part.of?_category_null]
    rfl
  -- No other member looks at the category, so it can be set before them or behind them.
  have hmissing : members.foldlM (Draft.take depth) {} =
      (members.foldlM (Draft.take depth) {}).map (·.withCategory none) :=
    foldlM_withCategory h {} none
  have hfinish (draft : Draft) :
      (draft.withCategory none).finish = (draft.withCategory (some none)).finish := rfl
  rw [ofMembers?, ofMembers?, List.foldlM_cons, htake]
  show _ = (members.foldlM (Draft.take depth) (Draft.withCategory {} (some none))).bind _
  rw [foldlM_withCategory h, hmissing, Option.bind_map, Option.map_map, Option.bind_map]
  rfl

theorem Respelled.ofMembers?_eq {members members' : List Member} (h : Respelled members members') :
    ofMembers? depth members = ofMembers? depth members' := by
  induction h with
  | permuted h => rw [ofMembers?, ofMembers?, foldlM_take_perm h]
  | @renamed members member member' key key' hkey hkey' hsame hvalue =>
    have hsaid : said? depth member = said? depth member' := by
      rw [said?_of_names hkey, said?_of_names hkey', ← hvalue]
      rcases hsame with rfl | hsame
      · rfl
      · exact Part.of?_congr hsame _
    have htake : Draft.take depth {} member = Draft.take depth {} member' := by
      rw [Draft.take, Draft.take, hsaid]
    rw [ofMembers?, ofMembers?, List.foldlM_cons, List.foldlM_cons, htake]
  | nullCategory hkey hvalue hmissing => exact ofMembers?_nullCategory hkey hvalue hmissing
  | @unknown members member key hkey hunknown =>
    have htake : Draft.take depth {} member = some {} := by
      rw [Draft.take, said?_of_names hkey, Part.of?_unknown hunknown]
      rfl
    rw [ofMembers?, ofMembers?, List.foldlM_cons, htake]
    rfl
  | symm _ ih => exact ih.symm
  | trans _ _ ih ih' => exact ih.trans ih'

theorem Draft.add_same {p q : Part} (h : p.names = q.names) (hp : p ≠ .nothing) (draft : Draft) :
    (draft.add p).bind (·.add q) = none := by
  cases p <;> cases q <;> simp [Part.names] at h hp <;> grind [add]

theorem Part.names_eq {key : String} {value : List Char} {part : Part} {names : List String}
    (hnames : names ∈ spellings) (hkey : key ∈ names) (h : of? depth key value = some part) :
    part.names = names ∧ part ≠ .nothing := by
  simp only [spellings, List.mem_cons, List.not_mem_nil, or_false] at hnames
  rcases hnames with rfl | rfl | rfl | rfl <;>
    simp only [List.mem_cons, List.not_mem_nil, or_false] at hkey
  · subst hkey
    obtain ⟨id, _, rfl⟩ := Option.map_eq_some_iff.mp h
    exact ⟨rfl, nofun⟩
  · rcases hkey with rfl | rfl <;>
      obtain ⟨kind, _, rfl⟩ := Option.map_eq_some_iff.mp h <;> exact ⟨rfl, nofun⟩
  · subst hkey
    obtain ⟨category, _, rfl⟩ := Option.map_eq_some_iff.mp h
    exact ⟨rfl, nofun⟩
  · rcases hkey with rfl | rfl <;>
      obtain ⟨settings, _, rfl⟩ := Option.map_eq_some_iff.mp h <;> exact ⟨rfl, nofun⟩

theorem ofMembers?_eq_none_of_givesTwice {members : List Member} (h : GivesTwice members) :
    ofMembers? depth members = none := by
  obtain ⟨names, hnames, key, hkey, key', hkey', front, middle, back, member, member', rfl, hmember,
    hmember'⟩ := h
  -- In front of all others the second of the two members is refused at once.
  have hperm : (front ++ member :: (middle ++ member' :: back)).Perm
      (member :: member' :: (front ++ (middle ++ back))) := by
    refine List.perm_middle.trans (.cons _ ?_)
    rw [← List.append_assoc, ← List.append_assoc]
    exact List.perm_middle
  have htwice : (Draft.take depth {} member).bind (·.take depth member') = none := by
    simp only [Draft.take, said?_of_names hmember, said?_of_names hmember']
    cases hp : Part.of? depth key member.value with
    | none => rfl
    | some p =>
      cases hq : Part.of? depth key' member'.value with
      | none => simp
      | some q =>
        obtain ⟨hpnames, hne⟩ := Part.names_eq hnames hkey hp
        obtain ⟨hqnames, _⟩ := Part.names_eq hnames hkey' hq
        exact Draft.add_same (hpnames.trans hqnames.symm) hne {}
  have hfold : (member :: member' :: (front ++ (middle ++ back))).foldlM (Draft.take depth) {} =
      ((Draft.take depth {} member).bind (·.take depth member')).bind fun draft =>
        (front ++ (middle ++ back)).foldlM (Draft.take depth) draft := by
    rw [List.foldlM_cons, Option.bind_assoc]
    rfl
  rw [ofMembers?, foldlM_take_perm hperm, hfold, htwice]
  rfl

theorem Draft.add_keeps {part : Part} {draft next : Draft} (h : draft.add part = some next) :
    (part.names ≠ ["id"] → next.id = draft.id) ∧
      (part.names ≠ ["kind", "type"] → next.kind = draft.kind) := by
  cases part <;> simp only [add, Part.names] at h ⊢ <;> grind

theorem foldlM_take_keeps {members : List Member} {draft last : Draft}
    (h : members.foldlM (Draft.take depth) draft = some last) :
    (Omits members ["id"] → last.id = draft.id) ∧
      (Omits members ["kind", "type"] → last.kind = draft.kind) := by
  induction members generalizing draft with
  | nil =>
    cases h
    exact ⟨fun _ => rfl, fun _ => rfl⟩
  | cons member members ih =>
    rw [List.foldlM_cons, Option.bind_eq_bind, Option.bind_eq_some_iff] at h
    obtain ⟨next, htake, hrest⟩ := h
    obtain ⟨part, hsaid, hadd⟩ := Option.bind_eq_some_iff.mp htake
    obtain ⟨hid, hkind⟩ := ih hrest
    obtain ⟨hnextId, hnextKind⟩ := Draft.add_keeps hadd
    have htail {names : List String} (homits : Omits (member :: members) names) :
        Omits members names :=
      fun other hother => homits other (List.mem_cons_of_mem member hother)
    refine ⟨fun homits => ?_, fun homits => ?_⟩
    · rw [hid (htail homits),
        hnextId (names_ne_of_omits (by decide) homits List.mem_cons_self hsaid)]
    · rw [hkind (htail homits),
        hnextKind (names_ne_of_omits (by decide) homits List.mem_cons_self hsaid)]

theorem ofMembers?_eq_none_of_omits {members : List Member}
    (h : Omits members ["id"] ∨ Omits members ["kind", "type"]) :
    ofMembers? depth members = none := by
  rw [ofMembers?, Option.bind_eq_none_iff]
  intro draft hfold
  obtain ⟨hid, hkind⟩ := foldlM_take_keeps hfold
  rcases h with h | h
  · rw [Draft.finish, hid h]
    rfl
  · rw [Draft.finish, hkind h]
    cases draft.id <;> rfl

def ofMembersAt? (depth : Nat) (members : List Member) : Option Node :=
  match depth with
  | 0 => none
  | depth + 1 => ofMembers? depth members

theorem Respelled.ofMembersAt?_eq {members members' : List Member} (h : Respelled members members')
    (depth : Nat) : ofMembersAt? depth members = ofMembersAt? depth members' := by
  cases depth with
  | zero => rfl
  | succ depth => exact h.ofMembers?_eq

theorem ofMembersAt?_eq_none {members : List Member}
    (h : GivesTwice members ∨ Omits members ["id"] ∨ Omits members ["kind", "type"]) (depth : Nat) :
    ofMembersAt? depth members = none := by
  cases depth with
  | zero => rfl
  | succ depth =>
    rcases h with h | h
    · exact ofMembers?_eq_none_of_givesTwice h
    · exact ofMembers?_eq_none_of_omits h

theorem outcome_read_eq (object : Object) {lead : List Char} (hlead : AreBlank lead) (depth : Nat)
    (rest : List Char) :
    outcome (read depth) (lead ++ (object.text ++ rest)) =
      (ofMembersAt? depth object.members).map fun node => (node, rest) := by
  cases depth with
  | zero => exact Json.Record.outcome_read_zero object hlead rest
  | succ depth => exact outcome_read object hlead rest

theorem run_read_eq_ok_iff {object : Object} {lead : List Char} (hlead : AreBlank lead)
    {rest : List Char} {node : Node} :
    (read depth).run (lead ++ (object.text ++ rest)) = .ok (node, rest) ↔
      ofMembersAt? depth object.members = some node := by
  rw [← outcome_eq_some_iff, outcome_read_eq object hlead]
  simp

theorem run_read_eq_error_iff {object : Object} {lead : List Char} (hlead : AreBlank lead)
    {rest : List Char} :
    (∃ failure, (read depth).run (lead ++ (object.text ++ rest)) = .error failure) ↔
      ofMembersAt? depth object.members = none := by
  rw [← outcome_eq_none_iff, outcome_read_eq object hlead, Option.map_eq_none_iff]

theorem parse_object_eq_ok_iff {object : Object} {lead behind : List Char} (hlead : AreBlank lead)
    (hbehind : AreBlank behind) {node : Node} :
    parse (String.ofList (lead ++ (object.text ++ behind))) = .ok node ↔
      ofMembersAt? maxDepth object.members = some node := by
  rw [parse, parseWith_eq_ok_iff, String.toList_ofList]
  constructor
  · rintro ⟨rest, hrun, _⟩
    rw [← outcome_eq_some_iff, outcome_read_eq object hlead, Option.map_eq_some_iff] at hrun
    obtain ⟨found, hfound, heq⟩ := hrun
    cases heq
    exact hfound
  · intro h
    exact ⟨behind, (run_read_eq_ok_iff hlead).mpr h, hbehind⟩

theorem exists_parse_object_eq_error {object : Object} {lead : List Char} (hlead : AreBlank lead)
    (h : ofMembersAt? maxDepth object.members = none) (rest : List Char) :
    ∃ error, parse (String.ofList (lead ++ (object.text ++ rest))) = .error error := by
  cases hparse : parse (String.ofList (lead ++ (object.text ++ rest))) with
  | error error => exact ⟨error, rfl⟩
  | ok node =>
    obtain ⟨left, hrun, _⟩ := parseWith_eq_ok_iff.mp hparse
    obtain ⟨failure, hfailure⟩ := (run_read_eq_error_iff hlead).mpr h
    rw [String.toList_ofList, hfailure] at hrun
    cases hrun

/--
Whether a node is read from an object, and which one, is the same for all ways to write it. Objects
with a field twice, without an `id` or without a `kind` are refused.
-/
theorem read_object (object : Object) :
    (∀ object' : Object, Respelled object.members object'.members →
      (∀ depth lead lead' rest rest', AreBlank lead → AreBlank lead' →
        (∀ node, (read depth).run (lead ++ (object.text ++ rest)) = .ok (node, rest) ↔
          (read depth).run (lead' ++ (object'.text ++ rest')) = .ok (node, rest')) ∧
        ((∃ failure, (read depth).run (lead ++ (object.text ++ rest)) = .error failure) ↔
          ∃ failure, (read depth).run (lead' ++ (object'.text ++ rest')) = .error failure)) ∧
      ∀ lead lead' behind behind', AreBlank lead → AreBlank lead' → AreBlank behind →
        AreBlank behind' → ∀ node,
          parse (String.ofList (lead ++ (object.text ++ behind))) = .ok node ↔
            parse (String.ofList (lead' ++ (object'.text ++ behind'))) = .ok node) ∧
    (GivesTwice object.members ∨ Omits object.members ["id"] ∨
        Omits object.members ["kind", "type"] →
      ∀ lead rest, AreBlank lead →
        (∀ depth, ∃ failure, (read depth).run (lead ++ (object.text ++ rest)) = .error failure) ∧
        ∃ error, parse (String.ofList (lead ++ (object.text ++ rest))) = .error error) := by
  refine ⟨fun object' h => ⟨fun depth lead lead' rest rest' hlead hlead' => ?_,
    fun lead lead' behind behind' hlead hlead' hbehind hbehind' node => ?_⟩, ?_⟩
  · refine ⟨fun node => ?_, ?_⟩
    · rw [run_read_eq_ok_iff hlead, run_read_eq_ok_iff hlead', h.ofMembersAt?_eq]
    · rw [run_read_eq_error_iff hlead, run_read_eq_error_iff hlead', h.ofMembersAt?_eq]
  · rw [parse_object_eq_ok_iff hlead hbehind, parse_object_eq_ok_iff hlead' hbehind',
      h.ofMembersAt?_eq]
  · intro h lead rest hlead
    have hnone (depth : Nat) := ofMembersAt?_eq_none h depth
    exact ⟨fun depth => (run_read_eq_error_iff hlead).mpr (hnone depth),
      exists_parse_object_eq_error hlead (hnone _) rest⟩

def tightMember {key : String} (hkey : Spells key.toList key.toList) {value : List Char}
    (hvalue : IsValue value) : Member where
  lead := []
  value
  behind := []
  before := []
  key := key.toList
  gap := []
  blank_lead := areBlank_nil
  blank_behind := areBlank_nil
  blank_before := areBlank_nil
  blank_gap := areBlank_nil
  isBody_key := hkey.isBody
  isValue := hvalue

theorem names_tightMember_iff {key other : String} (hkey : Spells key.toList key.toList)
    {value : List Char} (hvalue : IsValue value) :
    (tightMember hkey hvalue).Names other ↔ other = key := by
  have hspelled : spelled? key.toList = some key := by
    rw [spelled?_of_spells hkey, String.ofList_toList]
  rw [Member.names_iff, tightMember, hspelled, Option.some.injEq]
  exact eq_comm

theorem read_object_of_aliases :
    (∀ node, parse "\x7b\"id\":\"a\",\"kind\":\"b\"\x7d" = .ok node ↔
      parse "\x7b\"x\":null,\"type\":\"b\",\"id\":\"a\",\"category\":null\x7d" = .ok node) ∧
    ∃ error, parse "\x7b\"kind\":\"b\",\"type\":\"b\"\x7d" = .error error := by
  have hkey (key : String) (h : key.toList.all fun c => c ≠ '"' && c ≠ '\\' && 0x20 ≤ c.toNat) :
      Spells key.toList key.toList :=
    spells_self h
  have hx := hkey "x" (by decide)
  have hid := hkey "id" (by decide)
  have hkind := hkey "kind" (by decide)
  have htype := hkey "type" (by decide)
  have hcategory := hkey "category" (by decide)
  have ha : IsValue ['"', 'a', '"'] := .string (hkey "a" (by decide)).isBody
  have hb : IsValue ['"', 'b', '"'] := .string (hkey "b" (by decide)).isBody
  have hnames {key : String} (hkey : Spells key.toList key.toList) {value : List Char}
      (hvalue : IsValue value) : (tightMember hkey hvalue).Names key :=
    (names_tightMember_iff hkey hvalue).mpr rfl
  have hmissing : Omits [tightMember hx .nullWord, tightMember htype hb, tightMember hid ha]
      ["category"] := by
    simp [Omits, names_tightMember_iff]
  have hrespelled : Respelled [tightMember hid ha, tightMember hkind hb]
      [tightMember hx .nullWord, tightMember htype hb, tightMember hid ha,
        tightMember hcategory .nullWord] :=
    .trans (.permuted (.swap _ _ _)) <|
      .trans (.renamed (hnames hkind hb) (hnames htype hb)
        (.inr ⟨["kind", "type"], by decide, by decide, by decide⟩) rfl) <|
      .trans (.unknown (hnames hx .nullWord) (by decide)) <|
      .trans (.nullCategory (hnames hcategory .nullWord) rfl hmissing) <|
      .permuted (List.perm_append_singleton _ [_, _, _]).symm
  have htwice : GivesTwice [tightMember hkind hb, tightMember htype hb] :=
    ⟨["kind", "type"], by decide, "kind", by decide, "type", by decide, [], [], [], _, _, rfl,
      hnames hkind hb, hnames htype hb⟩
  refine ⟨fun node => ?_, ?_⟩
  · exact ((read_object ⟨[], _, areBlank_nil⟩).1 ⟨[], _, areBlank_nil⟩ hrespelled).2 [] [] [] []
      areBlank_nil areBlank_nil areBlank_nil areBlank_nil node
  · exact ((read_object ⟨[], _, areBlank_nil⟩).2 (.inl htwice) [] [] areBlank_nil).2

end NetScript.Node
