/-!
This module contains finite maps from keys to values, as lists of entries that are sorted by their
keys. Two maps with the same entries are therefore equal.
-/

namespace NetScript

/--
A finite map with its keys in the order of their code points.
-/
@[ext]
structure Fields (α : Type) where
  entries : List (String × α)
  sorted : entries.Pairwise (fun a b => a.1 < b.1)

namespace Fields

variable {α : Type}

def empty : Fields α := ⟨[], .nil⟩

def find? (fields : Fields α) (key : String) : Option α :=
  fields.entries.lookup key

/--
Puts an entry in its place among sorted ones, where it replaces the one with the same key.
-/
def insertEntry (key : String) (value : α) : List (String × α) → List (String × α)
  | [] => [(key, value)]
  | entry :: rest =>
    if key < entry.1 then
      (key, value) :: entry :: rest
    else if entry.1 < key then
      entry :: insertEntry key value rest
    else
      (key, value) :: rest

theorem mem_insertEntry {key : String} {value : α} {entries : List (String × α)}
    {entry : String × α} (h : entry ∈ insertEntry key value entries) :
    entry = (key, value) ∨ entry ∈ entries := by
  induction entries with
  | nil => simpa [insertEntry] using h
  | cons head rest ih =>
    unfold insertEntry at h
    grind

theorem pairwise_insertEntry (key : String) (value : α) {entries : List (String × α)}
    (h : entries.Pairwise (fun a b => a.1 < b.1)) :
    (insertEntry key value entries).Pairwise (fun a b => a.1 < b.1) := by
  induction entries with
  | nil => simp [insertEntry]
  | cons head rest ih =>
    rw [List.pairwise_cons] at h
    unfold insertEntry
    split
    · next hlt =>
      refine List.pairwise_cons.mpr ⟨?_, List.pairwise_cons.mpr h⟩
      intro entry hentry
      rcases List.mem_cons.mp hentry with rfl | hentry
      · exact hlt
      · exact String.lt_trans hlt (h.1 entry hentry)
    · next hle =>
      split
      · next hlt =>
        refine List.pairwise_cons.mpr ⟨?_, ih h.2⟩
        intro entry hentry
        rcases mem_insertEntry hentry with rfl | hentry
        · exact hlt
        · exact h.1 entry hentry
      · next hge =>
        have heq : key = head.1 := String.le_antisymm hge hle
        refine List.pairwise_cons.mpr ⟨?_, h.2⟩
        intro entry hentry
        rw [heq]
        exact h.1 entry hentry

def insert (fields : Fields α) (key : String) (value : α) : Fields α :=
  ⟨insertEntry key value fields.entries, pairwise_insertEntry key value fields.sorted⟩

def erase (fields : Fields α) (key : String) : Fields α :=
  ⟨fields.entries.filter (·.1 ≠ key), fields.sorted.filter _⟩

theorem lookup_insertEntry_self (key : String) (value : α) (entries : List (String × α)) :
    (insertEntry key value entries).lookup key = some value := by
  induction entries with
  | nil => simp [insertEntry]
  | cons head rest ih =>
    obtain ⟨k, v⟩ := head
    unfold insertEntry
    split
    · simp
    · split
      · next hlt =>
        have hne : (key == k) = false := by
          rw [beq_eq_false_iff_ne]
          rintro rfl
          exact String.lt_irrefl _ hlt
        simp [List.lookup_cons, hne, ih]
      · simp

theorem lookup_insertEntry_of_ne {key other : String} (value : α) (entries : List (String × α))
    (h : other ≠ key) : (insertEntry key value entries).lookup other = entries.lookup other := by
  have hne : (other == key) = false := by simpa using h
  induction entries with
  | nil => simp [insertEntry, List.lookup_cons, hne]
  | cons head rest ih =>
    obtain ⟨k, v⟩ := head
    unfold insertEntry
    split
    · simp [List.lookup_cons, hne]
    · next hle =>
      split
      · simp [List.lookup_cons, ih]
      · next hge =>
        have heq : key = k := String.le_antisymm hge hle
        simp [List.lookup_cons, ← heq, hne]

theorem lookup_filter_of_ne {κ β : Type} [DecidableEq κ] [BEq κ] [LawfulBEq κ] {k l : κ}
    (entries : List (κ × β)) (h : l ≠ k) : (entries.filter (·.1 ≠ k)).lookup l =
      entries.lookup l := by
  induction entries with
  | nil => rfl
  | cons entry entries ih =>
    obtain ⟨a, b⟩ := entry
    rw [List.filter_cons, List.lookup_cons]
    split
    · rw [List.lookup_cons, ih]
    · next ha =>
      have heq : a = k := by simpa using ha
      have hne : (l == a) = false := by
        rw [heq]
        simpa using h
      rw [hne, ih]

@[simp]
theorem find?_empty (key : String) : (empty : Fields α).find? key = none := rfl

@[simp]
theorem find?_insert_self (fields : Fields α) (key : String) (value : α) :
    (fields.insert key value).find? key = some value :=
  lookup_insertEntry_self key value fields.entries

theorem find?_insert_of_ne (fields : Fields α) {key other : String} (value : α)
    (h : other ≠ key) : (fields.insert key value).find? other = fields.find? other :=
  lookup_insertEntry_of_ne value fields.entries h

end Fields

end NetScript
