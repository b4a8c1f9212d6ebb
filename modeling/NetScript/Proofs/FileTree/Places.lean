import NetScript.FileTree

/-!
This module contains the places of a tree that an operation on a path looks at: those that the path
leads through, and the one of its last name. The main statements are that what is read and where is
written depends on these places only, and that writes of files never change which file a path names.
-/

namespace NetScript.FileTree

variable {tree tree' : FileTree} {dir : List String} {name path : String}

def lookedUp (dir : List String) (name : String) : List (List String) :=
  if name = "." ∨ name = ".." then [] else [dir ++ [name]]

def passedFrom (tree : FileTree) (dir : List String) : List String → List (List String)
  | [] => []
  | name :: names =>
    lookedUp dir name ++
      match tree.step dir name with
      | .ok dir => tree.passedFrom dir names
      | .error _ => []

/--
The places that the path leads through before its last name, up to the first one that is no
directory.
-/
def passed (tree : FileTree) (path : String) : List (List String) :=
  if (FileError.ofPath? path).isSome then []
  else tree.passedFrom (tree.start path) (Path.names path).dropLast

def lastPlace? (tree : FileTree) (path : String) : Option (List String) :=
  match tree.resolve path with
  | .ok (dir, some name) => some (dir ++ [name])
  | _ => none

/--
The place of the file that the path names, whether there is one already or not.
-/
def filePlace? (tree : FileTree) (path : String) : Option (List String) :=
  (tree.lastPlace? path).filter (tree.find? · ≠ some .directory)

def enter (tree : FileTree) (names : List String) (dir : List String) :
    Except FileError (List String × Option String) :=
  match names.getLast? with
  | none => .ok (dir, none)
  | some name =>
    if name = "." ∨ name = ".." then (tree.step dir name).map (·, none) else .ok (dir, some name)

theorem resolve_eq (tree : FileTree) (path : String) :
    tree.resolve path =
      match FileError.ofPath? path with
      | some e => .error e
      | none =>
        ((Path.names path).dropLast.foldlM tree.step (tree.start path)).bind
          (tree.enter (Path.names path)) := by
  unfold resolve
  cases FileError.ofPath? path with
  | some e => rfl
  | none =>
    show (_ >>= _) = (_ >>= _)
    congr 1
    funext dir
    unfold enter
    cases (Path.names path).getLast? with
    | none => rfl
    | some name =>
      simp only [Bool.or_eq_true, decide_eq_true_eq]
      split
      · cases tree.step dir name <;> rfl
      · rfl

def locate (tree : FileTree) (path : String) : Except FileError (List String × Option Item) :=
  match tree.resolve path with
  | .error e => .error e
  | .ok (_, none) => .error .isDirectory
  | .ok (dir, some name) => (tree.lookUp dir name).map (dir ++ [name], ·)

def readItem (path : String) : Option Item → Except FileError Contents
  | none => .error .notFound
  | some .directory => .error .isDirectory
  | some (.file contents) => if Path.endsWithSlash path then .error .notDirectory else .ok contents

theorem read_eq (tree : FileTree) (path : String) :
    tree.read path = (tree.locate path).bind fun (_, item?) => readItem path item? := by
  unfold read locate
  rcases tree.resolve path with e | ⟨dir, _ | name⟩
  · rfl
  · rfl
  · dsimp only [bind, Except.bind]
    rcases tree.lookUp dir name with e | _ | contents | _ <;> rfl

def refusal? (path : String) : Option Item → Option FileError
  | some .directory => some .isDirectory
  | some (.file _) => if Path.endsWithSlash path then some .notDirectory else none
  | none => if Path.endsWithSlash path then some .isDirectory else none

theorem refusal?_eq_none_iff {item? : Option Item} :
    refusal? path item? = none ↔ item? ≠ some .directory ∧ Path.endsWithSlash path = false := by
  rcases item? with _ | contents | _ <;> simp [refusal?]

def target (tree : FileTree) (path : String) : Except FileError (List String) :=
  (tree.locate path).bind fun (place, item?) =>
    match refusal? path item? with
    | some e => .error e
    | none => .ok place

theorem create_eq (tree : FileTree) (path : String) :
    tree.create path =
      (tree.target path).map fun place => (place, tree.insert place (.file .empty)) := by
  unfold create target locate
  rcases tree.resolve path with e | ⟨dir, _ | name⟩
  · rfl
  · rfl
  · dsimp only [bind, Except.bind]
    rcases tree.lookUp dir name with e | _ | contents | _ <;> dsimp only [Except.map, refusal?]
    · split <;> rfl
    · split <;> rfl
    · rfl

theorem step_congr (h : ∀ place ∈ lookedUp dir name, tree'.find? place = tree.find? place) :
    tree'.step dir name = tree.step dir name := by
  unfold lookedUp at h
  unfold step lookUp
  split
  · rfl
  · split
    · rfl
    · next hdot hdots =>
      rw [h]
      simp [hdot, hdots]

theorem enter_eq (tree tree' : FileTree) (names : List String) :
    tree.enter names = tree'.enter names := by
  funext dir
  unfold enter
  split
  · rfl
  · split
    · next hdots =>
      -- Only the names with dots are followed here, and these are not looked up.
      rw [step_congr]
      simp [lookedUp, hdots]
    · rfl

theorem foldlM_step_congr {names : List String}
    (h : ∀ place ∈ tree.passedFrom dir names, tree'.find? place = tree.find? place) :
    names.foldlM tree'.step dir = names.foldlM tree.step dir := by
  induction names generalizing dir with
  | nil => rfl
  | cons name names ih =>
    simp only [passedFrom, List.forall_mem_append] at h
    obtain ⟨hname, hnames⟩ := h
    rw [List.foldlM_cons, List.foldlM_cons, step_congr hname]
    cases hstep : tree.step dir name with
    | error e => rfl
    | ok next =>
      rw [hstep] at hnames
      exact ih hnames

theorem resolve_congr (hdir : tree'.workDir = tree.workDir)
    (h : ∀ place ∈ tree.passed path, tree'.find? place = tree.find? place) :
    tree'.resolve path = tree.resolve path := by
  have hstart : tree'.start path = tree.start path := by
    unfold start
    rw [hdir]
  rw [resolve_eq, resolve_eq]
  unfold passed at h
  cases hpath : FileError.ofPath? path with
  | some e => rfl
  | none =>
    simp only [hpath, Option.isSome_none, Bool.false_eq_true, ↓reduceIte] at h
    dsimp only
    rw [hstart, enter_eq tree' tree, foldlM_step_congr h]

theorem locate_congr (hdir : tree'.workDir = tree.workDir)
    (hpassed : ∀ place ∈ tree.passed path, tree'.find? place = tree.find? place)
    (hlast : ∀ place, tree.lastPlace? path = some place → tree'.find? place = tree.find? place) :
    tree'.locate path = tree.locate path := by
  unfold lastPlace? at hlast
  unfold locate
  rw [resolve_congr hdir hpassed]
  split
  · rfl
  · rfl
  · next dir name hresolve =>
    rw [hresolve] at hlast
    unfold lookUp
    rw [hlast _ rfl]

theorem lastPlace?_eq_some_iff {place : List String} :
    tree.lastPlace? path = some place ↔
      ∃ dir name, tree.resolve path = .ok (dir, some name) ∧ dir ++ [name] = place := by
  unfold lastPlace?
  split
  · next dir name hresolve => simp [hresolve, and_assoc]
  · next hresolve => simpa using fun dir name h => absurd h (hresolve dir name)

theorem locate_eq_ok_iff {place : List String} {item? : Option Item} :
    tree.locate path = .ok (place, item?) ↔
      ∃ dir name, tree.resolve path = .ok (dir, some name) ∧
        name.utf8ByteSize ≤ FileError.maxName ∧ dir ++ [name] = place ∧
        tree.find? place = item? := by
  unfold locate
  rcases tree.resolve path with e | ⟨dir, _ | name⟩
  · simp
  · simp
  · dsimp only
    unfold lookUp
    split
    · next hlong =>
      constructor
      · intro h
        contradiction
      · rintro ⟨_, _, heq, hname, -⟩
        cases heq
        omega
    · next hlong =>
      constructor
      · intro h
        cases h
        exact ⟨dir, name, rfl, Nat.not_lt.mp hlong, rfl, rfl⟩
      · rintro ⟨_, _, heq, -, rfl, rfl⟩
        cases heq
        rfl

theorem lastPlace?_of_locate {place : List String} {item? : Option Item}
    (h : tree.locate path = .ok (place, item?)) :
    tree.lastPlace? path = some place ∧ tree.find? place = item? := by
  obtain ⟨dir, name, hresolve, -, rfl, hitem⟩ := locate_eq_ok_iff.mp h
  rw [lastPlace?, hresolve]
  exact ⟨rfl, hitem⟩

theorem target_eq_ok_iff {place : List String} :
    tree.target path = .ok place ↔
      ∃ item?, tree.locate path = .ok (place, item?) ∧ refusal? path item? = none := by
  unfold target
  rcases tree.locate path with e | ⟨last, item?⟩
  · simp [Except.bind]
  · dsimp only [Except.bind]
    constructor
    · intro h
      split at h
      · contradiction
      · next hrefusal =>
        cases h
        exact ⟨item?, rfl, hrefusal⟩
    · rintro ⟨_, heq, hrefusal⟩
      cases heq
      rw [hrefusal]

theorem filePlace?_eq_some_iff {place : List String} :
    tree.filePlace? path = some place ↔
      tree.lastPlace? path = some place ∧ tree.find? place ≠ some .directory := by
  simp [filePlace?, Option.filter_eq_some_iff]

theorem filePlace?_of_target {place : List String} (h : tree.target path = .ok place) :
    tree.filePlace? path = some place := by
  obtain ⟨item?, hlocate, hrefusal⟩ := target_eq_ok_iff.mp h
  obtain ⟨hlast, rfl⟩ := lastPlace?_of_locate hlocate
  exact filePlace?_eq_some_iff.mpr ⟨hlast, (refusal?_eq_none_iff.mp hrefusal).1⟩

end NetScript.FileTree
