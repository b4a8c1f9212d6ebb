import Mathlib
import NetScript.Proofs.Export.Turns
import NetScript.Proofs.Script.Source

/-!
This module contains a run that leaves files which are no scripts. Two entries have both opened the
same file when the first one writes to it, so that the end of its script may stay behind the script
of the second one. Another entry opens its file, and then cannot write all of its script to it.
-/

namespace NetScript

theorem Contents.overwrite_ofText_ne {text text' : String}
    (hsize : text'.utf8ByteSize < text.utf8ByteSize) (hstart : ¬text'.toList <+: text.toList) :
    (ofText text).overwrite (ofText text') ≠ ofText text ∧
      (ofText text).overwrite (ofText text') ≠ ofText text' := by
  constructor
  · intro h
    exact hstart (isPrefix_of_overwrite_eq h)
  · intro h
    exact Nat.not_le.mpr hsize (overwrite_eq_iff.mp h)

/--
One more import, and nothing else, makes a source longer and different in the middle.
-/
theorem Script.source_of_more_imports {graph graph' : Graph} {line : String}
    (hlines : Preamble.lines graph'.nodes = Preamble.lines graph.nodes ++ [line])
    (hmodel : ModelClass.ofGraph graph' = ModelClass.ofGraph graph)
    (htraining : Training.ofNodes graph'.nodes = Training.ofNodes graph.nodes) :
    (ofGraph graph).source.utf8ByteSize < (ofGraph graph').source.utf8ByteSize ∧
      ¬(ofGraph graph).source.toList <+: (ofGraph graph').source.toList := by
  have himports : (ofGraph graph').imports.toList =
      (ofGraph graph).imports.toList ++ '\n' :: line.toList := by
    show ("\n".intercalate (Preamble.lines graph'.nodes)).toList = _
    rw [hlines, String.intercalate_append_of_ne_nil (Preamble.block_lines _).ne_nil (by simp)]
    simp [ofGraph, Preamble.render]
  have htext : (ofGraph graph').training = (ofGraph graph).training :=
    congrArg Training.render htraining
  have hmem : line ∈ Preamble.lines graph'.nodes := by
    rw [hlines]
    simp
  have hvisible := Preamble.visible_of_mem_lines hmem
  constructor
  · rw [← String.size_toByteArray, ← String.size_toByteArray, ← String.utf8Encode_toList,
      ← String.utf8Encode_toList, source_ofGraph, source_ofGraph, himports, hmodel, htext]
    have hmore : 0 < ('\n' :: line.toList).utf8Encode.size := by
      rw [Nat.pos_iff_ne_zero, ne_eq, ByteArray.size_eq_zero_iff, List.utf8Encode_eq_empty]
      exact List.cons_ne_nil _ _
    simp only [List.utf8Encode_append, ByteArray.size_append]
    omega
  · rw [source_ofGraph, source_ofGraph, himports, List.append_assoc, List.prefix_append_right_inj]
    have hnewline := Code.newline_not_mem hvisible.1
    cases hline : line.toList with
    | nil =>
      have hne := Text.ne_empty_of_endsVisibly hvisible.2
      exact absurd (String.toList_eq_nil_iff.mp hline) hne
    | cons c cs =>
      rw [hline, List.mem_cons, not_or] at hnewline
      simp [Text.gap, hnewline.1]

namespace Export

variable {first second third : Manifest.Entry} {start : FileTree} {text text' : String}
variable {script script' : Script} {place place' : List String}
variable {taken : Contents} {error : FileError}

theorem after_torn (manifest : Manifest) (base : String)
    (hprograms : manifest.programs = [first, second, third])
    (hread : start.readText (Manifest.graphPath base first) = .ok text)
    (hread' : start.readText (Manifest.graphPath base second) = .ok text')
    (hread'' : start.readText (Manifest.graphPath base third) = .ok text')
    (hcompile : Script.compileText text = .ok script)
    (hcompile' : Script.compileText text' = .ok script')
    (htarget : start.target (manifest.scriptPath base first) = .ok place)
    (htarget' : start.target (manifest.scriptPath base second) = .ok place)
    (htarget'' : start.target (manifest.scriptPath base third) = .ok place')
    (hne : place' ≠ place) (hlimit : start.limits.lookup place = none)
    (haccept : start.accept place' (.ofText script'.source) = (taken, .error error)) :
    ∃ progress tree,
      after manifest base start ([0, 0, 1, 1, 2, 2, 0, 1, 2, 0, 1, 2] ++ inOrder 3) =
          (progress, tree) ∧
        progress.failures = [.unwritable (manifest.scriptPath base third) error] ∧
        tree.find? place =
          some (.file ((Contents.ofText script.source).overwrite (.ofText script'.source))) ∧
        tree.find? place' = some (.file taken) := by
  have hfirst := FileTree.sameDirectories_insert_of_target htarget .empty
  have hsecond := hfirst.trans
    (FileTree.sameDirectories_insert_of_target (hfirst.target_of_eq_ok htarget') .empty)
  let opened := ((start.insert place (.file .empty)).insert place (.file .empty)).insert place'
    (.file .empty)
  let written := (opened.overwrite place (.ofText script.source)).overwrite place
    (.ofText script'.source)
  have hfile : opened.find? place = some (.file .empty) := by
    rw [FileTree.find?_insert_of_ne _ _ hne.symm, FileTree.find?_insert_self]
  have hfile' : opened.find? place' = some (.file .empty) := FileTree.find?_insert_self _ _ _
  have hlimit' : opened.limits.lookup place = none := hlimit
  have hlimit'' : (opened.overwrite place (.ofText script.source)).limits.lookup place = none := by
    rw [FileTree.limits_overwrite, hlimit']
  have hlimits : written.limits = start.limits := by
    rw [FileTree.limits_overwrite, FileTree.limits_overwrite]
    rfl
  rw [← FileTree.accept_congr hlimits] at haccept
  have h : after manifest base start [] =
      (⟨[⟨first, .waiting⟩, ⟨second, .waiting⟩, ⟨third, .waiting⟩], [], []⟩, start) := by
    show (Progress.start manifest, start) = _
    rw [Progress.start, hprograms]
    rfl
  obtain ⟨_, h⟩ := after_concat_eq h 0 rfl (.load hread)
  obtain ⟨_, h⟩ := after_concat_eq h 0 rfl (.compile hcompile)
  obtain ⟨_, h⟩ := after_concat_eq h 1 rfl (.load hread')
  obtain ⟨_, h⟩ := after_concat_eq h 1 rfl (.compile hcompile')
  obtain ⟨_, h⟩ := after_concat_eq h 2 rfl (.load hread'')
  obtain ⟨_, h⟩ := after_concat_eq h 2 rfl (.compile hcompile')
  -- All files are opened before any of them is written.
  obtain ⟨_, h⟩ := after_concat_eq h 0 rfl (.opens (FileTree.create_of_target htarget))
  obtain ⟨_, h⟩ := after_concat_eq h 1 rfl
    (.opens (FileTree.create_of_target (hfirst.target_of_eq_ok htarget')))
  obtain ⟨_, h⟩ := after_concat_eq h 2 rfl
    (.opens (FileTree.create_of_target (hsecond.target_of_eq_ok htarget'')))
  obtain ⟨_, h⟩ := after_concat_eq h 0 rfl (advances_exported hlimit' text script)
  obtain ⟨_, h⟩ := after_concat_eq h 1 rfl (advances_exported hlimit'' text' script')
  obtain ⟨_, h⟩ := after_concat_eq h 2 rfl (.cut (congrArg Prod.snd haccept))
  refine ⟨_, _, after_append_of_isDone h ?_ (inOrder 3), rfl, ?_, ?_⟩
  · simp [Progress.record, Stage.isDone]
  · rw [FileTree.find?_overwrite_of_ne _ _ hne.symm, FileTree.find?_overwrite_self,
      FileTree.find?_overwrite_self, hfile]
    simp [FileTree.Item.overwrite]
  · rw [FileTree.find?_overwrite_self, FileTree.find?_overwrite_of_ne _ _ hne,
      FileTree.find?_overwrite_of_ne _ _ hne, hfile', haccept]
    simp [FileTree.Item.overwrite]

/-! A tree for such a run -/

namespace Torn

def long : String :=
  "\x7b\"nodes\":[\x7b\"id\":\"v\",\"kind\":\"visualize\"\x7d],\"edges\":[]\x7d"

def short : String :=
  "\x7b\"nodes\":[],\"edges\":[]\x7d"

def longGraph : Graph :=
  ⟨[⟨"v", "visualize", none, .empty⟩], []⟩

def shortGraph : Graph :=
  ⟨[], []⟩

def manifestText : String :=
  "\x7b\"programs\":[\x7b\"id\":\"a\",\"path\":\"l\"\x7d,\x7b\"id\":\"a\",\"path\":\"s\"\x7d," ++
    "\x7b\"id\":\"b\",\"path\":\"s\"\x7d]\x7d"

def manifest : Manifest :=
  ⟨"generated", [⟨"a", "l"⟩, ⟨"a", "s"⟩, ⟨"b", "s"⟩]⟩

def noSpace : FileError :=
  .other "No space left on device (os error 28)"

/--
The first two entries share their script, and there is no space for the one of the third entry.
-/
def tree : FileTree where
  items :=
    [ ([], .directory),
      (["generated"], .directory),
      (["m"], .file (.ofText manifestText)),
      (["l"], .file (.ofText long)),
      (["s"], .file (.ofText short)) ]
  workDir := []
  limits := [(["generated", "b.py"], ⟨0, noSpace⟩)]

theorem parse_manifestText : Manifest.parse manifestText = .ok manifest := by
  set_option maxRecDepth 1000 in
  cbv

theorem compileText_long : Script.compileText long = .ok (.ofGraph longGraph) := by
  have hread : Script.readGraph long = .ok (some longGraph) := by
    cbv
  rw [Script.compileText, hread]
  rfl

theorem compileText_short : Script.compileText short = .ok (.ofGraph shortGraph) := by
  have hread : Script.readGraph short = .ok (some shortGraph) := by
    cbv
  rw [Script.compileText, hread]
  rfl

theorem accept_tree (script : Script) :
    tree.accept ["generated", "b.py"] (.ofText script.source) = (.empty, .error noSpace) := by
  have hsize : 0 < (Contents.ofText script.source).size := by
    show 0 < script.source.utf8ByteSize
    rw [Script.source, String.utf8ByteSize_append]
    exact Nat.add_pos_right _ (by decide)
  have hlimit : tree.limits.lookup ["generated", "b.py"] = some ⟨0, noSpace⟩ := rfl
  rw [FileTree.accept, hlimit]
  dsimp only
  rw [if_pos hsize, Contents.take_zero]

theorem overwrite_source_ne :
    let torn := (Contents.ofText (Script.ofGraph longGraph).source).overwrite
      (.ofText (Script.ofGraph shortGraph).source)
    torn ≠ .ofText (Script.ofGraph longGraph).source ∧
      torn ≠ .ofText (Script.ofGraph shortGraph).source := by
  have hlines : Preamble.lines longGraph.nodes =
      Preamble.lines shortGraph.nodes ++ ["import matplotlib.pyplot as plt"] := rfl
  obtain ⟨hsize, hstart⟩ := Script.source_of_more_imports hlines rfl rfl
  exact Contents.overwrite_ofText_ne hsize hstart

theorem after_tree :
    ∃ progress tree',
      after manifest "" tree ([0, 0, 1, 1, 2, 2, 0, 1, 2, 0, 1, 2] ++ inOrder 3) =
          (progress, tree') ∧
        progress.failures = [.unwritable "generated/b.py" noSpace] ∧
        tree'.find? ["generated", "a.py"] =
          some (.file ((Contents.ofText (Script.ofGraph longGraph).source).overwrite
            (.ofText (Script.ofGraph shortGraph).source))) ∧
        tree'.find? ["generated", "b.py"] = some (.file .empty) := by
  have htarget : tree.target "generated/a.py" = .ok ["generated", "a.py"] := rfl
  have htarget' : tree.target "generated/b.py" = .ok ["generated", "b.py"] := rfl
  exact after_torn manifest "" rfl (FileTree.readText_of_read rfl) (FileTree.readText_of_read rfl)
    (FileTree.readText_of_read rfl) compileText_long compileText_short htarget htarget htarget'
    (by decide) rfl (accept_tree _)

end Torn

end Export

end NetScript
