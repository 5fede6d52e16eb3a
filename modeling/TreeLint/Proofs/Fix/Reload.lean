import Mathlib
import TreeLint.Proofs.Disk.Place
import TreeLint.Proofs.Fix.DryRun
import TreeLint.Proofs.Text.Part

/-! # Loading fixed files again

A byte order mark is taken off when a file is loaded and put back when it is written, so a file
that was fixed is loaded again with its new content and its mark (`saveAll_reload`).  New content
that begins with a mark loses it where the file had none.  And a file can be in a set more than
once, with fixes for each: what is written last is what stays.  What a dry run reports is what is
written, unless it takes fixes of files in memory (`not_reloads`).
-/

namespace TreeLint

/-! ## Loading -/

/-- A file as it is in a set after it was loaded from a disk. -/
def File.LoadedFrom (d : Disk) (path : Text) (f : File) : Prop :=
  ∃ bytes, d.read path = .ok bytes ∧
    ∃ files : FileSet, (files.load path bytes).1.files = files.files ++ [f]

/-- The bytes of a file that is loaded as some content, with a mark or without one. -/
def File.Bytes (bytes : Text) (f : File) : Prop :=
  if f.flags.hadMark then bytes = File.withMark f.content
  else bytes = f.content ∧ ¬ File.byteOrderMark <+: bytes

theorem FileSet.load_eq (files : FileSet) (path bytes : Text) :
    ∃ f, (files.load path bytes).1.files = files.files ++ [f] ∧ f.path = Path.clean path ∧
      f.flags.inMemory = false ∧ f.Bytes bytes := by
  rw [FileSet.load]
  cases cut : Text.afterHead? File.byteOrderMark bytes with
  | some content => exact ⟨_, rfl, rfl, rfl, Text.afterHead?_eq_some.mp cut⟩
  | none =>
    refine ⟨_, rfl, rfl, rfl, rfl, fun mark => ?_⟩
    obtain ⟨content, rfl⟩ := mark
    rw [Text.afterHead?_eq_some.mpr rfl] at cut
    contradiction

/-- A file is known by its cleaned path, and that leads to where it was loaded from. -/
theorem File.LoadedFrom.path_eq {d : Disk} {path : Text} {f : File}
    (loaded : f.LoadedFrom d path) : f.path = Path.clean path := by
  obtain ⟨bytes, -, files, eq⟩ := loaded
  obtain ⟨g, eq', cleaned, -⟩ := files.load_eq path bytes
  obtain rfl : g = f := by simpa using eq'.symm.trans eq
  exact cleaned

theorem File.LoadedFrom.exists_read {d : Disk} (rooted : Path.isAbsolute d.cwd) {path : Text}
    {f : File} (loaded : f.LoadedFrom d path) :
    (∃ bytes, d.read path = .ok bytes) ∧ d.place path = d.place f.path := by
  refine ⟨loaded.imp fun bytes h => h.1, ?_⟩
  rw [loaded.path_eq, Disk.place_clean rooted]

/-- Content that is written with the mark it had, or without one where it had none, is loaded again
as it was, unless it had none and begins with one. -/
theorem File.Bytes.reload_iff {f : File} {content : Text} {had : Bool}
    (loaded : f.Bytes (if had then File.withMark content else content)) :
    (f.content = content ∧ f.flags.hadMark = had) ↔
      (had = true ∨ ¬ File.byteOrderMark <+: content) := by
  cases had with
  | true =>
    simp only [File.Bytes, if_true] at loaded
    split at loaded
    next marked => simpa [marked] using (List.append_cancel_left loaded).symm
    · exact absurd (List.prefix_append File.byteOrderMark content) loaded.2
  | false =>
    simp only [File.Bytes, Bool.false_eq_true, if_false] at loaded
    split at loaded
    next marked =>
      have begins : File.byteOrderMark <+: content := loaded ▸ List.prefix_append _ _
      simp [marked, begins]
    next unmarked => simp [unmarked, loaded.1.symm, loaded.2]

namespace Fix

/-! ## Writing changes -/

/-- Files that can be read can be written over one after the other.  What was written last to
where a path leads is then read from it, and what was there where nothing was written. -/
theorem saveAll_read {d : Disk} (rooted : Path.isAbsolute d.cwd) {cs : List Change}
    (there : ∀ c ∈ cs, ∃ path bytes, d.read path = .ok bytes ∧
      d.place path = d.place c.file.path) :
    ∃ d', saveAll d cs = (d', none) ∧ ∀ path, d'.read path
      = match cs.reverse.find? fun c => d.place c.file.path == d.place path with
        | some c => (d.read path).map fun _ => c.bytes
        | none => d.read path := by
  induction cs generalizing d with
  | nil => exact ⟨d, rfl, fun _ => rfl⟩
  | cons c cs ih =>
    obtain ⟨known, old, reads, here⟩ := there c List.mem_cons_self
    obtain ⟨d₁, written, cwd, after⟩ :=
      Disk.read_write rooted (here ▸ Disk.at?_of_read rooted reads) c.bytes
    have place (path : Text) : d₁.place path = d.place path := by rw [Disk.place, Disk.place, cwd]
    have still : ∀ c' ∈ cs, ∃ path bytes, d₁.read path = .ok bytes ∧
        d₁.place path = d₁.place c'.file.path := by
      intro c' mem
      obtain ⟨path, bytes, reads, same⟩ := there c' (List.mem_cons_of_mem _ mem)
      simp only [place, after]
      by_cases hit : d.place path = d.place c.file.path
      · exact ⟨path, c.bytes, by rw [if_pos hit, reads]; rfl, same⟩
      · exact ⟨path, bytes, by rw [if_neg hit, reads], same⟩
    obtain ⟨d', saved, last⟩ := ih (cwd ▸ rooted) still
    refine ⟨d', by simp only [saveAll, Change.save, written, saved], fun path => ?_⟩
    simp only [place, after] at last
    rw [last, List.reverse_cons, List.find?_append]
    cases later : cs.reverse.find? fun c => d.place c.file.path == d.place path with
    | some c' =>
      rw [Option.some_or]
      dsimp only
      split
      · cases d.read path <;> rfl
      · rfl
    | none =>
      rw [Option.none_or, List.find?_singleton]
      by_cases hit : d.place path = d.place c.file.path
      · simp [hit]
      · simp [hit, Ne.symm hit]

/-- What is loaded again after all changes of a pass were written.  The pass makes the changes of
its dry run, unless that one changes files in memory, and all are written.  A file that no later
one is written over is loaded again with its new content and its mark, unless it had no mark and
the content begins with one. -/
theorem saveAll_reload {d : Disk} {files : FileSet} (rooted : Path.isAbsolute d.cwd)
    (small : ∀ f ∈ files.files, f.content.length < UInt32.size)
    (loaded : ∀ f ∈ files.files, f.flags.inMemory = false → ∃ path, f.LoadedFrom d path)
    (ds : List Diagnostic) (mode : Mode) :
    let real := (applyAll files ds mode false).changes
    let dry := (applyAll files ds mode true).changes
    (real = dry ↔ ∀ c ∈ dry, c.file.flags.inMemory = false) ∧
    ∃ d', saveAll d real = (d', none) ∧
      ∀ before c after path, real = before ++ c :: after →
        (∀ c' ∈ after, d.place c'.file.path ≠ d.place c.file.path) →
        c.file.LoadedFrom d path →
        ∃ bytes, d'.read path = .ok bytes ∧ ∀ again : FileSet, ∃ g,
          (again.load path bytes).1.files = again.files ++ [g] ∧ g.path = c.file.path ∧
          ((g.content = c.content ∧ g.flags.hadMark = c.file.flags.hadMark) ↔
            (c.file.flags.hadMark = true ∨ ¬ File.byteOrderMark <+: c.content)) := by
  intro real dry
  have there : ∀ c ∈ real, ∃ path bytes, d.read path = .ok bytes ∧
      d.place path = d.place c.file.path := by
    intro c mem
    obtain ⟨known, onDisk⟩ := onDisk_of_mem_changes small mem
    obtain ⟨path, from'⟩ := loaded c.file known onDisk
    obtain ⟨⟨bytes, read⟩, place⟩ := from'.exists_read rooted
    exact ⟨path, bytes, read, place⟩
  obtain ⟨d', saved, reads⟩ := saveAll_read rooted there
  refine ⟨changes_dryRun_iff small, d', saved, ?_⟩
  intro before c after path split last from'
  obtain ⟨⟨old, read⟩, place⟩ := from'.exists_read rooted
  have lastWrite : real.reverse.find? (fun c => d.place c.file.path == d.place path) = some c := by
    have none : after.reverse.find? (fun c => d.place c.file.path == d.place path) = none := by
      rw [List.find?_eq_none]
      intro c' mem same
      exact last c' (List.mem_reverse.mp mem) ((beq_iff_eq.mp same).trans place)
    rw [split, List.reverse_append, List.reverse_cons, List.append_assoc, List.find?_append, none,
      Option.none_or, List.singleton_append, List.find?_cons_of_pos (by simp [place])]
  refine ⟨c.bytes, by rw [reads, lastWrite, read]; rfl, fun again => ?_⟩
  obtain ⟨g, eq, named, -, bytes⟩ := again.load_eq path c.bytes
  exact ⟨g, eq, named.trans from'.path_eq.symm, bytes.reload_iff⟩

/-- A file that had a mark is loaded again with it, by the path that it was loaded by before. -/
theorem saveAll_reload_marked :
    let d : Disk := ⟨.cons "a.ts" (.file (File.withMark "ab")) .empty, "/"⟩
    let f : File := ⟨0, "a.ts", "ab", ⟨false, true, false⟩⟩
    let files : FileSet := ⟨[f], [], "/"⟩
    let ds := [{ Diagnostic.new .warning "r" [] ⟨0, 0, 1⟩ "m" with
      fixes := [.quick "t" [.insertBefore ⟨0, 0, 1⟩ "x"]] }]
    Path.isAbsolute d.cwd ∧ (∀ f ∈ files.files, f.content.length < UInt32.size) ∧
      f.LoadedFrom d "./a.ts" ∧
      ∃ d' bytes, saveAll d (applyAll files ds .all false).changes = (d', none) ∧
        d'.read "./a.ts" = .ok bytes ∧ ∀ again : FileSet, ∃ g,
          (again.load "./a.ts" bytes).1.files = again.files ++ [g] ∧
          g.content = utf8 "xab" ∧ g.flags.hadMark = true := by
  intro d f files ds
  have rooted : Path.isAbsolute d.cwd := by decide
  have small : ∀ f ∈ files.files, f.content.length < UInt32.size := by decide
  have loaded : f.LoadedFrom d "./a.ts" :=
    ⟨File.withMark "ab", rfl, ⟨[], [], "/"⟩, rfl⟩
  have made : (applyAll files ds .all false).changes.map (fun c => (c.file, c.content))
      = [(f, utf8 "xab")] := by decide +kernel
  obtain ⟨c, real, same⟩ := List.map_eq_singleton_iff.mp made
  obtain ⟨file, content⟩ := Prod.mk.inj same
  obtain ⟨-, d', saved, reload⟩ := saveAll_reload rooted small
    (fun f mem _ => ⟨"./a.ts", List.mem_singleton.mp mem ▸ loaded⟩) ds .all
  obtain ⟨bytes, read, again⟩ := reload [] c [] "./a.ts" real (by simp) (file ▸ loaded)
  refine ⟨rooted, small, loaded, d', bytes, saved, read, fun more => ?_⟩
  obtain ⟨g, eq, -, back⟩ := again more
  rw [content, file] at back
  obtain ⟨same, mark⟩ := back.mpr (.inl rfl)
  exact ⟨g, eq, same, mark⟩

/-- All that a dry run reports for the files of a disk is what is loaded once it is written. -/
def Reloads (d : Disk) (files : FileSet) (ds : List Diagnostic) (mode : Mode) : Prop :=
  ∀ d', saveAll d (applyAll files ds mode false).changes = (d', none) →
    ∀ c ∈ (applyAll files ds mode true).changes,
    (∃ c' ∈ (applyAll files ds mode false).changes, c'.file = c.file) →
    (c.file.flags.hadMark = true ∨ ¬ File.byteOrderMark <+: c.content) →
    ∀ path, c.file.LoadedFrom d path → ∀ g : File, g.LoadedFrom d' path →
      g.content = c.content ∧ g.flags.hadMark = c.file.flags.hadMark

/-- It takes one file without a mark that is read as other bytes than were reported. -/
theorem not_reloads_of_read {d d' : Disk} {files : FileSet} {ds : List Diagnostic} {mode : Mode}
    {real dry : List Change} {c c' : Change} {path bytes : Text}
    (written : (applyAll files ds mode false).changes = real)
    (reported : (applyAll files ds mode true).changes = dry)
    (saved : saveAll d real = (d', none)) (read : d'.read path = .ok bytes)
    (mem : c ∈ dry) (mem' : c' ∈ real) (file : c'.file = c.file)
    (loaded : c.file.LoadedFrom d path) (unmarked : c.file.flags.hadMark = false)
    (plain : ¬ File.byteOrderMark <+: c.content) (other : c.content ≠ bytes) :
    ¬ Reloads d files ds mode := by
  subst written reported
  intro reloads
  obtain ⟨g, eq, -, -, marked⟩ := FileSet.load_eq (.empty [] []) path bytes
  obtain ⟨back, mark⟩ := reloads d' saved c mem ⟨c', mem', file⟩ (.inr plain) path
    loaded g ⟨bytes, read, _, eq⟩
  rw [unmarked] at mark
  rw [File.Bytes, mark, if_neg Bool.false_ne_true] at marked
  exact other (back.symm.trans marked.1.symm)

/-- Where a file is in a set twice, one is written over the other, and where a dry run takes a fix
of a file in memory, it can make other changes. -/
theorem not_reloads :
    let d : Disk := ⟨.cons "a.ts" (.file "ab") .empty, "/"⟩
    let f (id : FileId) : File := ⟨id, "a.ts", "ab", ⟨false, false, false⟩⟩
    let g : File := ⟨1, "b.ts", "b", ⟨true, false, false⟩⟩
    let report (fixes : List Fix) : Diagnostic :=
      { Diagnostic.new .warning "r" [] ⟨0, 0, 0⟩ "m" with fixes }
    let fix (id : Text) (edits : List Edit) : Fix := { Fix.quick "t" edits with id }
    ¬ Reloads d ⟨[f 0, f 1], [], "/"⟩
        [report [fix "1" [.insertBefore ⟨0, 0, 0⟩ "x", .insertBefore ⟨1, 2, 2⟩ "y"]]] .all ∧
      ¬ Reloads d ⟨[f 0, g], [], "/"⟩
        [report [fix "1" [.insertBefore ⟨0, 2, 2⟩ "y"],
          fix "2" [.insertBefore ⟨0, 0, 0⟩ "x", .insertBefore ⟨1, 0, 0⟩ "x"]]] .all := by
  intro d f g report fix
  have loaded : (f 0).LoadedFrom d "a.ts" := ⟨"ab", rfl, .empty [] [], rfl⟩
  let d' : Disk := ⟨.cons "a.ts" (.file "aby") .empty, "/"⟩
  constructor
  · let fixes := [fix "1" [.insertBefore ⟨0, 0, 0⟩ "x", .insertBefore ⟨1, 2, 2⟩ "y"]]
    have made (dryRun : Bool) : (applyAll ⟨[f 0, f 1], [], "/"⟩ [report fixes] .all dryRun).changes
        = [⟨f 0, "a.ts", 1, "xab"⟩, ⟨f 1, "a.ts", 1, "aby"⟩] := by cases dryRun <;> cbv
    have saved : saveAll d [⟨f 0, "a.ts", 1, "xab"⟩, ⟨f 1, "a.ts", 1, "aby"⟩] = (d', none) := rfl
    exact not_reloads_of_read (made false) (made true) saved rfl List.mem_cons_self
      List.mem_cons_self rfl loaded rfl (by decide) (by decide : utf8 "xab" ≠ utf8 "aby")
  · let fixes := [fix "1" [.insertBefore ⟨0, 2, 2⟩ "y"],
      fix "2" [.insertBefore ⟨0, 0, 0⟩ "x", .insertBefore ⟨1, 0, 0⟩ "x"]]
    have written : (applyAll ⟨[f 0, g], [], "/"⟩ [report fixes] .all false).changes
        = [⟨f 0, "a.ts", 1, "aby"⟩] := by cbv
    have reported : (applyAll ⟨[f 0, g], [], "/"⟩ [report fixes] .all true).changes
        = [⟨f 0, "a.ts", 2, "xaby"⟩, ⟨g, "b.ts", 1, "xb"⟩] := by cbv
    have saved : saveAll d [⟨f 0, "a.ts", 1, "aby"⟩] = (d', none) := rfl
    exact not_reloads_of_read written reported saved rfl List.mem_cons_self List.mem_cons_self rfl
      loaded rfl (by decide) (by decide : utf8 "xaby" ≠ utf8 "aby")

end Fix
end TreeLint
