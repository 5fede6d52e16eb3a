import TreeLint.Lint.Stable
import TreeLint.Proofs.Edit.Insertion
import TreeLint.Proofs.Edit.Rewriting
import TreeLint.Proofs.Edit.Straying

/-! # One pass over a file

A pass takes the fixes of the diagnostics that have their primary span in its file.  It does
not ask where the edits of those fixes are, and makes all of them in the text of the file.

As long as they are in the file, that is what is wanted: the pass never looks behind the end
of the text it works on, and gives the text with the edits made at once.  An edit of another
file is made in this one as well, and such edits may take away what another edit needs
(`run_strays_iff`).
-/

namespace TreeLint.FixPass

open Edit (Apart Strays Clear rewritten)

variable {files : FileSet} {id : FileId} {f : File} {ds : List Diagnostic}

/-- The fixes of a pass, each given by its edits, in the order it goes through them. -/
def offered (id : FileId) (ds : List Diagnostic) : List (List Edit) :=
  (ds.filterMap (editsOf? id)).mergeSort fun a b => firstStart a ≤ firstStart b

/-- The edits that a pass makes. -/
def merged (id : FileId) (ds : List Diagnostic) : List Edit := (Edit.mergeFixes (offered id ds)).1

theorem merged_eq (id : FileId) (ds : List Diagnostic) :
    merged id ds =
      (Edit.taken (fun edits => edits) (offered id ds)).flatMap fun edits => edits := by
  have taken := @Edit.mergeFixes_eq _ (fun edits : List Edit => edits) (offered id ds)
  rw [List.map_id'] at taken
  rw [merged, taken]

theorem exists_of_mem_merged {e : Edit} (mem : e ∈ merged id ds) :
    ∃ d ∈ ds, ∃ edits, editsOf? id d = some edits ∧ e ∈ edits := by
  rw [merged_eq] at mem
  obtain ⟨edits, there, owns⟩ := List.mem_flatMap.mp mem
  have offer := (Edit.takenFrom_sublist [] (offered id ds)).subset there
  obtain ⟨d, diagnosed, found⟩ := List.mem_filterMap.mp (List.mem_mergeSort.mp offer)
  exact ⟨d, diagnosed, edits, found, owns⟩

/-- The fixes that a pass is offered are resolved, so their edits do not overlap, and merging
keeps it so. -/
theorem apart_merged (id : FileId) (ds : List Diagnostic) : (merged id ds).Pairwise Apart := by
  have own : ∀ edits ∈ offered id ds, edits.Pairwise Apart := by
    intro edits mem
    obtain ⟨d, -, found⟩ := List.mem_filterMap.mp (List.mem_mergeSort.mp mem)
    simp only [editsOf?] at found
    split at found
    · contradiction
    split at found
    · contradiction
    split at found
    next g resolved =>
      split at found
      · contradiction
      · rw [← Option.some.inj found]
        exact Edit.overlap?_eq_none.mp (Fix.overlap?_of_resolve resolved)
    · contradiction
  rw [merged_eq]
  exact Edit.pairwise_takenFrom .nil own

/-- What is offered of a diagnostic of the file whose fix has one edit. -/
theorem editsOf?_of_one {d : Diagnostic} {title : Text} {e : Edit} (here : d.primary.file = id)
    (fix : d.fixes = (Fix.compose title [e]).toOption.toList) : editsOf? id d = some [e] := by
  have one : d.fixes = [.quick title [e]] := fix
  rw [editsOf?, one, here, bne_self_eq_false, if_neg Bool.false_ne_true]
  rfl

/-- A pass is offered no fix without edits. -/
theorem ne_nil_of_mem_offered {edits : List Edit} (mem : edits ∈ offered id ds) : edits ≠ [] := by
  obtain ⟨d, -, found⟩ := List.mem_filterMap.mp (List.mem_mergeSort.mp mem)
  simp only [editsOf?] at found
  split at found
  · contradiction
  split at found
  · contradiction
  split at found
  next g resolved =>
    split at found
    · contradiction
    next some =>
      obtain rfl := Option.some.inj found
      simpa using some
  · contradiction

/-- Where all the edits that a pass is offered keep apart, it makes all of them. -/
theorem merged_perm (apart : ((ds.filterMap (editsOf? id)).flatMap fun edits => edits).Pairwise Apart) :
    (merged id ds).Perm ((ds.filterMap (editsOf? id)).flatMap fun edits => edits) := by
  have perm : (offered id ds).Perm (ds.filterMap (editsOf? id)) := List.mergeSort_perm _ _
  have flat := perm.flatMap_right fun edits => edits
  rw [merged_eq, Edit.taken, Edit.takenFrom_of_apart (fun _ => ne_nil_of_mem_offered)]
  · exact flat
  · rw [List.nil_append]
    exact (flat.pairwise_iff fun h => h.symm).mpr apart

/-- A pass has nothing to make, or it comes to what splicing does. -/
theorem run_cases (found : files.get? id = some f) (ds : List Diagnostic) :
    (merged id ds = [] ∧ run files id ds = .ok (f.content, 0)) ∨
      ∃ n, run files id ds = match Edit.splice f.content (merged id ds) with
        | .error e => .error (.splice f.path e)
        | .ok content => .ok (content, n) := by
  simp only [run, found]
  split
  next none =>
    refine .inl ⟨?_, rfl⟩
    rw [List.isEmpty_iff] at none
    rw [merged, offered, none, List.mergeSort_nil]
    rfl
  · exact .inr ⟨_, rfl⟩

/-- Where the edits that a pass is offered put text in at places of their own, it puts all of it
in. -/
theorem run_puts (found : files.get? id = some f) (small : f.content.length < UInt32.size)
    {ps : List Edit.Put}
    (offers : ((ds.filterMap (editsOf? id)).flatMap fun edits => edits).Perm (ps.map Edit.Put.edit))
    (puts : ∀ p ∈ ps, p.In f.content) (fits : ∀ p ∈ ps, Edit.Fits f.content p.edit)
    (same : ∀ p ∈ ps, p.edit.span.file = id) (apart : (ps.map Edit.Put.edit).Pairwise Apart)
    (points : ps.Pairwise fun p q => p.point ≠ q.point) :
    ∃ n, run files id ds = .ok (Text.withInserted (Edit.Put.all ps) 0 f.content, n) := by
  have perm : (merged id ds).Perm (ps.map Edit.Put.edit) :=
    (merged_perm ((offers.pairwise_iff fun h => h.symm).mpr apart)).trans offers
  obtain ⟨nothing, done⟩ | ⟨n, done⟩ := run_cases found ds
  · rw [nothing] at perm
    obtain rfl := List.map_eq_nil_iff.mp perm.nil_eq.symm
    have same : Text.withInserted (Edit.Put.all []) 0 f.content = f.content :=
      Text.withInserted_of_nil fun _ _ _ => rfl
    exact ⟨0, by rw [done, same]⟩
  · have spliced := Edit.splice_perm_withInserted perm small puts fits same apart points
    exact ⟨n, by rw [done, spliced]⟩

theorem run_tooShort_iff (found : files.get? id = some f) :
    (∃ span, run files id ds = .error (.splice f.path (.textTooShort span))) ↔
      Strays f.content (merged id ds) := by
  obtain ⟨none, done⟩ | ⟨n, same⟩ := run_cases found ds
  · simp [none, done, Edit.not_strays_of_clear .nil]
  · rw [same, ← Edit.splice_strays_iff]
    cases Edit.splice f.content (merged id ds) <;> simp

theorem eq_rewritten_of_run (found : files.get? id = some f) {out : Text} {n : Nat}
    (clear : (merged id ds).Pairwise Clear) (done : run files id ds = .ok (out, n)) :
    out = rewritten f.content (merged id ds) := by
  obtain ⟨none, same⟩ | ⟨n, same⟩ := run_cases found ds
  · rw [same] at done
    injection done with eq
    injection eq with eq
    rw [none, ← eq]
    simp [rewritten, Edit.inOrder, Edit.weave]
  · rw [same] at done
    cases spliced : Edit.splice f.content (merged id ds) with
    | error e =>
      rw [spliced] at done
      contradiction
    | ok content =>
      rw [spliced] at done
      injection done with eq
      injection eq with eq
      rw [← eq]
      exact Edit.eq_rewritten_of_clear clear spliced

/-- Splicing looks for an edit behind the end of the text exactly if the edits stray, and then
two edits of different files share bytes; otherwise it gives a text or one of its other errors.
For a pass these are the edits it merges, wherever they are.  If no two of them share bytes,
all are made in the text of the file.  If the fixes of the file's diagnostics only have edits of
the file, no two of them do. -/
theorem run_strays_iff (found : files.get? id = some f) (ds : List Diagnostic) :
    (∀ (text : Text) (edits : List Edit),
      ((∃ span, Edit.splice text edits = .error (.textTooShort span)) ↔ Strays text edits) ∧
      (Strays text edits → ∃ a ∈ edits, ∃ b ∈ edits, a.span.file ≠ b.span.file ∧ ¬ Clear a b)) ∧
    ((∃ span, run files id ds = .error (.splice f.path (.textTooShort span))) ↔
      Strays f.content (merged id ds)) ∧
    ((merged id ds).Pairwise Clear → ¬ Strays f.content (merged id ds) ∧
      ∀ out n, run files id ds = .ok (out, n) → out = rewritten f.content (merged id ds)) ∧
    ((∀ d ∈ ds, ∀ edits, editsOf? id d = some edits → ∀ e ∈ edits, e.span.file = id) →
      (merged id ds).Pairwise Clear ∧ ∀ e ∈ merged id ds, e.span.file = id) := by
  refine ⟨fun text edits => ⟨Edit.splice_strays_iff, Edit.files_of_strays⟩,
    run_tooShort_iff found, fun clear => ?_, fun own => ?_⟩
  · exact ⟨Edit.not_strays_of_clear clear, fun out n => eq_rewritten_of_run found clear⟩
  · have here : ∀ e ∈ merged id ds, e.span.file = id := by
      intro e mem
      obtain ⟨d, diagnosed, edits, offers, owns⟩ := exists_of_mem_merged mem
      exact own d diagnosed edits offers e owns
    refine ⟨(apart_merged id ds).imp_of_mem fun ha hb => ?_, here⟩
    exact Edit.clear_of_apart ((here _ ha).trans (here _ hb).symm)

/-- A fix of the first file with an edit of the second one, which takes away the bytes that its
other edit is to replace. -/
theorem run_strays_iff_twoFiles :
    let files : FileSet := ⟨[⟨0, "a.ts", "0123456789", ⟨true, false, false⟩⟩,
      ⟨1, "b.ts", "0123456789", ⟨true, false, false⟩⟩], [], "/"⟩
    let edits : List Edit := [.delete ⟨1, 2, 10⟩, .replace ⟨0, 0, 5⟩ "X"]
    let d := { Diagnostic.new .error "r" "m" ⟨0, 0, 1⟩ "m" with fixes := [.quick "t" edits] }
    files.get? 0 = some ⟨0, "a.ts", "0123456789", ⟨true, false, false⟩⟩ ∧
      ∃ span, run files 0 [d] = .error (.splice "a.ts" (.textTooShort span)) := by
  intro files edits d
  have found : files.get? 0 = some ⟨0, "a.ts", "0123456789", ⟨true, false, false⟩⟩ := rfl
  have all : merged 0 [d] = edits := by
    have one : offered 0 [d] = [edits] := List.mergeSort_singleton _
    rw [merged, one]
    rfl
  have order : Edit.applicationOrder edits = edits := by
    rw [Edit.applicationOrder, List.mergeSort_of_pairwise (by decide)]
    rfl
  have strays : Strays "0123456789" (merged 0 [d]) := by
    rw [all]
    exact ⟨by decide, by decide, [.delete ⟨1, 2, 10⟩], .replace ⟨0, 0, 5⟩ "X", [], order,
      ⟨_, rfl⟩, by decide, by decide, by decide⟩
  exact ⟨found, (run_strays_iff found [d]).2.1.mpr strays⟩

end TreeLint.FixPass
