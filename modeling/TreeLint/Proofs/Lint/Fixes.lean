import TreeLint.Proofs.Lint.InFile
import TreeLint.Proofs.Rule.Fixes

/-! # The fixes of a lint

The fixes that a lint returns can be applied as they are: each of them resolves, it has
edits, and its edits lie in the file that was linted and keep apart.  So a pass over such
diagnostics, of however many files, may leave a fix out for another one or since it was not
asked for, but never for a fault of its own (`lint_fixes`).
-/

namespace TreeLint

open Document (Full)

/-- A lint of a file with rules of this program: its tree was read from a document that has
no null among the properties of an object.  The content is no longer than offsets can say,
as that of any file which a file set takes. -/
structure Linted (files : FileSet) (id : FileId) (f : File) (ds : List Diagnostic) : Prop where
  found : files.get? id = some f
  small : f.content.length < UInt32.size
  lint : ∃ document t entries cwd cancelled, Document.decode files id document = .ok t ∧
    (∀ o, Json.read document = .ok (.object o) → Full o) ∧ (∀ e ∈ entries, e.rule ∈ Rule.all) ∧
    lint entries cwd cancelled files (some t) = .ok ds

variable {files : FileSet} {id : FileId} {f : File} {document : Text} {t : Tree}

/-- A tree that was read from a document is one that rules can rely on. -/
theorem Document.decode_grounded (found : files.get? id = some f)
    (small : f.content.length < UInt32.size) (decoded : decode files id document = .ok t)
    (full : ∀ o, Json.read document = .ok (.object o) → Full o) (cwd : Text) (options : Options) :
    Context.Grounded ⟨t, f, cwd, options⟩ id := by
  obtain ⟨root, rooted⟩ := decode_rooted found decoded
  exact ⟨small, decode_sturdy found decoded full, rooted.climbing,
    (decode_whole found decoded).1.root⟩

/-- What is reported of a rule that cannot be set up has no fix. -/
theorem Entry.fixes_of_mem_rejected {cwd : Text} {entries : List Entry} {d : Diagnostic}
    (h : d ∈ rejected t f cwd entries) : d.fixes = [] := by
  obtain ⟨e, -, failed⟩ := mem_rejected.mp h
  simp only [start] at failed
  split at failed
  · contradiction
  · cases failed
    rfl

theorem lintFile_ready {cwd : Text} {entries : List Entry} {ds : List Diagnostic}
    (grounded : ∀ options, Context.Grounded ⟨t, f, cwd, options⟩ id)
    (known : ∀ e ∈ entries, e.rule ∈ Rule.all) (h : lintFile entries cwd t f = .ok ds) :
    ∀ d ∈ ds, ∀ g ∈ d.fixes, g.Ready id f.content := by
  obtain ⟨found, walked, rfl⟩ := lintFile_eq_ok h
  have finds : ∀ r ∈ Entry.started t f cwd entries, r.Finds (Finding.Handy id f.content) :=
    Entry.started_finds cwd fun e mem v created =>
      Rule.handy_of_mem_all (known e mem) ⟨t, f, cwd, e.options⟩ id v (grounded e.options) created
  intro d mem g offered
  rw [sortDiagnostics, List.mem_mergeSort, List.mem_append] at mem
  cases mem with
  | inl rejected =>
    rw [Entry.fixes_of_mem_rejected rejected] at offered
    contradiction
  | inr here =>
    obtain ⟨r, severity, finding, handy, rfl⟩ := Running.walk_finds finds walked d here
    exact handy g (Option.mem_toList.mp offered)

theorem Linted.ready {ds : List Diagnostic} (h : Linted files id f ds) :
    ∀ d ∈ ds, ∀ g ∈ d.fixes, g.Ready id f.content := by
  obtain ⟨found, small, document, t, entries, cwd, cancelled, decoded, full, known, linted⟩ := h
  simp only [TreeLint.lint, (Document.decode_whole found decoded).2, found] at linted
  split at linted
  · contradiction
  · exact lintFile_ready (Document.decode_grounded found small decoded full cwd) known linted

/-- The fixes of a lint resolve as they are, have edits, and have them in the file that was
linted and apart from each other.  No pass over diagnostics of such lints skips a fix for a
fault of its own. -/
theorem lint_fixes (files : FileSet) :
    (∀ id f ds, Linted files id f ds → ∀ d ∈ ds, ∀ g ∈ d.fixes,
      g.resolve = .ok g ∧ g.edits ≠ [] ∧
      (∀ e ∈ g.edits, e.span.file = id ∧ e.span.start ≤ e.span.stop ∧
        e.span.stop.toNat ≤ f.content.length) ∧
      g.edits.Pairwise fun a b => a.span.overlaps b.span = false) ∧
    ∀ ds : List Diagnostic, (∀ d ∈ ds, ∃ id f run, Linted files id f run ∧ d ∈ run) →
      ∀ mode dryRun, ∀ s ∈ (Fix.apply (some files) ds mode dryRun).skipped,
        ∀ fault : Fix.SkipReason, fault.isFault → s.reason ≠ fault.message := by
  refine ⟨fun id f ds linted d mem g offered => ?_, fun ds linted mode dryRun s skipped fault => ?_⟩
  · obtain ⟨resolves, nonempty, own, fits, apart⟩ := linted.ready d mem g offered
    exact ⟨resolves, nonempty, fun e mem =>
      ⟨own e mem, (fits e mem).start_le_stop, (fits e mem).stop_le_length⟩, apart⟩
  · refine (Fix.apply_ready (fun d mem g offered => ?_) mode dryRun skipped).reason_ne
    obtain ⟨id, f, run, linted, here⟩ := linted d mem
    exact ⟨id, f, linted.found, linted.ready d here g offered⟩

/-- A comment that is added before the only property of an object. -/
theorem lint_fixes_comment :
    let f : File := ⟨0, "a.ts", "function g()\x7bm.findOne(\x7ba\x7d)\x7d", ⟨true, false, false⟩⟩
    let files : FileSet := ⟨[f], [], "/"⟩
    ∃ ds, Linted files 0 f ds ∧
      ds.map (fun d => d.fixes.map Fix.edits)
        = [[[⟨⟨0, 24, 24⟩, "comment: 'a.ts:g', ", []⟩]]] ∧
      (∀ d ∈ ds, ∀ g ∈ d.fixes,
        g.resolve = .ok g ∧ g.edits ≠ [] ∧
        (∀ e ∈ g.edits, e.span.file = 0 ∧ e.span.start ≤ e.span.stop ∧
          e.span.stop.toNat ≤ f.content.length) ∧
        g.edits.Pairwise fun a b => a.span.overlaps b.span = false) ∧
      ∀ mode dryRun, ∀ s ∈ (Fix.apply (some files) ds mode dryRun).skipped,
        ∀ fault : Fix.SkipReason, fault.isFault → s.reason ≠ fault.message := by
  intro f files
  let document : Text :=
    "\x7b\"type\":\"Program\",\"range\":[0,28],\"body\":[\x7b" ++
      "\"type\":\"FunctionDeclaration\",\"range\":[0,28],\"params\":[]," ++
      "\"id\":\x7b\"type\":\"Identifier\",\"range\":[9,10],\"name\":\"g\"\x7d," ++
      "\"body\":\x7b\"type\":\"BlockStatement\",\"range\":[12,28],\"body\":[\x7b" ++
        "\"type\":\"CallExpression\",\"range\":[13,27]," ++
        "\"callee\":\x7b\"type\":\"MemberExpression\",\"range\":[13,22]," ++
          "\"object\":\x7b\"type\":\"Identifier\",\"range\":[13,14],\"name\":\"m\"\x7d," ++
          "\"property\":\x7b\"type\":\"Identifier\",\"range\":[15,22]," ++
            "\"name\":\"findOne\"\x7d\x7d," ++
        "\"arguments\":[\x7b\"type\":\"ObjectExpression\",\"range\":[23,26]," ++
          "\"properties\":[\x7b\"type\":\"Property\",\"range\":[24,25],\"shorthand\":true," ++
            "\"key\":\x7b\"type\":\"Identifier\",\"range\":[24,25],\"name\":\"a\"\x7d," ++
            "\"value\":\x7b\"type\":\"Identifier\",\"range\":[24,25]," ++
              "\"name\":\"a\"\x7d\x7d]\x7d]\x7d]\x7d\x7d]\x7d"
  let entries : List Entry := [⟨.sequelizeComment, .error, .empty⟩]
  have reads : Document.readsAs Document.full (Json.read document) = true := by decide +kernel
  have full : ∀ o, Json.read document = .ok (.object o) → Full o := by
    obtain ⟨root, read, full⟩ := Document.exists_of_readsAs reads
    rintro o read'
    cases read.symm.trans read'
    exact Document.full_of_eq_true full
  have finds : (Document.decode files 0 document).toOption.any (fun t =>
      (Entry.rejected t f "/" entries).isEmpty &&
        (Running.walk (Entry.started t f "/" entries)
          (t.visits (fun _ => false) t.root)).toOption.any fun found =>
            found.map (fun d => d.fixes.map Fix.edits)
              == [[[⟨⟨0, 24, 24⟩, "comment: 'a.ts:g', ", []⟩]]]) = true := by
    decide +kernel
  obtain ⟨t, decoded, finds⟩ := (Option.any_eq_true _ _).mp finds
  rw [Fix.toOption_eq_some] at decoded
  obtain ⟨rejected, finds⟩ := Bool.and_eq_true_iff.mp finds
  rw [List.isEmpty_iff] at rejected
  obtain ⟨found, walked, finds⟩ := (Option.any_eq_true _ _).mp finds
  rw [Fix.toOption_eq_some] at walked
  obtain ⟨d, rfl, edits⟩ := List.map_eq_singleton_iff.mp (eq_of_beq finds)
  have known : ∀ e ∈ entries, e.rule ∈ Rule.all := by
    simp [entries, Rule.all]
  have linted : lint entries "/" false files (some t) = .ok [d] := by
    have alone : files.get? t.file = some f := by
      rw [(Document.decode_whole (f := f) rfl decoded).2]
      rfl
    simp only [lint, Bool.false_eq_true, if_false, alone, lintFile, walked, rejected,
      List.nil_append, sortDiagnostics, List.mergeSort_singleton]
  have run : Linted files 0 f [d] :=
    ⟨rfl, by decide, document, t, entries, "/", false, decoded, full, known, linted⟩
  refine ⟨[d], run, congrArg ([·]) edits, (lint_fixes files).1 0 f [d] run, ?_⟩
  exact (lint_fixes files).2 [d] fun _ mem => ⟨0, f, [d], run, mem⟩

end TreeLint
