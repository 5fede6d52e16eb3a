import TreeLint.Proofs.Document.InFile
import TreeLint.Proofs.Lint.InFile
import TreeLint.Proofs.Rule.Registry
import TreeLint.Run.Lint

/-! # What a lint of a file depends on

A job is a path, a source, its tree document, a working directory, a configuration and the
entries of a linter.  Two lints of one job, in whatever file sets and with the entries in
whatever order, store the same (`Job.Fresh.alike`).

A key is made of the digests of these parts, and of the entries only by name and severity.
Among jobs on whose parts the digest has no collisions, and whose options follow from their
configuration, jobs of one key are alike (`Jobs.alike_of_key`).
-/

namespace TreeLint

namespace Run

/-- All that the result for a file depends on. -/
structure Job where
  path : Text
  content : Text
  document : Text
  cwd : Text
  config : Text
  entries : List Entry

namespace Job

def ofFile (s : Settings) (f : File) (document : Text) : Job :=
  ⟨f.path, f.content, document, s.cwd, s.config, s.entries⟩

/-- What the key of a job is made of. -/
def input (j : Job) : CacheInput where
  source := Sha256.digest j.content
  tree := Sha256.digest j.document
  path := j.path
  cwd := j.cwd
  config := j.config
  rules := j.entries.map fun e => (e.rule.name, e.severity)

def key (j : Job) : Text := j.input.key

/-- Jobs that differ in their configuration and the order of their entries at most. -/
structure Alike (i j : Job) : Prop where
  path : i.path = j.path
  content : i.content = j.content
  document : i.document = j.document
  cwd : i.cwd = j.cwd
  entries : i.entries.Perm j.entries

/-! ## Lints of a job -/

/-- A lint of a job without a cache, in some file set, has an outcome. -/
def Fresh (j : Job) (o : Outcome) : Prop :=
  ∃ s files path f document, files.get? f.id = some f ∧ ofFile s f document = j ∧
    lintDocument s files none path f document = .ok o

/-- A lint of a job without a cache keeps a payload. -/
def Stores (j : Job) (p : Payload) : Prop :=
  ∃ o i, j.Fresh o ∧ o.keeps = some (i, p)

theorem lint_eq_lintFile {files : FileSet} {f : File} {document : Text} {tree : Tree}
    (found : files.get? f.id = some f)
    (decoded : Document.decode files f.id document = .ok tree) (entries : List Entry) (cwd : Text) :
    TreeLint.lint entries cwd false files (some tree) = TreeLint.lintFile entries cwd tree f := by
  simp only [TreeLint.lint, Bool.false_eq_true, if_false, (Document.decode_whole found decoded).2,
    found]

theorem lintDocument_keeps {s : Settings} {files : FileSet} {path : Text} {f : File}
    {document : Text} {o : Outcome} {i : CacheInput} {p : Payload}
    (found : files.get? f.id = some f) (h : lintDocument s files none path f document = .ok o)
    (keeps : o.keeps = some (i, p)) :
    ∃ tree, Document.decode files f.id document = .ok tree ∧
      TreeLint.lintFile s.entries s.cwd tree f = .ok o.diagnostics ∧
      i = (ofFile s f document).input ∧ p = .ofDiagnostics f.path o.diagnostics := by
  simp only [lintDocument, cached?, Option.bind_none] at h
  split at h
  · contradiction
  · cases h
    contradiction
  next tree decoded =>
    rw [lint_eq_lintFile found decoded] at h
    split at h
    · contradiction
    next ds linted =>
      cases h
      cases keeps
      exact ⟨tree, decoded, linted, rfl, rfl⟩

theorem cached_of_fresh {s : Settings} {files : FileSet} {path : Text} {f : File}
    {document : Text} {o : Outcome} (h : lintDocument s files none path f document = .ok o) :
    o.cached = false := by
  simp only [lintDocument, cached?, Option.bind_none] at h
  split at h
  · contradiction
  · cases h
    rfl
  · split at h
    · contradiction
    · cases h
      rfl

theorem lintDocument_of_lintFile {s : Settings} {files : FileSet} (path : Text) {f : File}
    {document : Text} (found : files.get? f.id = some f) {tree : Tree} {ds : List Diagnostic}
    (decoded : Document.decode files f.id document = .ok tree)
    (linted : TreeLint.lintFile s.entries s.cwd tree f = .ok ds) :
    lintDocument s files none path f document
      = .ok ⟨ds, false, [⟨path, .lint, .working⟩], [utf8 "decode", utf8 "lint"],
          some ((ofFile s f document).input, .ofDiagnostics f.path ds)⟩ := by
  simp only [lintDocument, cached?, Option.bind_none, decoded]
  rw [lint_eq_lintFile found decoded, linted]
  rfl

/-- Diagnostics that stay in their file: each begins there, and if no rule is about comments on
queries, all there is of them is there. -/
structure Settled (s : Settings) (file : FileId) (ds : List Diagnostic) : Prop where
  primary : ∀ d ∈ ds, d.primary.file = file
  inFile : (∀ e ∈ s.entries, e.name ≠ Rule.sequelizeComment.name) → ∀ d ∈ ds, d.inFile file = d

theorem settled_of_keeps {s : Settings} {files : FileSet} {path : Text} {f : File}
    {document : Text} {o : Outcome} {kept : CacheInput × Payload} (found : files.get? f.id = some f)
    (regular : Entry.Regular s.entries) (h : lintDocument s files none path f document = .ok o)
    (keeps : o.keeps = some kept) : Settled s f.id o.diagnostics := by
  obtain ⟨tree, decoded, linted, -⟩ := lintDocument_keeps found h keeps
  obtain ⟨whole, file⟩ := Document.decode_whole found decoded
  rw [← file]
  refine ⟨?_, fun others => ?_⟩
  · exact lintFile_primary s.cwd whole
      (fun e mem => Rule.blind_of_mem_all (regular.known e mem)) linted
  · refine lintFile_inFile s.cwd whole (fun e mem => ?_) linted
    obtain comment | uniform := Rule.uniform_of_mem_all (regular.known e mem)
    · exact absurd (congrArg Rule.name comment) (others e mem)
    · exact uniform

/-- Where one lint of a job keeps something, any lint of a job alike keeps the same. -/
theorem lintDocument_alike {s s' : Settings} {files files' : FileSet} {path : Text}
    (path' : Text) {f f' : File} {document document' : Text} {o : Outcome} {i : CacheInput}
    {p : Payload} (found : files.get? f.id = some f) (found' : files'.get? f'.id = some f')
    (alike : (ofFile s' f' document').Alike (ofFile s f document))
    (regular : Entry.Regular s.entries)
    (h : lintDocument s files none path f document = .ok o) (keeps : o.keeps = some (i, p)) :
    ∃ o', lintDocument s' files' none path' f' document' = .ok o' ∧
      o'.keeps = some ((ofFile s' f' document').input, p) ∧
      o'.diagnostics.map Stored.Diagnostic.ofDiagnostic = p.diagnostics := by
  obtain ⟨tree, decoded, linted, -, rfl⟩ := lintDocument_keeps found h keeps
  obtain ⟨paths, contents, documents, cwds, entries⟩ := alike
  simp only [ofFile] at paths contents documents cwds entries
  have blind : ∀ e ∈ s.entries, e.rule.Blind :=
    fun e mem => Rule.blind_of_mem_all (regular.known e mem)
  obtain ⟨whole, -⟩ := Document.decode_whole found decoded
  obtain ⟨moved, -⟩ := Document.decode_inFile found found' contents decoded
  have stored := lintFile_stored s.cwd whole paths contents f'.id blind
  rw [linted] at stored
  cases again : TreeLint.lintFile s.entries s.cwd (tree.inFile f'.id) f' with
  | error x => rw [again] at stored; contradiction
  | ok ds =>
    rw [again] at stored
    have same : ds.map Stored.Diagnostic.ofDiagnostic
        = o.diagnostics.map Stored.Diagnostic.ofDiagnostic := Except.ok.inj stored
    have permuted : TreeLint.lintFile s'.entries s.cwd (tree.inFile f'.id) f' = .ok ds := by
      obtain eq | ⟨x, x', -, stuck⟩ := lintFile_perm_cases entries regular.distinct regular.whole
      · rw [eq, again]
      · rw [again] at stuck
        contradiction
    rw [← documents] at moved
    rw [← cwds] at permuted
    refine ⟨_, lintDocument_of_lintFile path' found' moved permuted, ?_, same⟩
    rw [Payload.ofDiagnostics, Payload.ofDiagnostics, same, paths]

/-- A job stores one payload, whenever and wherever it is linted. -/
theorem Stores.unique {j : Job} {p q : Payload} (regular : Entry.Regular j.entries)
    (hp : j.Stores p) (hq : j.Stores q) : p = q := by
  obtain ⟨o, i, ⟨s, files, path, f, document, found, rfl, linted⟩, keeps⟩ := hp
  obtain ⟨o', i', ⟨s', files', path', f', document', found', same, linted'⟩, keeps'⟩ := hq
  have alike : (ofFile s' f' document').Alike (ofFile s f document) := by
    rw [same]
    exact ⟨rfl, rfl, rfl, rfl, .refl _⟩
  obtain ⟨again, relinted, kept, -⟩ :=
    lintDocument_alike path' found found' alike regular linted keeps
  rw [linted'] at relinted
  cases relinted
  rw [keeps'] at kept
  cases kept
  rfl

end Job

/-! ## Jobs told apart by their keys -/

/-- Jobs whose results can be kept under their keys. -/
structure Jobs (optionsOf : Text → Text → Options) (jobs : Job → Prop) : Prop where
  /-- The digest has no collisions on the sources, the documents and the inputs of keys. -/
  source : ∀ i j, jobs i → jobs j →
    Sha256.digest i.content = Sha256.digest j.content → i.content = j.content
  document : ∀ i j, jobs i → jobs j →
    Sha256.digest i.document = Sha256.digest j.document → i.document = j.document
  input : ∀ i j, jobs i → jobs j →
    Sha256.digest i.input.bytes = Sha256.digest j.input.bytes → i.input.bytes = j.input.bytes
  /-- The entries are such as a configuration resolves to (`Entry.regular_of_resolve`). -/
  regular : ∀ j, jobs j → Entry.Regular j.entries
  /-- The severities are those that a configuration can name (`Config.severity_of_parse`). -/
  severity : ∀ j, jobs j → ∀ e ∈ j.entries, e.severity ∈ CacheInput.severities
  /-- The options of a rule follow from the configuration. -/
  options : ∀ j, jobs j → ∀ e ∈ j.entries, e.options = optionsOf j.config e.name
  /-- The paths and the digest of the configuration are not too long for their length to be
  written. -/
  short : ∀ j, jobs j → ∀ t ∈ [j.path, j.cwd, j.config], t.length < UInt32.size
  /-- What is written of a payload can be read back. -/
  codec : ∀ j p, jobs j → j.Stores p → Payload.read? p.write = some p

namespace Jobs

variable {optionsOf : Text → Text → Options} {jobs : Job → Prop} (known : Jobs optionsOf jobs)

include known

theorem short_input {j : Job} (h : jobs j) : j.input.Short := by
  have rules : ∀ r ∈ Rule.all, ∀ s ∈ CacheInput.severities,
      (CacheInput.ruleField (r.name, s)).length < UInt32.size := by decide +kernel
  have digest : ∀ t, (Sha256.digest t).length < UInt32.size := by
    intro t
    rw [Sha256.length_digest]
    decide
  refine ⟨?_, fun r mem => ?_⟩
  · exact List.forall_mem_cons.mpr ⟨digest _, List.forall_mem_cons.mpr ⟨digest _, known.short j h⟩⟩
  · obtain ⟨e, owned, rfl⟩ := List.mem_map.mp mem
    exact rules e.rule ((known.regular j h).known e owned) e.severity (known.severity j h e owned)

theorem rules_input {j : Job} (h : jobs j) :
    ∀ r ∈ j.input.rules, r.2 ∈ CacheInput.severities := by
  intro r mem
  obtain ⟨e, owned, rfl⟩ := List.mem_map.mp mem
  exact known.severity j h e owned

/-- Jobs of one key differ in the order of their entries at most. -/
theorem alike_of_key {i j : Job} (hi : jobs i) (hj : jobs j) (h : i.key = j.key) : i.Alike j := by
  have bytes := known.input i j hi hj h
  obtain ⟨parts, fields⟩ := CacheInput.bytes_inj (known.short_input hi) (known.short_input hj) bytes
  have rules := CacheInput.rules_perm (known.rules_input hi) (known.rules_input hj) fields
  simp only [Job.input, List.cons.injEq, and_true] at parts
  obtain ⟨source, document, path, cwd, config⟩ := parts
  refine ⟨path, known.source i j hi hj source, known.document i j hi hj document, cwd, ?_⟩
  let entry (r : Text × Severity) : Entry :=
    ⟨(Rule.find? r.1).getD Rule.exportInline, r.2, optionsOf j.config r.1⟩
  have back {k : Job} (h : jobs k) (same : k.config = j.config) :
      k.input.rules.map entry = k.entries := by
    simp only [Job.input, List.map_map]
    refine (List.map_congr_left fun e mem => ?_).trans (List.map_id k.entries)
    have rule := Rule.find?_name ((known.regular k h).known e mem)
    have options := known.options k h e mem
    simp only [Function.comp, entry, rule, Option.getD_some, ← same, id]
    rw [Entry.name] at options
    rw [← options]
  have entries := rules.map entry
  rwa [back hi config, back hj rfl] at entries

end Jobs
end Run
end TreeLint
