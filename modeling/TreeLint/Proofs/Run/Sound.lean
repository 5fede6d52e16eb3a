import TreeLint.Proofs.Disk.Place
import TreeLint.Proofs.Run.Job
import TreeLint.Proofs.Run.Key

/-! # Sound caches

A payload is kept in a file of its own, whose name spells the key.  So keeping one leaves
those of all other keys as they are (`Cache.kept?_put`), and what is found under a key is
what is kept there (`Cache.kept?_of_get?`).

A cache is sound if what it keeps under the key of a job is what a lint of a job with that
key keeps.  A lint that finds its job in such a cache gives what a lint without the cache
does, except that the fixes are resolved and that all spans are in the file
(`lintLoaded_agrees`), and adding what a lint has found leaves the cache sound
(`Sound.keep`).
-/

namespace TreeLint

/-! ## What a cache keeps -/

namespace Cache

open Path (Plain)

/-- The name of the file of a key. -/
def fileName (key : Text) : Text := Sha256.toHex key ++ ".mp"

theorem fileName_plain (key : Text) : Plain (fileName key) := by
  have digit : ∀ d : Fin 16, Text.byte (Nat.digitChar d) ≠ Path.slash := by decide +kernel
  have ending : Path.slash ∉ utf8 ".mp" := by decide
  have long : 3 ≤ (fileName key).length := by
    have : (utf8 ".mp").length = 3 := by decide
    simp only [fileName, List.length_append, this]
    omega
  refine ⟨?_, ?_, ?_, ?_⟩
  · rw [fileName, List.mem_append, not_or]
    refine ⟨fun mem => ?_, ending⟩
    obtain ⟨b, -, mem⟩ := List.mem_flatMap.mp mem
    obtain ⟨i, -, eq⟩ := List.mem_map.mp mem
    exact digit ⟨b.toNat / Nat.pow 16 i % 16, Nat.mod_lt _ (by decide)⟩ eq
  · intro eq
    simp [eq] at long
  · intro eq
    have : (utf8 ".").length = 1 := by decide
    rw [eq] at long
    omega
  · intro eq
    have : (utf8 "..").length = 2 := by decide
    rw [eq] at long
    omega

variable {c : Cache} (rooted : Path.isAbsolute c.disk.cwd)

include rooted in
theorem getLast?_place (key : Text) :
    (c.disk.place (c.pathOf key)).getLast? = some (fileName key) := by
  have plain := fileName_plain key
  exact Path.getLast?_absolute rooted plain
    (Path.endsIn_joinAll plain [c.dir, utf8 "lint", (Sha256.toHex key).take 2])

include rooted in
theorem place_inj {key other : Text}
    (h : c.disk.place (c.pathOf key) = c.disk.place (c.pathOf other)) : key = other := by
  have names := congrArg List.getLast? h
  rw [getLast?_place rooted, getLast?_place rooted, Option.some.injEq] at names
  exact Sha256.toHex_inj (List.append_cancel_right names)

/-- The payload that is kept under a key, in the present form. -/
def kept? (c : Cache) (key : Text) : Option Payload :=
  match c.disk.top.at? (c.disk.place (c.pathOf key)) with
  | some (.file bytes) => (Payload.read? bytes).filter (·.isCurrent)
  | _ => none

theorem isCurrent_of_kept? {key : Text} {p : Payload} (h : c.kept? key = some p) : p.isCurrent := by
  simp only [kept?] at h
  split at h
  · exact (Option.filter_eq_some_iff.mp h).2
  · contradiction

include rooted in
/-- What is found under a key is kept there. -/
theorem kept?_of_get? {key : Text} {p : Payload} (h : c.get? key = some (.hit p)) :
    c.kept? key = some p := by
  simp only [get?] at h
  split at h
  · split at h <;> simp at h
  next bytes there =>
    rw [kept?, Disk.at?_of_read rooted there]
    obtain ⟨q, read, eq⟩ := Option.map_eq_some_iff.mp h
    split at eq
    next current =>
      cases eq
      simp [read, current]
    · contradiction

theorem put_eq_ok {c' : Cache} {key : Text} {p : Payload} (h : c.put key p = .ok c') :
    ∃ top, c.disk.top.write p.write (c.disk.place (c.pathOf key)) = .ok top ∧
      c' = { c with disk := { c.disk with top } } := by
  simp only [put, Disk.write] at h
  split at h
  next top written => exact ⟨top, written, (Except.ok.inj h).symm⟩
  · contradiction

include rooted in
/-- What is kept after a payload was put under a key is that payload under that key, or was
kept before. -/
theorem kept?_put {c' : Cache} {key other : Text} {p q : Payload} (h : c.put key p = .ok c')
    (kept : c'.kept? other = some q) :
    (other = key ∧ Payload.read? p.write = some q) ∨ c.kept? other = some q := by
  obtain ⟨top, written, rfl⟩ := put_eq_ok h
  simp only [kept?] at kept
  split at kept
  next bytes there =>
    obtain ⟨same, rfl⟩ | before := Disk.Folder.write_at? written there
    · exact .inl ⟨place_inj rooted same, (Option.filter_eq_some_iff.mp kept).1⟩
    · have old : c.disk.top.at? (c.disk.place (c.pathOf other)) = some (.file bytes) := before
      rw [kept?, old]
      exact .inr kept
  · contradiction

end Cache

/-! ## Jobs -/

open Run (Job Jobs Outcome Loaded Settings)

/-- A cache that keeps nothing under the keys of some jobs but what lints of jobs with these
keys do. -/
structure Cache.Sound (jobs : Job → Prop) (c : Cache) : Prop where
  rooted : Path.isAbsolute c.disk.cwd
  fresh : ∀ j, jobs j → ∀ p, c.kept? j.key = some p → ∃ i, jobs i ∧ i.key = j.key ∧ i.Stores p

theorem Cache.sound_empty (jobs : Job → Prop) (dir : Text) {cwd : Text} (h : Path.isAbsolute cwd) :
    Cache.Sound jobs ⟨dir, ⟨.empty, cwd⟩⟩ where
  rooted := h
  fresh := by
    intro j _ p kept
    simp only [kept?] at kept
    split at kept
    next bytes there =>
      by_cases top : Disk.place ⟨.empty, cwd⟩ (Cache.pathOf ⟨dir, ⟨.empty, cwd⟩⟩ j.key) = []
      · rw [top] at there
        simp [Disk.Folder.at?] at there
      · rw [Disk.Folder.at?_empty top] at there
        contradiction
    · contradiction

namespace Run

variable {optionsOf : Text → Text → Options} {jobs : Job → Prop}
variable {s : Settings} {disk : Disk} {files : FileSet} {cache : Option Cache}

/-! ## Putting into the cache -/

theorem keep_sound (known : Jobs optionsOf jobs) (sound : ∀ c ∈ cache, c.Sound jobs)
    {keeps : Option (CacheInput × Payload)}
    (stored : ∀ i p, keeps = some (i, p) → ∃ j, jobs j ∧ j.input = i ∧ j.Stores p) :
    ∀ c ∈ keep cache keeps, c.Sound jobs := by
  intro c mem
  cases keeps with
  | none => exact sound c mem
  | some kept =>
    obtain ⟨i, p⟩ := kept
    obtain ⟨j, own, rfl, stores⟩ := stored i p rfl
    simp only [keep, Option.mem_def, Option.map_eq_some_iff] at mem
    obtain ⟨old, there, rfl⟩ := mem
    have before := sound old there
    cases result : old.put j.input.key p with
    | error e =>
      exact before
    | ok new =>
      obtain ⟨top, -, rfl⟩ := Cache.put_eq_ok result
      refine ⟨before.rooted, fun other known' q kept => ?_⟩
      obtain ⟨same, read⟩ | kept := Cache.kept?_put before.rooted result kept
      · rw [known.codec j p own stores] at read
        cases read
        exact ⟨j, own, same.symm, stores⟩
      · exact before.fresh other known' q kept

/-! ## Looking into the cache -/

theorem lintDocument_eq (path : Text) (f : File) (document : Text) :
    lintDocument s files cache path f document
      = match cached? cache (Job.ofFile s f document).input with
        | some p => .ok ⟨p.diagnosticsIn f.id, true, [], [], none⟩
        | none => lintDocument s files none path f document := by
  have input : CacheInput.ofFile f document s.cwd s.config s.entries
      = (Job.ofFile s f document).input := rfl
  simp only [lintDocument, input]
  cases cached? cache (Job.ofFile s f document).input <;> rfl

theorem kept?_of_cached? (sound : ∀ c ∈ cache, c.Sound jobs) {i : CacheInput} {p : Payload}
    (hit : cached? cache i = some p) : ∃ c ∈ cache, c.kept? i.key = some p := by
  simp only [cached?] at hit
  split at hit
  next q there =>
    cases hit
    obtain ⟨c, mem, get⟩ := Option.bind_eq_some_iff.mp there
    exact ⟨c, mem, Cache.kept?_of_get? (sound c mem).rooted get⟩
  · contradiction

/-- What is found in a sound cache is what a lint without it gives. -/
theorem hit_of_sound (known : Jobs optionsOf jobs) (sound : ∀ c ∈ cache, c.Sound jobs)
    (path : Text) {f : File} {document : Text} (found : files.get? f.id = some f)
    (own : jobs (Job.ofFile s f document)) {p : Payload}
    (hit : cached? cache (Job.ofFile s f document).input = some p) :
    ∃ o, lintDocument s files none path f document = .ok o ∧ Job.Settled s f.id o.diagnostics ∧
      p.diagnosticsIn f.id = o.diagnostics.map fun d => d.resolved.inFile f.id := by
  obtain ⟨c, mem, kept⟩ := kept?_of_cached? sound hit
  obtain ⟨i, other, key, o', input, before, keeps⟩ := (sound c mem).fresh _ own p kept
  obtain ⟨s', files', path', f', document', found', rfl, linted⟩ := before
  obtain ⟨o, fresh, again, stored⟩ := Job.lintDocument_alike path found' found
    (known.alike_of_key own other key.symm) (known.regular _ other) linted keeps
  refine ⟨o, fresh, Job.settled_of_keeps found (known.regular _ own) fresh again, ?_⟩
  rw [Payload.diagnosticsIn, if_pos (Cache.isCurrent_of_kept? kept), ← stored, List.map_map]
  exact List.map_congr_left fun d _ => Stored.inFile_ofDiagnostic f.id d

/-! ## One source -/

/-- A source that was loaded takes a job: it is there, and so is its tree. -/
def Takes (s : Settings) (disk : Disk) (files : FileSet) (source : Loaded) (j : Job) : Prop :=
  source.failure? = none ∧ ∃ f document, files.get? source.file = some f ∧
    disk.read (s.treePath source.path) = .ok document ∧ j = Job.ofFile s f document

/-- An outcome is that of a lint without a cache, or what storing makes of it. -/
inductive Outcome.Agrees (s : Settings) (file : FileId) (o fresh : Outcome) : Prop where
  | same (uncached : o.cached = false) (diagnostics : o.diagnostics = fresh.diagnostics)
  | stored (cached : o.cached = true) (settled : Job.Settled s file fresh.diagnostics)
    (diagnostics : o.diagnostics = fresh.diagnostics.map fun d => d.resolved.inFile file)

theorem lintLoaded_takes {source : Loaded} {f : File} {document : Text}
    (present : source.failure? = none) (found : files.get? source.file = some f)
    (read : disk.read (s.treePath source.path) = .ok document) (cache : Option Cache) :
    lintLoaded s disk files cache source
      = (lintDocument s files cache source.path f document).map fun o =>
          { o with
            events := ⟨source.path, .decode, .working⟩ :: o.events
              ++ [⟨source.path, .lint, if o.cached then .cached else .done⟩] } := by
  simp only [lintLoaded, present, found, lintFile, read]

/-- A source that takes no job is reported, whatever is in the cache. -/
theorem lintLoaded_of_not_takes {source : Loaded} (no : ∀ j, ¬ Takes s disk files source j)
    (cache : Option Cache) :
    lintLoaded s disk files cache source = lintLoaded s disk files none source ∧
      ∀ o, lintLoaded s disk files none source = .ok o → o.cached = false ∧ o.keeps = none := by
  cases failure : source.failure? with
  | some e =>
    simp only [lintLoaded, failure]
    exact ⟨trivial, fun o eq => by cases eq; exact ⟨rfl, rfl⟩⟩
  | none =>
    cases found : files.get? source.file with
    | none =>
      simp only [lintLoaded, failure, found]
      exact ⟨trivial, fun o eq => by contradiction⟩
    | some f =>
      cases read : disk.read (s.treePath source.path) with
      | ok document => exact absurd ⟨failure, f, document, found, read, rfl⟩ (no _)
      | error e =>
        simp only [lintLoaded, failure, found, lintFile, read]
        refine ⟨trivial, fun o eq => ?_⟩
        split at eq <;> cases eq <;> exact ⟨rfl, rfl⟩

variable (known : Jobs optionsOf jobs) (sound : ∀ c ∈ cache, c.Sound jobs)
  (numbered : ∀ id f, files.get? id = some f → f.id = id) {source : Loaded}
  (own : ∀ j, Takes s disk files source j → jobs j)

/-- A source that cannot be linted with a cache cannot be without it. -/
theorem lintLoaded_error {e : Error} (h : lintLoaded s disk files cache source = .error e) :
    lintLoaded s disk files none source = .error e := by
  by_cases takes : ∃ j, Takes s disk files source j
  · obtain ⟨j, present, f, document, found, read, rfl⟩ := takes
    rw [lintLoaded_takes present found read, lintDocument_eq] at h
    rw [lintLoaded_takes present found read]
    split at h
    · contradiction
    · exact h
  · rw [← (lintLoaded_of_not_takes (not_exists.mp takes) cache).1, h]

include known sound numbered own

/-- What is found of a source with a sound cache is what is found without it, but for what
storing does to it; and what it is to keep is what a lint of a job keeps. -/
theorem lintLoaded_agrees {o : Outcome} (h : lintLoaded s disk files cache source = .ok o) :
    (∃ fresh, lintLoaded s disk files none source = .ok fresh ∧ o.Agrees s source.file fresh) ∧
      ∀ i p, o.keeps = some (i, p) → ∃ j, jobs j ∧ j.input = i ∧ j.Stores p := by
  by_cases takes : ∃ j, Takes s disk files source j
  · obtain ⟨j, present, f, document, found, read, rfl⟩ := takes
    have job := own _ ⟨present, f, document, found, read, rfl⟩
    have number := numbered _ f found
    rw [lintLoaded_takes present found read] at h
    simp only [lintLoaded_takes present found read]
    rw [lintDocument_eq] at h
    split at h
    next p hit =>
      cases h
      obtain ⟨fresh, linted, settled, same⟩ :=
        hit_of_sound known sound source.path (number ▸ found) job hit
      rw [number] at settled same
      rw [linted]
      exact ⟨⟨_, rfl, .stored rfl settled (number ▸ same)⟩, fun i p keeps => by contradiction⟩
    next miss =>
      cases linted : lintDocument s files none source.path f document with
      | error e => rw [linted] at h; contradiction
      | ok fresh =>
        rw [linted] at h
        cases h
        have uncached := Job.cached_of_fresh linted
        refine ⟨⟨_, rfl, .same uncached rfl⟩, fun i p keeps => ?_⟩
        obtain ⟨-, -, -, rfl, -⟩ := Job.lintDocument_keeps (number ▸ found) linted keeps
        exact ⟨_, job, rfl, fresh, _, ⟨s, files, source.path, f, document, number ▸ found, rfl,
          linted⟩, keeps⟩
  · obtain ⟨same, plain⟩ := lintLoaded_of_not_takes (not_exists.mp takes) cache
    rw [same] at h
    obtain ⟨uncached, nothing⟩ := plain o h
    refine ⟨⟨o, h, .same uncached rfl⟩, fun i p keeps => ?_⟩
    rw [nothing] at keeps
    contradiction

end Run
end TreeLint
