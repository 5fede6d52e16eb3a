import TreeLint.Run.Discover
import TreeLint.Proofs.Disk.Place
import TreeLint.Proofs.Lint.Completion
import TreeLint.Proofs.Order

/-! # Finding exactly the sources

What a target stands for is said without walking: a file stands for itself, and a folder for
those sources below it that have no folder to be skipped around them, the target's own name
aside (`Discover.Sought`).  The walk through a folder finds exactly these
(`mem_inFolder`), whatever other targets there are, so the same file may be pruned from one
target and found from another.

All targets together are found once each and in strictly increasing order, which leaves
nothing of the order in which they were given (`discover_exact`).
-/

namespace TreeLint

section Traversal

variable {ε α β : Type} {f : α → Except ε β}

/-- What goes well does so whatever is said of what goes wrong. -/
theorem mapError_eq_ok {ε' : Type} {x : Except ε α} {g : ε → ε'} {a : α} :
    x.mapError g = .ok a ↔ x = .ok a := by
  cases x <;> simp [Except.mapError]

theorem exists_mem_of_mapM {l : List α} {found : List β} (h : l.mapM f = .ok found) :
    ∀ a ∈ l, ∃ b ∈ found, f a = .ok b := by
  induction l generalizing found with
  | nil => simp
  | cons a l ih =>
    obtain ⟨b, rest, first, later, rfl⟩ := mapM_cons_eq_ok h
    refine List.forall_mem_cons.mpr ⟨⟨b, List.mem_cons_self, first⟩, fun a' mem => ?_⟩
    obtain ⟨b', there, eq⟩ := ih later a' mem
    exact ⟨b', List.mem_cons_of_mem _ there, eq⟩

end Traversal

/-! ## Folders with proper names -/

namespace Disk

open TreeLint.Path (Plain)

instance : DecidablePred Plain := fun part =>
  decidable_of_iff (Path.slash ∉ part ∧ part ≠ [] ∧ part ≠ "." ∧ part ≠ "..")
    ⟨fun h => ⟨h.1, h.2.1, h.2.2.1, h.2.2.2⟩, fun h => ⟨h.whole, h.some, h.here, h.up⟩⟩

mutual

/-- In all folders of an item, names name something in the folder and none is taken twice. -/
def Item.Proper : Item → Prop
  | .file _ => True
  | .folder f => f.Proper

/-- In a folder and all folders below it, names name something in the folder and none is
taken twice. -/
def Folder.Proper : Folder → Prop
  | .empty => True
  | .cons name item rest =>
    Plain name ∧ rest.find? name = none ∧ item.Proper ∧ rest.Proper

end

/-- The item at a place within an item. -/
def Item.at? : Item → List Text → Option Item
  | item, [] => some item
  | .folder f, name :: names => f.at? (name :: names)
  | .file _, _ :: _ => none

theorem Folder.at?_cons_eq_bind (f : Folder) (name : Text) (names : List Text) :
    f.at? (name :: names) = (f.find? name).bind fun item => item.at? names := by
  cases names with
  | nil => simp [Folder.at?, Item.at?]
  | cons next names =>
    rw [Folder.at?]
    cases f.find? name with
    | none => rfl
    | some item => cases item <;> rfl

theorem Folder.Proper.find? {f : Folder} (h : f.Proper) {name : Text} {item : Item}
    (found : f.find? name = some item) : Plain name ∧ item.Proper := by
  cases f with
  | empty => contradiction
  | cons n first rest =>
    obtain ⟨plain, -, proper, others⟩ := h
    rw [Folder.find?] at found
    split at found
    next here =>
      cases found
      exact ⟨beq_iff_eq.mp here ▸ plain, proper⟩
    · exact others.find? found
termination_by structural f

/-- The names that lead to an item are proper, and so is the item. -/
theorem Folder.Proper.at? {f : Folder} (h : f.Proper) {names : List Text} {item : Item}
    (found : f.at? names = some item) : (∀ name ∈ names, Plain name) ∧ item.Proper := by
  induction names generalizing f with
  | nil =>
    cases found
    exact ⟨List.forall_mem_nil _, h⟩
  | cons name names ih =>
    rw [at?_cons_eq_bind] at found
    obtain ⟨inner, here, below⟩ := Option.bind_eq_some_iff.mp found
    obtain ⟨plain, proper⟩ := h.find? here
    rw [List.forall_mem_cons]
    cases names with
    | nil =>
      cases below
      exact ⟨⟨plain, List.forall_mem_nil _⟩, proper⟩
    | cons next names =>
      cases inner with
      | file c => contradiction
      | folder g =>
        obtain ⟨others, last⟩ := ih proper below
        exact ⟨⟨plain, others⟩, last⟩

/-- A file below a folder is below its first item, or below the others. -/
theorem Folder.at?_cons_iff {name : Text} {item : Item} {rest : Folder}
    (fresh : rest.find? name = none) {names : List Text} {c : Text} :
    (Folder.cons name item rest).at? names = some (.file c) ↔
      (∃ below, names = name :: below ∧ item.at? below = some (.file c)) ∨
        rest.at? names = some (.file c) := by
  cases names with
  | nil => simp [Folder.at?]
  | cons first below =>
    rw [at?_cons_eq_bind, at?_cons_eq_bind, Folder.find?]
    by_cases here : name = first
    · subst here
      simp [fresh]
    · rw [if_neg (by simpa using here)]
      constructor
      · exact .inr
      · rintro (⟨below', same, -⟩ | later)
        · exact absurd (List.cons.inj same).1.symm here
        · exact later

/-- An item that a path leads to stands at some place of the disk. -/
theorem stat_eq_ok {d : Disk} {path : Text} {item : Item} :
    d.stat path = .ok item ↔
      ∃ place, d.locate path = .ok place ∧ d.top.at? place = some item := by
  rw [stat, mapError_eq_ok, look]
  cases d.locate path with
  | error c => simp
  | ok place => cases there : d.top.at? place <;> simp [there]

/-- What a path leads to in a disk with proper names has proper names. -/
theorem proper_of_stat {d : Disk} (h : d.top.Proper) {path : Text} {item : Item}
    (found : d.stat path = .ok item) : item.Proper := by
  obtain ⟨place, -, there⟩ := stat_eq_ok.mp found
  exact (h.at? there).2

/-- The empty path leads nowhere. -/
theorem ne_nil_of_stat {d : Disk} {path : Text} {item : Item} (found : d.stat path = .ok item) :
    path ≠ [] := by
  rintro rfl
  obtain ⟨place, located, -⟩ := stat_eq_ok.mp found
  contradiction

end Disk

namespace Discover

open Disk (Item Folder)
open TreeLint.Path (Plain slash)

/-! ## Walking through a folder -/

variable {skip : Text → Bool}

mutual

theorem mem_inItem {path name p : Text} : {item : Item} → item.Proper →
    (p ∈ inItem skip path name item ↔ ∃ names c, item.at? names = some (.file c) ∧
      p = names.foldl Path.append path ∧ isLintable p ∧
      ∀ n ∈ (name :: names).dropLast, skip n = false)
  | .file content, _ => by
    rw [inItem]
    constructor
    · intro mem
      split at mem
      next source =>
        obtain rfl := List.mem_singleton.mp mem
        exact ⟨[], content, rfl, rfl, source, by simp⟩
      · contradiction
    · rintro ⟨names, c, there, rfl, source, -⟩
      cases names with
      | nil =>
        rw [List.foldl_nil] at source ⊢
        simp [source]
      | cons n names => contradiction
  | .folder f, proper => by
    rw [inItem]
    have inside {names : List Text} {c : Text} (there : f.at? names = some (.file c)) :
        (name :: names).dropLast = name :: names.dropLast := by
      cases names with
      | nil => cases there
      | cons n names => rfl
    by_cases skipped : skip name
    · rw [if_pos skipped]
      refine iff_of_false List.not_mem_nil ?_
      rintro ⟨names, c, there, -, -, enters⟩
      cases names with
      | nil => cases there
      | cons n names => simp [skipped] at enters
    · rw [if_neg skipped, mem_inFolder proper]
      constructor
      · rintro ⟨names, c, there, eq, source, enters⟩
        refine ⟨names, c, ?_, eq, source, ?_⟩
        · cases names with
          | nil => cases there
          | cons n names => exact there
        · rw [inside there, List.forall_mem_cons]
          exact ⟨by simpa using skipped, enters⟩
      · rintro ⟨names, c, there, eq, source, enters⟩
        cases names with
        | nil => cases there
        | cons n names =>
          rw [inside there, List.forall_mem_cons] at enters
          exact ⟨n :: names, c, there, eq, source, enters.2⟩

/-- The walk finds the sources that no skipped folder on the way to them holds back. -/
theorem mem_inFolder {path p : Text} : {f : Folder} → f.Proper →
    (p ∈ inFolder skip path f ↔ ∃ names c, f.at? names = some (.file c) ∧
      p = names.foldl Path.append path ∧ isLintable p ∧ ∀ n ∈ names.dropLast, skip n = false)
  | .empty, _ => by
    rw [inFolder]
    refine iff_of_false List.not_mem_nil ?_
    rintro ⟨names, c, there, -⟩
    by_cases top : names = []
    · subst top
      cases there
    · rw [Folder.at?_empty top] at there
      contradiction
  | .cons name item rest, ⟨_, fresh, proper, others⟩ => by
    rw [inFolder, List.mem_append, mem_inItem proper, mem_inFolder others]
    constructor
    · rintro (⟨names, c, there, eq, source, enters⟩ | ⟨names, c, there, eq, source, enters⟩)
      · exact ⟨name :: names, c, (Folder.at?_cons_iff fresh).mpr (.inl ⟨names, rfl, there⟩), eq,
          source, enters⟩
      · exact ⟨names, c, (Folder.at?_cons_iff fresh).mpr (.inr there), eq, source, enters⟩
    · rintro ⟨names, c, there, eq, source, enters⟩
      obtain ⟨below, rfl, inner⟩ | later := (Folder.at?_cons_iff fresh).mp there
      · exact .inl ⟨below, c, inner, eq, source, enters⟩
      · exact .inr ⟨names, c, later, eq, source, enters⟩

end

/-! ## Targets -/

/-- What a target stands for: the file that it names, or a source below the folder that it
names with no skipped folder strictly between the two. -/
inductive Sought (d : Disk) (skip : Text → Bool) (target : Text) : Text → Prop
  | file {content : Text} (here : d.stat target = .ok (.file content)) :
      Sought d skip target (Path.clean target)
  | source {f : Folder} {names : List Text} {content p : Text}
      (here : d.stat target = .ok (.folder f))
      (below : f.at? names = some (.file content))
      (path : p = Path.clean (Text.join [slash] (target :: names)))
      (lintable : isLintable p)
      (enters : ∀ name ∈ names.dropLast, skip name = false) : Sought d skip target p

/-- A target that is there is searched through, and what is found is what it stands for. -/
theorem mem_inTarget {d : Disk} (proper : d.top.Proper) {target : Text} {item : Item}
    (there : d.stat target = .ok item) :
    ∃ found, inTarget d skip target = .ok found ∧ ∀ p, p ∈ found ↔ Sought d skip target p := by
  have nonempty := Disk.ne_nil_of_stat there
  have proper := Disk.proper_of_stat proper there
  cases item with
  | file content =>
    refine ⟨[Path.clean target], by rw [inTarget, there], fun p => ?_⟩
    rw [List.mem_singleton]
    constructor
    · rintro rfl
      exact .file there
    · rintro (_ | ⟨here, -, -, -, -⟩)
      · rfl
      · rw [there] at here
        cases here
  | folder f =>
    refine ⟨inFolder skip target f, by rw [inTarget, there], fun p => ?_⟩
    have walked {names : List Text} {c : Text} (below : f.at? names = some (.file c)) :
        names.foldl Path.append target = Path.clean (Text.join [slash] (target :: names)) := by
      refine Path.foldl_append_eq nonempty ?_ (Folder.Proper.at? proper below).1
      rintro rfl
      cases below
    rw [mem_inFolder proper]
    constructor
    · rintro ⟨names, c, below, eq, source, enters⟩
      exact .source there below (eq.trans (walked below)) source enters
    · rintro (here | @⟨g, names, c, _, here, below, eq, source, enters⟩)
      · rw [there] at here
        cases here
      · rw [there] at here
        cases here
        exact ⟨names, c, below, eq.trans (walked below).symm, source, enters⟩

end Discover

/-! ## All targets -/

section Discover

variable {d : Disk} {targets : List Text}

/-- Whether a configuration, if there is one, has the walk skip the folders of a name. -/
def skips (config? : Option Config) (name : Text) : Bool := config?.any fun c => c.ignores name

/-- What is found for the targets of a run is in order, and it is what one of them stands for. -/
theorem exists_discover_eq_ok (proper : d.top.Proper) (config? : Option Config)
    (there : ∀ target ∈ targets, ∃ item, d.stat target = .ok item) :
    ∃ found, discover d config? targets = .ok found ∧ found.Pairwise (Text.less · ·) ∧
      ∀ p, p ∈ found ↔ ∃ target ∈ targets, Discover.Sought d (skips config?) target p := by
  have each : ∀ target ∈ targets, ∃ found,
      (Discover.inTarget d (skips config?) target).mapError (DiscoverError.mk target) = .ok found ∧
        ∀ p, p ∈ found ↔ Discover.Sought d (skips config?) target p := by
    intro target mem
    obtain ⟨item, here⟩ := there target mem
    exact (Discover.mem_inTarget proper here).imp fun found h => ⟨mapError_eq_ok.mpr h.1, h.2⟩
  obtain ⟨found, eq⟩ := exists_mapM_eq_ok.mpr fun target mem =>
    (each target mem).imp fun _ h => h.1
  refine ⟨(Text.sorted found.flatten).eraseDups, ?_, Text.pairwise_less_sorted _, fun p => ?_⟩
  · exact congrArg (· >>= fun found => pure (Text.sorted found.flatten).eraseDups) eq
  · rw [Text.mem_sorted_eraseDups, List.mem_flatten]
    constructor
    · rintro ⟨part, mem, inside⟩
      obtain ⟨target, given, eq'⟩ := mem_of_mapM eq part mem
      obtain ⟨part', eq'', sought⟩ := each target given
      obtain rfl := Except.ok.inj (eq'.symm.trans eq'')
      exact ⟨target, given, (sought p).mp inside⟩
    · rintro ⟨target, given, seeks⟩
      obtain ⟨part, mem, eq'⟩ := exists_mem_of_mapM eq target given
      obtain ⟨part', eq'', sought⟩ := each target given
      obtain rfl := Except.ok.inj (eq'.symm.trans eq'')
      exact ⟨part, mem, (sought p).mpr seeks⟩

/-- Targets that are all there are expanded into what they stand for, in strictly increasing
order, however they are ordered and repeated. -/
theorem discover_exact (proper : d.top.Proper) (config? : Option Config)
    (there : ∀ target ∈ targets, ∃ item, d.stat target = .ok item) :
    ∃ found, discover d config? targets = .ok found ∧ found.Pairwise (Text.less · ·) ∧
      (∀ p, p ∈ found ↔ ∃ target ∈ targets, Discover.Sought d (skips config?) target p) ∧
      ∀ targets', (∀ target, target ∈ targets' ↔ target ∈ targets) →
        discover d config? targets' = .ok found := by
  obtain ⟨found, eq, inOrder, sought⟩ := exists_discover_eq_ok proper config? there
  refine ⟨found, eq, inOrder, sought, fun targets' same => ?_⟩
  have there' : ∀ target ∈ targets', ∃ item, d.stat target = .ok item :=
    fun target mem => there target ((same target).mp mem)
  obtain ⟨found', eq', inOrder', sought'⟩ := exists_discover_eq_ok proper config? there'
  have alike : found' = found := Text.eq_of_pairwise_less inOrder' inOrder fun p => by
    rw [sought, sought']
    simp only [same]
  rw [eq', alike]

/-- Folders to be skipped are passed over from above, one of them being found all the same since
it is a target itself, and a file that is no source is found when it is one. -/
theorem discover_exact_overlapping :
    let vendor : Disk.Folder := .cons "lib.ts" (.file []) .empty
    let out : Disk.Folder := .cons "b.ts" (.file []) .empty
    let src : Disk.Folder := .cons "a.d.ts" (.file []) (.cons "a.ts" (.file [])
      (.cons "out" (.folder out) (.cons "vendor" (.folder vendor) .empty)))
    let disk : Disk := ⟨.cons "notes.md" (.file []) (.cons "src" (.folder src) .empty), "/"⟩
    let config? : Option Config := some { Config.default [] with ignore := ["vendor", "out"] }
    let targets : List Text := ["src/vendor/", "./src", "notes.md", "src"]
    let found : List Text := ["notes.md", "src/a.ts", "src/vendor/lib.ts"]
    disk.top.Proper ∧ (∀ target ∈ targets, ∃ item, disk.stat target = .ok item) ∧
      discover disk config? targets = .ok found ∧ found.Pairwise (Text.less · ·) ∧
        (∀ p, p ∈ found ↔ ∃ target ∈ targets, Discover.Sought disk (skips config?) target p) ∧
        ∀ targets', (∀ target, target ∈ targets' ↔ target ∈ targets) →
          discover disk config? targets' = .ok found := by
  intro vendor out src disk config? targets found
  have proper : disk.top.Proper := by
    simp only [disk, src, out, vendor, Disk.Folder.Proper, Disk.Item.Proper, and_true]
    decide
  have there : ∀ target ∈ targets, ∃ item, disk.stat target = .ok item := by
    simp only [targets, List.forall_mem_cons]
    exact ⟨⟨_, rfl⟩, ⟨_, rfl⟩, ⟨_, rfl⟩, ⟨_, rfl⟩, by simp⟩
  obtain ⟨found', eq, inOrder, sought, same⟩ := discover_exact proper config? there
  obtain rfl : found' = found := by
    have whole : discover disk config? targets = .ok found := by cbv
    exact Except.ok.inj (eq.symm.trans whole)
  exact ⟨proper, there, eq, inOrder, sought, same⟩

end Discover

end TreeLint
