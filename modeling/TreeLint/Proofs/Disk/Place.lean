import TreeLint.Disk
import TreeLint.Proofs.Path.Components

/-! # Places on a disk

A path is looked up step by step, and a file is written at the place that its cleaned path
names.  Where a look-up gets through it leads to that place (`locate_eq_place`).  Writing a
file changes that file and no other (`write_at?`).  A file that is there can be written over, and
then every path is looked up as before and read as before, but for those that lead to the file
(`read_write`).
-/

namespace TreeLint.Disk

open Path (Plain slash)

/-! ## Looking up -/

theorem descend_up {place : List Text} (plain : ∀ p ∈ place, Plain p) :
    Path.descend true place.reverse ".." = place.dropLast.reverse := by
  have dots : utf8 ".." ≠ [] ∧ utf8 ".." ≠ "." := by decide
  rw [← List.tail_reverse]
  cases top : place.reverse with
  | nil => rfl
  | cons last before =>
    have mem : last ∈ place := by
      rw [← List.mem_reverse, top]
      exact List.mem_cons_self
    simp [Path.descend, dots, (plain last mem).up]

/-- Following a path from a place cleans it on the way. -/
theorem follow_eq {top : Folder} {place parts found : List Text} (plain : ∀ p ∈ place, Plain p)
    (whole : ∀ part ∈ parts, slash ∉ part) (h : follow top place parts = .ok found) :
    found = (parts.foldl (Path.descend true) place.reverse).reverse := by
  induction parts generalizing place with
  | nil => rw [List.foldl_nil, List.reverse_reverse, Except.ok.inj h]
  | cons part rest ih =>
    rw [List.forall_mem_cons] at whole
    rw [List.foldl_cons]
    simp only [follow] at h
    split at h
    · contradiction
    · contradiction
    split at h
    next nothing =>
      have stay : Path.descend true place.reverse part = place.reverse := by
        simp only [List.isEmpty_iff, Bool.or_eq_true, beq_iff_eq] at nothing
        simp [Path.descend, nothing]
      rw [stay]
      exact ih plain whole.2 h
    next something =>
      split at h
      next up =>
        rw [beq_iff_eq.mp up, descend_up plain]
        exact ih (fun p mem => plain p ((List.dropLast_sublist place).subset mem)) whole.2 h
      next notUp =>
        have here : Plain part := by
          simp only [List.isEmpty_iff, Bool.or_eq_true, beq_iff_eq, not_or] at something notUp
          exact ⟨whole.1, something.1, something.2, notUp⟩
        split at h
        · contradiction
        split at h
        · have added : ∀ p ∈ place ++ [part], Plain p := by
            rw [List.forall_mem_append, List.forall_mem_singleton]
            exact ⟨plain, here⟩
          rw [Path.descend_plain here, ih added whole.2 h, List.reverse_concat]
        · contradiction

/-- A path that is found is found at its place. -/
theorem locate_eq_place {d : Disk} (rooted : Path.isAbsolute d.cwd) {path : Text}
    {found : List Text} (h : d.locate path = .ok found) : found = d.place path := by
  have whole : ∀ part ∈ Text.splitByte slash path, slash ∉ part :=
    fun part mem => Text.notMem_of_mem_splitByte mem
  simp only [locate] at h
  split at h
  · contradiction
  split at h
  · contradiction
  split at h
  · contradiction
  rw [place, Path.components_absolute rooted]
  split at h
  next own =>
    rw [if_pos own, Path.components, own]
    exact follow_eq (by simp) whole h
  next relative =>
    have start := follow_eq (fun p mem => Path.plain_of_mem_components rooted mem) whole h
    rw [if_neg relative, Path.components, Path.isAbsolute_append rooted, Text.splitByte_append,
      List.foldl_append, start, Path.components, rooted, List.reverse_reverse]

/-- What is read from a path stands at its place. -/
theorem at?_of_read {d : Disk} (rooted : Path.isAbsolute d.cwd) {path content : Text}
    (h : d.read path = .ok content) : d.top.at? (d.place path) = some (.file content) := by
  simp only [read, look] at h
  split at h
  · contradiction
  · contradiction
  next found =>
    cases h
    split at found
    · contradiction
    next place located =>
      rw [← locate_eq_place rooted located]
      split at found
      next item there => rw [there, Except.ok.inj found]
      · contradiction

/-! ## Writing -/

theorem Folder.find?_set (name other : Text) (item : Item) : (f : Folder) →
    (f.set name item).find? other = if name == other then some item else f.find? other
  | .empty => rfl
  | .cons n old rest => by
    have ih := find?_set name other item rest
    simp only [set]
    split
    next same =>
      rw [beq_iff_eq] at same
      subst same
      simp only [find?]
      cases n == other <;> rfl
    next distinct =>
      split
      · rfl
      · simp only [find?, ih]
        by_cases here : n == other
        · rw [beq_iff_eq] at here
          subst here
          have apart : ¬(name == n) = true := by
            rwa [beq_iff_eq, eq_comm, ← beq_iff_eq]
          rw [if_pos (beq_self_eq_true n), if_neg apart, if_pos (beq_self_eq_true n)]
        · rw [if_neg here, if_neg here]

theorem Folder.find?_set_self (f : Folder) (name : Text) (item : Item) :
    (f.set name item).find? name = some item := by
  rw [find?_set, if_pos (beq_self_eq_true name)]

theorem Folder.at?_empty {place : List Text} (deeper : place ≠ []) : empty.at? place = none := by
  cases place with
  | nil => contradiction
  | cons name rest => cases rest <;> rfl

theorem Folder.at?_cons (f : Folder) (name : Text) {rest : List Text} (deeper : rest ≠ []) :
    f.at? (name :: rest) = match f.find? name with
      | some (.folder g) => g.at? rest
      | _ => none := by
  cases rest with
  | nil => contradiction
  | cons next names => rfl

theorem Folder.at?_set_of_ne (f : Folder) {name other : Text} (apart : name ≠ other) (item : Item)
    (rest : List Text) : (f.set name item).at? (other :: rest) = f.at? (other :: rest) := by
  have kept : (f.set name item).find? other = f.find? other := by
    rw [find?_set, if_neg (by simpa using apart)]
  cases rest with
  | nil => exact kept
  | cons next names => simp only [at?, kept]

/-- Writing a file puts it under a name, or into the folder under a name. -/
theorem Folder.write_cons {f g : Folder} {content name : Text} {rest : List Text}
    (h : f.write content (name :: rest) = .ok g) :
    (rest = [] ∧ g = f.set name (.file content)) ∨
      ∃ below after, rest ≠ [] ∧
        (f.find? name = some (.folder below) ∨ below = .empty) ∧
        below.write content rest = .ok after ∧ g = f.set name (.folder after) := by
  cases rest with
  | nil =>
    simp only [write] at h
    split at h
    · contradiction
    · exact .inl ⟨rfl, (Except.ok.inj h).symm⟩
  | cons next names =>
    have into {below : Folder}
        (h : (below.write content (next :: names)).map (fun g => f.set name (.folder g)) = .ok g) :
        ∃ after, below.write content (next :: names) = .ok after ∧
          g = f.set name (.folder after) := by
      cases written : below.write content (next :: names) with
      | error e => rw [written] at h; contradiction
      | ok after =>
        rw [written] at h
        exact ⟨after, rfl, (Except.ok.inj h).symm⟩
    simp only [write] at h
    split at h
    · contradiction
    next below there =>
      obtain ⟨after, written, eq⟩ := into h
      exact .inr ⟨below, after, by simp, .inl there, written, eq⟩
    next nothing =>
      obtain ⟨after, written, eq⟩ := into h
      exact .inr ⟨.empty, after, by simp, .inr rfl, written, eq⟩

/-- A file that is there after a file was written is that file, or was there before. -/
theorem Folder.write_at? {f g : Folder} {content : Text} {place other : List Text} {c : Text}
    (h : f.write content place = .ok g) (found : g.at? other = some (.file c)) :
    (other = place ∧ c = content) ∨ f.at? other = some (.file c) := by
  induction place generalizing f g other with
  | nil => contradiction
  | cons name rest ih =>
    cases other with
    | nil => simp [at?] at found
    | cons first others =>
      by_cases same : name = first
      · subst same
        obtain ⟨rfl, rfl⟩ | ⟨below, after, deeper, there, written, rfl⟩ := write_cons h
        · by_cases here : others = []
          · subst here
            rw [at?, find?_set_self] at found
            cases found
            exact .inl ⟨rfl, rfl⟩
          · rw [at?_cons _ _ here, find?_set_self] at found
            contradiction
        · by_cases here : others = []
          · subst here
            rw [at?, find?_set_self] at found
            cases found
          · rw [at?_cons _ _ here, find?_set_self] at found
            rw [at?_cons _ _ here]
            obtain ⟨rfl, rfl⟩ | before := ih written found
            · exact .inl ⟨rfl, rfl⟩
            · obtain there | rfl := there
              · rw [there]
                exact .inr before
              · rw [at?_empty here] at before
                contradiction
      · obtain ⟨rfl, rfl⟩ | ⟨below, after, -, -, -, rfl⟩ := write_cons h
        · rw [at?_set_of_ne f same] at found
          exact .inr found
        · rw [at?_set_of_ne f same] at found
          exact .inr found

/-! ## Writing over files -/

/-- The content of an item that is a file. -/
def Item.content? : Item → Option Text
  | file content => some content
  | folder _ => none

theorem Item.isFolder_eq (item : Item) : item.isFolder = item.content?.isNone := by
  cases item <;> rfl

namespace Folder

/-- What is in a folder stands under its name at the place of the folder. -/
theorem at?_concat {f g : Folder} {place : List Text} (there : f.at? place = some (.folder g))
    (name : Text) : f.at? (place ++ [name]) = g.find? name := by
  induction place generalizing f with
  | nil =>
    cases there
    rfl
  | cons first rest ih =>
    rw [List.cons_append, at?_cons f first (List.concat_ne_nil _ _)]
    cases rest with
    | nil =>
      rw [at?] at there
      rw [there]
      rfl
    | cons next names =>
      rw [at?_cons f first (List.cons_ne_nil _ _)] at there
      split at there
      · exact ih there
      · contradiction

/-- Writing over a file changes its content and nothing else. -/
theorem at?_write {f : Folder} {place : List Text} {old : Text}
    (there : f.at? place = some (.file old)) (content : Text) :
    ∃ g, f.write content place = .ok g ∧ ∀ other, (g.at? other).map Item.content?
      = if other = place then some (some content) else (f.at? other).map Item.content? := by
  induction place generalizing f with
  | nil => simp [at?] at there
  | cons name rest ih =>
    cases rest with
    | nil =>
      rw [at?] at there
      refine ⟨f.set name (.file content), by simp [write, there], fun other => ?_⟩
      cases other with
      | nil => simp [at?, Item.content?]
      | cons first others =>
        by_cases same : name = first
        · subst same
          cases others with
          | nil => simp [at?, find?_set_self, Item.content?]
          | cons next names =>
            rw [at?_cons _ _ (List.cons_ne_nil _ _), at?_cons _ _ (List.cons_ne_nil _ _),
              find?_set_self, there, if_neg (by simp)]
        · rw [at?_set_of_ne f same, if_neg (by simp [Ne.symm same])]
    | cons next names =>
      rw [at?_cons f name (List.cons_ne_nil _ _)] at there
      split at there
      next below found =>
        obtain ⟨after, written, reads⟩ := ih there
        refine ⟨f.set name (.folder after), by simp [write, found, written, Except.map],
          fun other => ?_⟩
        cases other with
        | nil => simp [at?, Item.content?]
        | cons first others =>
          by_cases same : name = first
          · subst same
            cases others with
            | nil => simp [at?, find?_set_self, found, Item.content?]
            | cons other names' =>
              rw [at?_cons _ _ (List.cons_ne_nil _ _), at?_cons _ _ (List.cons_ne_nil _ _),
                find?_set_self, found]
              simpa using reads (other :: names')
          · rw [at?_set_of_ne f same, if_neg (by simp [Ne.symm same])]
      · contradiction

end Folder

/-- Where there are the same files and folders, the same paths can be followed. -/
theorem follow_congr {f g : Folder}
    (alike : ∀ place, (g.at? place).map Item.isFolder = (f.at? place).map Item.isFolder)
    (place parts : List Text) : follow g place parts = follow f place parts := by
  induction parts generalizing place with
  | nil => rfl
  | cons part parts ih =>
    have here := alike place
    cases before : f.at? place with
    | none =>
      rw [before, Option.map_none, Option.map_eq_none_iff] at here
      simp only [follow, before, here]
    | some item =>
      rw [before, Option.map_some, Option.map_eq_some_iff] at here
      obtain ⟨item', after, kind⟩ := here
      cases item with
      | file content =>
        cases item' with
        | file content' => simp only [follow, before, after]
        | folder below' => contradiction
      | folder below =>
        cases item' with
        | file content' => contradiction
        | folder below' =>
          have named : (below'.find? part).isSome = (below.find? part).isSome := by
            rw [← Folder.at?_concat before, ← Folder.at?_concat after]
            simpa using congrArg Option.isSome (alike (place ++ [part]))
          simp only [follow, before, after, named, ih]

section Write

variable {d : Disk} {path content old : Text}

/-- Cleaning a path does not change the place that it names. -/
theorem place_clean (rooted : Path.isAbsolute d.cwd) (path : Text) :
    d.place (Path.clean path) = d.place path := by
  rw [place, place, Path.components_absolute rooted, Path.components_absolute rooted]
  by_cases own : Path.isAbsolute path
  · rw [if_pos own, if_pos (Path.isAbsolute_clean own), Path.components_clean own]
  · rw [if_neg own, if_neg (Path.not_isAbsolute_clean own), Path.components_append_clean own rooted]

/-- What a path is read as hangs on where it leads to, and on the content there. -/
theorem read_eq (d : Disk) (path : Text) :
    d.read path = match d.locate path with
      | .error c => .error ⟨"open", path, c⟩
      | .ok place => match (d.top.at? place).map Item.content? with
        | none => .error ⟨"open", path, .notFound⟩
        | some none => .error ⟨"read", path, .isFolder⟩
        | some (some content) => .ok content := by
  simp only [read, look]
  cases d.locate path with
  | error c => rfl
  | ok place =>
    dsimp only
    cases d.top.at? place with
    | none => rfl
    | some item => cases item <;> rfl

/-- After a file was written over, paths that lead to it are read as what was written, and all
others as before. -/
theorem read_write (rooted : Path.isAbsolute d.cwd)
    (there : d.top.at? (d.place path) = some (.file old)) (content : Text) :
    ∃ d', d.write path content = .ok d' ∧ d'.cwd = d.cwd ∧ ∀ other, d'.read other
      = if d.place other = d.place path then (d.read other).map fun _ => content
        else d.read other := by
  obtain ⟨top, written, items⟩ := Folder.at?_write there content
  refine ⟨{ d with top }, by simp [write, written], rfl, fun other => ?_⟩
  have alike (place : List Text) :
      (top.at? place).map Item.isFolder = (d.top.at? place).map Item.isFolder := by
    have kinds (item? : Option Item) : item?.map Item.isFolder
        = (item?.map Item.content?).map Option.isNone := by
      cases item? with
      | none => rfl
      | some item => simp [Item.isFolder_eq]
    rw [kinds, kinds, items]
    split
    next here => rw [here, there]; rfl
    · rfl
  have locate : ({ d with top } : Disk).locate other = d.locate other := by
    simp only [Disk.locate, follow_congr alike]
  rw [read_eq, read_eq d other, locate]
  cases located : d.locate other with
  | error c => simp [Except.map]
  | ok place =>
    obtain rfl := locate_eq_place rooted located
    dsimp only
    rw [items]
    by_cases here : d.place other = d.place path
    · rw [if_pos here, if_pos here, here, there]
      rfl
    · rw [if_neg here, if_neg here]

end Write

end TreeLint.Disk
