import TreeLint.Proofs.Tree.Tour

/-! # Traversals without a bound

Walks and ways up are computed with a bound on their length, the number of nodes.  Here they
are told without it, as what comes to an end: a walk with an observer that may decide and remember
what it likes (`Tree.Walks`), a search along the parent links (`Tree.Seeks`), and the list of
all ancestors (`Tree.Ancestry`).  Nothing but the order of the nodes keeps them from going round
in circles.  In a tree that is in order each of them ends, from every node, and the bound cuts
nothing off (`Tree.Climbing.traversable`).
-/

namespace TreeLint

/-- What is told of every visit.  When a node is entered it answers whether the walk goes on
below; and it has a memory of its own. -/
abbrev Observer (σ : Type) := σ → Visit → Bool × σ

namespace Observer

/-- Decides by the node alone where to go on, and notes what it is told. -/
def noting {σ : Type} (skip : NodeId → Bool) (note : σ → Visit → σ) : Observer σ := fun s v =>
  (match v with
    | .enter id => !skip id
    | .leave _ => true, note s v)

/-- Goes on everywhere and gathers the wanted nodes as they are entered. -/
def gathering (wanted : NodeId → Bool) : Observer (List NodeId) :=
  noting (fun _ => false) fun found v =>
    match v with
    | .enter id => if wanted id then found ++ [id] else found
    | .leave _ => found

end Observer

namespace Tree

/-! ## Down -/

section

variable {σ : Type} (t : Tree) (visit : Observer σ)

mutual

/-- A walk from a node comes to an end, and takes the memory of the observer from one state to
another. -/
inductive Walks : NodeId → σ → σ → Prop
  | absent {id s} (missing : t.node? id = none) : Walks id s s
  | skip {id n s s'} (found : t.node? id = some n) (entered : visit s (.enter id) = (false, s')) :
    Walks id s (visit s' (.leave id)).2
  | through {id n s s' s''} (found : t.node? id = some n)
    (entered : visit s (.enter id) = (true, s')) (each : WalksAll n.children s' s'') :
    Walks id s (visit s'' (.leave id)).2

/-- Walks from some nodes, one after the other. -/
inductive WalksAll : List NodeId → σ → σ → Prop
  | nil {s} : WalksAll [] s s
  | cons {id ids s s' s''} (first : Walks id s s') (rest : WalksAll ids s' s'') :
    WalksAll (id :: ids) s s''

end

end

section

variable {σ : Type} {t : Tree} {visit : Observer σ}

theorem WalksAll.existsUnique {ids : List NodeId}
    (each : ∀ id ∈ ids, ∀ s, ∃! s', t.Walks visit id s s') (s : σ) :
    ∃! s', t.WalksAll visit ids s s' := by
  induction ids generalizing s with
  | nil =>
    refine ⟨s, .nil, fun _ other => ?_⟩
    cases other
    rfl
  | cons id ids ih =>
    obtain ⟨s', first, one⟩ := each id List.mem_cons_self s
    obtain ⟨s'', rest, one'⟩ := ih (fun x mem => each x (List.mem_cons_of_mem id mem)) s'
    refine ⟨s'', .cons first rest, fun _ other => ?_⟩
    cases other with
    | cons first' rest' =>
      cases one _ first'
      exact one' _ rest'

theorem WalksAll.foldl {ids : List NodeId} {part : NodeId → List Visit} {note : σ → Visit → σ}
    (each : ∀ id ∈ ids, ∀ s, t.Walks visit id s ((part id).foldl note s)) (s : σ) :
    t.WalksAll visit ids s ((ids.flatMap part).foldl note s) := by
  induction ids generalizing s with
  | nil => exact .nil
  | cons id ids ih =>
    rw [List.flatMap_cons, List.foldl_append]
    exact .cons (each id List.mem_cons_self s)
      (ih (fun x mem => each x (List.mem_cons_of_mem id mem)) _)

end

/-! ## Up -/

/-- A search along the parent links comes to an end, at the first node that is wanted or at none. -/
inductive Seeks (t : Tree) (wanted : NodeId → Bool) : Ref → Ref → Prop
  | nowhere : Seeks t wanted none none
  | here {id} (good : wanted id) : Seeks t wanted (some id) (some id)
  | further {id found} (bad : ¬ wanted id) (up : Seeks t wanted (t.parent (some id)) found) :
    Seeks t wanted (some id) found

theorem Seeks.unique {t : Tree} {wanted : NodeId → Bool} {r a b : Ref} (h : t.Seeks wanted r a)
    (h' : t.Seeks wanted r b) : a = b := by
  induction h with
  | nowhere =>
    cases h' with
    | nowhere => rfl
  | here good =>
    cases h' with
    | here => rfl
    | further bad => contradiction
  | further bad _ ih =>
    cases h' with
    | here good => contradiction
    | further _ up => exact ih up

theorem Seeks.eq_iff {t : Tree} {wanted : NodeId → Bool} {r a b : Ref} (h : t.Seeks wanted r a) :
    t.Seeks wanted r b ↔ a = b :=
  ⟨h.unique, fun same => same ▸ h⟩

/-- A search among the ancestors, once they are known. -/
theorem Ancestry.seeks {t : Tree} {id : NodeId} {above : List NodeId} (h : t.Ancestry id above)
    (wanted : NodeId → Bool) : t.Seeks wanted (t.parent (some id)) (above.find? wanted) := by
  induction h with
  | top orphan =>
    rw [orphan]
    exact .nowhere
  | @step id p above up _ ih =>
    rw [up]
    by_cases good : wanted p
    · simpa [good] using Seeks.here good
    · simpa [good] using Seeks.further good ih

/-! ## Trees in order -/

/-- A tree in which all traversals end, wherever they begin. -/
structure Traversable (t : Tree) : Prop where
  /-- A walk ends whatever the observer does, and it ends in one way. -/
  walk : ∀ {σ : Type} (visit : Observer σ) id s, ∃! s', t.Walks visit id s s'
  /-- An observer that decides by the node alone is told of the visits that were computed. -/
  visits : ∀ {σ : Type} skip (note : σ → Visit → σ) id s,
    t.Walks (.noting skip note) id s ((t.visits skip (some id)).foldl note s)
  find : ∀ k id,
    t.Walks (.gathering fun x => t.hasKind (some x) k) id [] (t.find (some id) k)
  ancestors : ∀ id above, t.Ancestry id above ↔ t.ancestors (some id) = above
  closest : ∀ r kinds found,
    t.Seeks (fun p => kinds.any (t.hasKind (some p))) (t.parent r) found ↔
      t.closest r kinds = found
  topLevel : ∀ r found,
    t.Seeks (fun id => t.hasKind (t.parent (some id)) .program) r found ↔ t.topLevel r = found

namespace Climbing

variable {t : Tree}

theorem existsUnique_walks (h : t.Climbing) {σ : Type} (visit : Observer σ) (id : NodeId) (s : σ) :
    ∃! s', t.Walks visit id s s' := by
  -- Children come before their parents, so the place of the node is what gets smaller.
  induction place : id.index using Nat.strong_induction_on generalizing id s with
  | _ place ih =>
    cases found : t.node? id with
    | none =>
      refine ⟨s, .absent found, fun _ other => ?_⟩
      cases other with
      | absent => rfl
      | skip there | through there => simp [found] at there
    | some n =>
      rcases entered : visit s (.enter id) with ⟨_ | _, s'⟩
      · refine ⟨_, .skip found entered, fun _ other => ?_⟩
        cases other with
        | absent missing => simp [found] at missing
        | skip _ same =>
          cases entered.symm.trans same
          rfl
        | through _ differs => simp [entered] at differs
      · have each : ∀ c ∈ n.children, ∀ s, ∃! s', t.Walks visit c s s' := by
          intro c mem s
          exact ih c.index (place ▸ h.child found c mem) c s rfl
        obtain ⟨s'', all, one⟩ := WalksAll.existsUnique each s'
        refine ⟨_, .through found entered all, fun _ other => ?_⟩
        cases other with
        | absent missing => simp [found] at missing
        | skip _ differs => simp [entered] at differs
        | through there same all' =>
          cases found.symm.trans there
          cases entered.symm.trans same
          rw [one _ all']

theorem visits_eq (h : t.Climbing) (skip : NodeId → Bool) {id : NodeId} {n : Node}
    (found : t.node? id = some n) :
    t.visits skip (some id) = .enter id ::
      (if skip id then [] else n.children.flatMap fun c => t.visits skip (some c))
        ++ [.leave id] := by
  rw [← h.visitsWithin_eq skip (Nat.le_succ t.size) id, visitsWithin, found]
  rfl

theorem walks_visits (h : t.Climbing) {σ : Type} (skip : NodeId → Bool) (note : σ → Visit → σ)
    (id : NodeId) (s : σ) :
    t.Walks (.noting skip note) id s ((t.visits skip (some id)).foldl note s) := by
  induction place : id.index using Nat.strong_induction_on generalizing id s with
  | _ place ih =>
    cases found : t.node? id with
    | none =>
      have nothing : t.visits skip (some id) = [] := by
        rw [← h.visitsWithin_eq skip (Nat.le_succ t.size) id, visitsWithin, found]
      rw [nothing]
      exact .absent found
    | some n =>
      rw [h.visits_eq skip found]
      by_cases stop : skip id
      · have entered : Observer.noting skip note s (.enter id) = (false, note s (.enter id)) := by
          simp [Observer.noting, stop]
        have walks := Walks.skip found entered
        simpa [stop, Observer.noting] using walks
      · have entered : Observer.noting skip note s (.enter id) = (true, note s (.enter id)) := by
          simp [Observer.noting, stop]
        have each : ∀ c ∈ n.children, ∀ s,
            t.Walks (.noting skip note) c s ((t.visits skip (some c)).foldl note s) := by
          intro c mem s
          exact ih c.index (place ▸ h.child found c mem) c s rfl
        have all := WalksAll.foldl each (note s (.enter id))
        have walks := Walks.through found entered all
        simpa [stop, Observer.noting] using walks

theorem walks_find (h : t.Climbing) (k : Kind) (id : NodeId) :
    t.Walks (.gathering fun x => t.hasKind (some x) k) id [] (t.find (some id) k) := by
  have walks := h.walks_visits (fun _ => false) (fun found v =>
      match v with
      | .enter x => if t.hasKind (some x) k then found ++ [x] else found
      | .leave _ => found) id []
  suffices gather : ∀ (visits : List Visit) (found : List NodeId),
      visits.foldl (fun found v =>
          match v with
          | .enter x => if t.hasKind (some x) k then found ++ [x] else found
          | .leave _ => found) found
        = found ++ visits.filterMap fun
          | .enter x => if t.hasKind (some x) k then some x else none
          | .leave _ => none by
    rw [gather, List.nil_append] at walks
    exact walks
  intro visits
  induction visits with
  | nil => simp
  | cons v visits ih =>
    intro found
    rw [List.foldl_cons, ih]
    cases v with
    | enter x => by_cases good : t.hasKind (some x) k <;> simp [good]
    | leave x => simp

theorem ancestors_eq (h : t.Climbing) {r : Ref} {p : NodeId} (up : t.parent r = some p) :
    t.ancestors r = p :: t.ancestors (some p) := by
  rw [← h.ancestorsWithin_eq (Nat.le_succ t.size), ancestorsWithin, up]
  rfl

theorem ancestry (h : t.Climbing) (id : NodeId) : t.Ancestry id (t.ancestors (some id)) := by
  -- Parents come later, so fewer and fewer nodes are left above.
  induction left : t.size - id.index using Nat.strong_induction_on generalizing id with
  | _ left ih =>
    cases up : t.parent (some id) with
    | none =>
      have nothing : t.ancestors (some id) = [] := by
        rw [← h.ancestorsWithin_eq (Nat.le_succ t.size), ancestorsWithin, up]
      rw [nothing]
      exact .top up
    | some p =>
      rw [h.ancestors_eq up]
      obtain ⟨n, found, link⟩ := Option.bind_eq_some_iff.mp up
      have above := h.parent found link
      exact .step up (ih (t.size - p.index) (by omega) p rfl)

theorem ancestry_iff (h : t.Climbing) {id : NodeId} {above : List NodeId} :
    t.Ancestry id above ↔ t.ancestors (some id) = above := by
  constructor
  · intro up
    have deep := Nat.le_max_left above.length t.size
    rw [← h.ancestorsWithin_eq (Nat.le_max_right above.length t.size), up.ancestorsWithin_eq deep]
  · rintro rfl
    exact h.ancestry id

theorem seeks_closest (h : t.Climbing) (r : Ref) (kinds : List Kind) :
    t.Seeks (fun p => kinds.any (t.hasKind (some p))) (t.parent r) (t.closest r kinds) := by
  cases r with
  | none =>
    have nothing : t.closest none kinds = none := by
      rw [closest, ← h.ancestorsWithin_eq (Nat.le_succ t.size)]
      rfl
    rw [nothing]
    exact .nowhere
  | some id => exact (h.ancestry id).seeks _

theorem seeks_topLevel (h : t.Climbing) (r : Ref) :
    t.Seeks (fun id => t.hasKind (t.parent (some id)) .program) r (t.topLevel r) := by
  cases r with
  | none => exact .nowhere
  | some id =>
    rw [topLevel]
    by_cases good : t.hasKind (t.parent (some id)) .program
    · simpa [good] using Seeks.here (t := t) good
    · simpa [good] using Seeks.further good ((h.ancestry id).seeks _)

theorem traversable (h : t.Climbing) : t.Traversable where
  walk := h.existsUnique_walks
  visits := h.walks_visits
  find := h.walks_find
  ancestors _ _ := h.ancestry_iff
  closest r kinds _ := (h.seeks_closest r kinds).eq_iff
  topLevel r _ := (h.seeks_topLevel r).eq_iff

end Climbing
end Tree
end TreeLint
