import Mathlib.Data.List.Perm.Basic
import TreeLint.Proofs.Edit.Rewriting
import TreeLint.Proofs.Text.Part

/-! # Text put in before bytes

Some edits only put text in: what they replace, they replace with itself and the text put in at
some place.  Such edits of one file that keep apart come to the file with all of it put in
(`Edit.splice_eq_withInserted`). -/

namespace TreeLint

namespace Text

/-- A text with others put in before its bytes, which are counted from an offset on. -/
def withInserted (put : Nat → Text) : (offset : Nat) → Text → Text
  | _, [] => []
  | offset, b :: rest => put offset ++ b :: withInserted put (offset + 1) rest

variable {put put' : Nat → Text} {offset : Nat} {t u : Text}

theorem withInserted_append :
    withInserted put offset (t ++ u)
      = withInserted put offset t ++ withInserted put (offset + t.length) u := by
  induction t generalizing offset with
  | nil => rfl
  | cons b t ih => simp [withInserted, ih, Nat.add_assoc, Nat.add_comm 1]

theorem withInserted_congr (h : ∀ n, offset ≤ n → n < offset + t.length → put n = put' n) :
    withInserted put offset t = withInserted put' offset t := by
  induction t generalizing offset with
  | nil => rfl
  | cons b t ih =>
    rw [List.length_cons] at h
    rw [withInserted, withInserted, h offset (Nat.le_refl _) (by omega)]
    rw [ih fun n le lt => h n (by omega) (by omega)]

theorem withInserted_of_nil (h : ∀ n, offset ≤ n → n < offset + t.length → put n = []) :
    withInserted put offset t = t := by
  induction t generalizing offset with
  | nil => rfl
  | cons b t ih =>
    rw [List.length_cons] at h
    rw [withInserted, h offset (Nat.le_refl _) (by omega), List.nil_append,
      ih fun n le lt => h n (by omega) (by omega)]

/-- What stands first can be told apart from the rest. -/
theorem withInserted_first {w : Text} (some : t ≠ []) :
    withInserted (fun n => (if n = offset then w else []) ++ put n) offset t
      = w ++ withInserted put offset t := by
  obtain ⟨b, t, rfl⟩ := List.exists_cons_of_ne_nil some
  rw [withInserted, withInserted, if_pos rfl, List.append_assoc]
  congr 3
  refine withInserted_congr fun n le _ => ?_
  rw [if_neg (by omega), List.nil_append]

theorem head?_withInserted (nothing : put offset = []) :
    (withInserted put offset t).head? = t.head? := by
  cases t with
  | nil => rfl
  | cons b t => rw [withInserted, nothing]; rfl

/-- Two bytes of one kind stand there already if none is put in. -/
theorem twice_of_withInserted {b : UInt8} (nothing : put offset = [])
    (other : ∀ n, b ∉ (put n).head?) (h : [b, b] <+: withInserted put offset t) : [b, b] <+: t := by
  obtain ⟨r, begins⟩ := h
  rcases t with _ | ⟨c, t⟩
  · contradiction
  rw [withInserted, nothing] at begins
  obtain ⟨rfl, second⟩ : b = c ∧ b :: r = withInserted put (offset + 1) t := List.cons.inj begins
  rcases t with _ | ⟨d, t⟩
  · contradiction
  rw [withInserted] at second
  cases first : put (offset + 1) with
  | nil =>
    rw [first] at second
    obtain ⟨rfl, -⟩ : b = d ∧ r = _ := List.cons.inj second
    exact ⟨t, rfl⟩
  | cons e w =>
    rw [first] at second
    obtain ⟨rfl, -⟩ : b = e ∧ r = _ := List.cons.inj second
    exact absurd (by rw [first]; rfl) (other (offset + 1))

end Text

namespace Edit

/-- An edit that puts a text in before a byte; what else it replaces, it replaces with itself. -/
structure Put where
  edit : Edit
  point : Nat
  new : Text

namespace Put

/-- The edit does so in a text. -/
structure In (p : Put) (text : Text) : Prop where
  start_le : p.edit.span.start.toNat ≤ p.point
  le_stop : p.point ≤ p.edit.span.stop.toNat
  lt_length : p.point < text.length
  newText : p.edit.newText = text.slice p.edit.span.start.toNat p.point ++ p.new
    ++ text.slice p.point p.edit.span.stop.toNat

theorem in_insertBefore {text : Text} {s : Span} (lt : s.start.toNat < text.length) (new : Text) :
    In ⟨.insertBefore s new, s.start.toNat, new⟩ text where
  start_le := Nat.le_refl _
  le_stop := Nat.le_refl _
  lt_length := lt
  newText := by simp [insertBefore, Span.startPoint, Text.slice]

theorem in_replace {text left right : Text} {s : Span} {n : Nat} (start_le : s.start.toNat ≤ n)
    (le_stop : n ≤ s.stop.toNat) (lt_length : n < text.length)
    (before : text.slice s.start.toNat n = left) (after : text.slice n s.stop.toNat = right)
    (new : Text) : In ⟨.replace s (left ++ new ++ right), n, new⟩ text where
  start_le := start_le
  le_stop := le_stop
  lt_length := lt_length
  newText := by simp [replace, before, after]

/-- All that is put in before a byte. -/
def all (ps : List Put) (n : Nat) : Text := ps.flatMap fun p => if n = p.point then p.new else []

variable {ps : List Put} {n : Nat}

theorem all_of_notMem (h : ∀ p ∈ ps, n ≠ p.point) : all ps n = [] := by
  rw [all, List.flatMap_eq_nil_iff]
  exact fun p mem => if_neg (h p mem)

/-- Where no two edits have one place, each puts in what it says. -/
theorem all_of_mem (apart : ps.Pairwise fun p q => p.point ≠ q.point) {p : Put} (mem : p ∈ ps) :
    all ps p.point = p.new := by
  induction ps with
  | nil => contradiction
  | cons q ps ih =>
    rw [List.pairwise_cons] at apart
    rw [all, List.flatMap_cons, ← all]
    cases mem with
    | head => rw [if_pos rfl, all_of_notMem apart.1, List.append_nil]
    | tail _ mem => rw [if_neg (apart.1 p mem).symm, List.nil_append, ih apart.2 mem]

/-- The order does not matter where places differ. -/
theorem all_perm {qs : List Put} (perm : qs.Perm ps)
    (apart : ps.Pairwise fun p q => p.point ≠ q.point) :
    all qs = all ps := by
  have apart' := (perm.pairwise_iff fun h => Ne.symm h).mpr apart
  funext n
  by_cases found : ∃ p ∈ ps, p.point = n
  · obtain ⟨p, mem, rfl⟩ := found
    rw [all_of_mem apart mem, all_of_mem apart' (perm.mem_iff.mpr mem)]
  · have absent : ∀ p ∈ ps, n ≠ p.point := fun p mem same => found ⟨p, mem, same.symm⟩
    rw [all_of_notMem absent, all_of_notMem fun p mem => absent p (perm.mem_iff.mp mem)]

end Put

/-- Text can be put in anywhere beside other text that is put in. -/
theorem apart_insertBefore (a b : Span) {new new' : Text} :
    Apart (.insertBefore a new) (.insertBefore b new') := by
  simp [Apart, insertBefore, Span.startPoint, Span.overlaps, Span.isEmpty]

/-- An edit keeps apart from what begins where it stops or later, if it does not begin there too. -/
theorem apart_of_stop_le {a b : Edit} (le : a.span.stop ≤ b.span.start)
    (other : a.span.start ≠ b.span.start) : Apart a b := by
  have between {x : UInt32} (lower : b.span.start ≤ x) : (x < a.span.stop) = False :=
    eq_false fun less => UInt32.lt_irrefl _ (UInt32.lt_of_lt_of_le less (UInt32.le_trans le lower))
  have empty (same : a.span.start = a.span.stop) : (b.span.start ≤ a.span.start) = False :=
    eq_false fun lower => other (UInt32.le_antisymm (same ▸ le) lower)
  unfold Apart Span.overlaps
  split
  · rfl
  split
  · rfl
  split
  next here => simp [empty (by simpa [Span.isEmpty] using here)]
  split
  · simp [between (UInt32.le_refl _)]
  · simp [between (UInt32.le_refl _)]

open Text (drop_eq_slice_append length_slice)

variable {text : Text}

theorem weave_eq_withInserted {ps : List Put} (puts : ∀ p ∈ ps, p.In text)
    (fits : ∀ p ∈ ps, Fits text p.edit) (ordered : ps.Pairwise fun p q => Before p.edit q.edit)
    {done : Nat} (first : ∀ p ∈ ps, done ≤ p.edit.span.start.toNat) :
    weave text done (ps.map Put.edit) = Text.withInserted (Put.all ps) done (text.drop done) := by
  induction ps generalizing done with
  | nil => exact (Text.withInserted_of_nil fun _ _ _ => rfl).symm
  | cons p ps ih =>
    rw [List.pairwise_cons] at ordered
    obtain ⟨start_le, le_stop, lt_length, newText⟩ := puts p List.mem_cons_self
    have stop_le := (fits p List.mem_cons_self).stop_le_length
    have begins := first p List.mem_cons_self
    have later : ∀ q ∈ ps, p.edit.span.stop.toNat ≤ q.edit.span.start.toNat := fun q mem =>
      UInt32.le_iff_toNat_le.mp (ordered.1 q mem)
    have rest := ih (fun q mem => puts q (List.mem_cons_of_mem _ mem))
      (fun q mem => fits q (List.mem_cons_of_mem _ mem)) ordered.2 later
    have none {n : Nat} (lt : n < p.edit.span.stop.toNat) : Put.all ps n = [] := by
      refine Put.all_of_notMem fun q mem => ?_
      have at_start := (puts q (List.mem_cons_of_mem _ mem)).start_le
      have after := later q mem
      omega
    have other {n : Nat} (ne : n ≠ p.point) : Put.all (p :: ps) n = Put.all ps n := by
      rw [Put.all, List.flatMap_cons, if_neg ne, List.nil_append, Put.all]
    have before : Text.withInserted (Put.all (p :: ps)) done (text.slice done p.point)
        = text.slice done p.point := by
      refine Text.withInserted_of_nil fun n le lt => ?_
      rw [length_slice (by omega) (by omega)] at lt
      rw [other (by omega), none (by omega)]
    have between : Text.withInserted (Put.all ps) p.point (text.slice p.point p.edit.span.stop.toNat)
        = text.slice p.point p.edit.span.stop.toNat := by
      refine Text.withInserted_of_nil fun n le lt => none ?_
      rw [length_slice le_stop stop_le] at lt
      omega
    have some : text.drop p.point ≠ [] := by
      rw [Ne, List.drop_eq_nil_iff]
      omega
    have here : Text.withInserted (fun n => (if n = p.point then p.new else []) ++ Put.all ps n)
        p.point (text.drop p.point) = p.new ++ Text.withInserted (Put.all ps) p.point
          (text.drop p.point) :=
      Text.withInserted_first some
    have split : text.slice done p.point
        = text.slice done p.edit.span.start.toNat
          ++ text.slice p.edit.span.start.toNat p.point := by
      rw [← List.append_left_inj (text.drop p.point), ← drop_eq_slice_append (by omega),
        List.append_assoc, ← drop_eq_slice_append start_le, ← drop_eq_slice_append begins]
    have all : Put.all (p :: ps) = fun n => (if n = p.point then p.new else []) ++ Put.all ps n :=
      rfl
    rw [List.map_cons, weave, newText, rest, drop_eq_slice_append (show done ≤ p.point by omega),
      Text.withInserted_append, before, length_slice (by omega) (by omega),
      Nat.add_sub_cancel' (by omega), all, here, drop_eq_slice_append le_stop,
      Text.withInserted_append, between, length_slice le_stop stop_le, Nat.add_sub_cancel' le_stop,
      split]
    simp only [List.append_assoc]

/-- Edits of one file that keep apart put in what they say in one go. -/
theorem splice_eq_withInserted {file : FileId} {ps : List Put} (small : text.length < UInt32.size)
    (puts : ∀ p ∈ ps, p.In text) (fits : ∀ p ∈ ps, Fits text p.edit)
    (same : ∀ p ∈ ps, p.edit.span.file = file) (apart : (ps.map Put.edit).Pairwise Apart)
    (points : ps.Pairwise fun p q => p.point ≠ q.point) :
    splice text (ps.map Put.edit) = .ok (Text.withInserted (Put.all ps) 0 text) := by
  have fit : ∀ e ∈ ps.map Put.edit, Fits text e := List.forall_mem_map.mpr fits
  have one : ∀ e ∈ ps.map Put.edit, e.span.file = file := List.forall_mem_map.mpr same
  have alike : ∀ a ∈ ps.map Put.edit, ∀ b ∈ ps.map Put.edit, a.span.file = b.span.file :=
    fun a ha b hb => (one a ha).trans (one b hb).symm
  have compatible : Compatible (ps.map Put.edit) :=
    ⟨alike, fun e mem => (fit e mem).start_le_stop, apart⟩
  rw [splice_eq_rewritten small alike fit apart, rewritten]
  let qs := ps.mergeSort fun p q => startsFirst p.edit q.edit
  have perm : qs.Perm ps := List.mergeSort_perm _ _
  have sorted : qs.map Put.edit = inOrder (ps.map Put.edit) :=
    List.map_mergeSort fun _ _ _ _ => rfl
  have before := compatible.before
  rw [← sorted] at before ⊢
  rw [weave_eq_withInserted (fun p mem => puts p (perm.mem_iff.mp mem))
    (fun p mem => fits p (perm.mem_iff.mp mem)) (List.pairwise_map.mp before)
    (fun _ _ => Nat.zero_le _), List.drop_zero]
  rw [Put.all_perm perm points]

/-- What is listed in another order is what becomes of the items in another order. -/
theorem exists_of_perm_map {α β : Type} {g : α → β} {l : List β} {m : List α}
    (perm : l.Perm (m.map g)) : ∃ m' : List α, l = m'.map g ∧ m'.Perm m := by
  have listed : Relation.Comp (fun l m => l = List.map g m) List.Perm l m := by
    rw [List.eq_map_comp_perm]
    exact perm
  exact listed

/-- In whatever order the edits are given. -/
theorem splice_perm_withInserted {file : FileId} {ps : List Put} {edits : List Edit}
    (perm : edits.Perm (ps.map Put.edit)) (small : text.length < UInt32.size)
    (puts : ∀ p ∈ ps, p.In text) (fits : ∀ p ∈ ps, Fits text p.edit)
    (same : ∀ p ∈ ps, p.edit.span.file = file) (apart : (ps.map Put.edit).Pairwise Apart)
    (points : ps.Pairwise fun p q => p.point ≠ q.point) :
    splice text edits = .ok (Text.withInserted (Put.all ps) 0 text) := by
  obtain ⟨qs, rfl, perm'⟩ := exists_of_perm_map perm
  have points' := (perm'.pairwise_iff fun h => Ne.symm h).mpr points
  rw [splice_eq_withInserted small (fun p mem => puts p (perm'.mem_iff.mp mem))
    (fun p mem => fits p (perm'.mem_iff.mp mem)) (fun p mem => same p (perm'.mem_iff.mp mem))
    ((perm.pairwise_iff fun h => h.symm).mpr apart) points', Put.all_perm perm' points]

end Edit

end TreeLint
