import Mathlib.Data.List.Sort
import TreeLint.Diagnostic.Basic

/-! # Orders and stable sorting

Texts are ordered bytewise and diagnostics by place, severity and code.  Neither order of
diagnostics tells any two apart: those that tie keep the order they came in.  So a sorted
list is more than its elements, but not by much.  It is determined by what it holds of each
class of ties (`sorted_ext`), and sorting changes nothing within a class
(`filter_ties_mergeSort`).

One consequence carries over to a list of diagnostics that several sources have been
interleaved into: picking from it and sorting it commute (`filter_mergeSort`).

Sorted texts without repetitions are in strictly increasing order (`Text.pairwise_less_sorted`),
and then a list is nothing but its elements (`Text.eq_of_pairwise_less`).
-/

namespace TreeLint

/-! ## Stable sorting -/

section Sorting

variable {α : Type} {le : α → α → Bool}

/-- Whether a list may hold two elements in either order. -/
def ties (le : α → α → Bool) (a b : α) : Bool := le a b && le b a

/-- Sorted lists that agree on each class of ties are equal. -/
theorem sorted_ext (total : ∀ a b, le a b || le b a) {l m : List α}
    (hl : l.Pairwise fun a b => le a b) (hm : m.Pairwise fun a b => le a b)
    (same : ∀ a, l.filter (ties le a) = m.filter (ties le a)) : l = m := by
  have refl : ∀ a, ties le a a = true := by
    intro a
    simpa [ties] using total a a
  induction l generalizing m with
  | nil =>
    cases m with
    | nil => rfl
    | cons b m =>
      have := same b
      simp [refl] at this
  | cons a l ih =>
    cases m with
    | nil =>
      have := same a
      simp [refl] at this
    | cons b m =>
      -- Each head is in the other list, where it does not come before the head, so they tie.
      have inLeft : b ∈ a :: l := by
        have mem : b ∈ (b :: m).filter (ties le b) := by simp [refl]
        rw [← same b] at mem
        exact (List.mem_filter.mp mem).1
      have inRight : a ∈ b :: m := by
        have mem : a ∈ (a :: l).filter (ties le a) := by simp [refl]
        rw [same a] at mem
        exact (List.mem_filter.mp mem).1
      have ab : le a b := by
        rcases List.mem_cons.mp inLeft with rfl | mem
        · simpa using total b b
        · exact (List.pairwise_cons.mp hl).1 b mem
      have ba : le b a := by
        rcases List.mem_cons.mp inRight with rfl | mem
        · simpa using total a a
        · exact (List.pairwise_cons.mp hm).1 a mem
      have heads := same a
      rw [List.filter_cons_of_pos (refl a), List.filter_cons_of_pos (by simp [ties, ab, ba])]
        at heads
      obtain ⟨rfl, -⟩ := List.cons.inj heads
      congr 1
      refine ih hl.tail hm.tail fun c => ?_
      have tails := same c
      simp only [List.filter_cons] at tails
      split at tails
      · exact (List.cons.inj tails).2
      · exact tails

variable (trans : ∀ a b c, le a b → le b c → le a c) (total : ∀ a b, le a b || le b a)

include trans total

/-- Sorting keeps elements that tie as they are. -/
theorem filter_ties_mergeSort (l : List α) (a : α) :
    (l.mergeSort le).filter (ties le a) = l.filter (ties le a) := by
  have tied : (l.filter (ties le a)).Pairwise fun b c => le b c := by
    refine List.pairwise_of_forall_mem_list fun b hb c hc => ?_
    have ab := (List.mem_filter.mp hb).2
    have ac := (List.mem_filter.mp hc).2
    simp only [ties, Bool.and_eq_true] at ab ac
    exact trans b a c ab.2 ac.1
  have kept := (List.sublist_mergeSort trans total tied List.filter_sublist).filter (ties le a)
  simp only [List.filter_filter, Bool.and_self] at kept
  exact (kept.eq_of_length ((List.mergeSort_perm l le).filter _).length_eq.symm).symm

/-- What is picked from a sorted list is what sorting gives of what is picked. -/
theorem filter_mergeSort (p : α → Bool) (l : List α) :
    (l.mergeSort le).filter p = (l.filter p).mergeSort le := by
  apply sorted_ext total
  · exact (List.pairwise_mergeSort trans total l).filter p
  · exact List.pairwise_mergeSort trans total (l.filter p)
  · intro a
    have swap : ∀ m : List α,
        (m.filter p).filter (ties le a) = (m.filter (ties le a)).filter p := by
      intro m
      rw [List.filter_filter, List.filter_filter]
      simp only [Bool.and_comm]
    rw [swap, filter_ties_mergeSort trans total, ← swap, filter_ties_mergeSort trans total]

end Sorting

/-! ## Distinct elements -/

section Distinct
variable {α : Type} [BEq α] [LawfulBEq α] {r : α → α → Prop}

/-- Leaving out what came before keeps the order of what stays. -/
theorem pairwise_eraseDups : {l : List α} → l.Pairwise r →
    l.eraseDups.Pairwise fun a b => r a b ∧ a ≠ b
  | [], _ => by simp
  | a :: l, h => by
    rw [List.pairwise_cons] at h
    rw [List.eraseDups_cons, List.pairwise_cons]
    refine ⟨fun b mem => ?_, pairwise_eraseDups (h.2.filter _)⟩
    rw [List.mem_eraseDups, List.mem_filter] at mem
    exact ⟨h.1 b mem.1, fun same => by simp [same] at mem⟩
termination_by l => l.length
decreasing_by
  have := List.length_filter_le (fun b => !b == a) l
  simp only [List.length_cons]
  omega

end Distinct

/-! ## Texts -/

namespace Text

theorem less_iff {s t : Text} : less s t = true ↔ s < t := by
  induction s generalizing t with
  | nil => cases t <;> simp [less]
  | cons a s ih =>
    cases t with
    | nil => simp [less]
    | cons b t => simp [less, ih, List.cons_lt_cons_iff]

theorem atMost_iff {s t : Text} : atMost s t = true ↔ s ≤ t := by
  rw [← List.not_lt, ← less_iff, atMost, Bool.not_eq_true', Bool.not_eq_true]

theorem atMost_trans {s t u : Text} (h : atMost s t) (h' : atMost t u) : atMost s u := by
  rw [atMost_iff] at *
  exact List.le_trans h h'

theorem atMost_total (s t : Text) : atMost s t ∨ atMost t s := by
  simp only [atMost_iff]
  exact List.le_total s t

theorem atMost_antisymm {s t : Text} (h : atMost s t) (h' : atMost t s) : s = t := by
  rw [atMost_iff] at *
  exact List.le_antisymm h h'

/-- Texts that tie are equal, so the order they came in is lost by sorting. -/
theorem sorted_eq_of_perm {l m : List Text} (h : l.Perm m) : sorted l = sorted m := by
  have total : ∀ s t, (atMost s t || atMost t s) = true := by
    intro s t
    rw [Bool.or_eq_true]
    exact atMost_total s t
  have inOrder : ∀ l, (sorted l).Pairwise fun s t => atMost s t := fun l =>
    List.pairwise_mergeSort (fun s t u => @atMost_trans s t u) total l
  have perm : (sorted l).Perm (sorted m) :=
    ((List.mergeSort_perm l _).trans h).trans (List.mergeSort_perm m _).symm
  exact perm.eq_of_pairwise (fun _ _ _ _ => atMost_antisymm) (inOrder l) (inOrder m)

/-- Sorting texts and dropping repetitions puts them in strictly increasing order. -/
theorem pairwise_less_sorted (l : List Text) :
    (sorted l).eraseDups.Pairwise fun s t => less s t := by
  have inOrder : (sorted l).Pairwise fun s t => atMost s t :=
    List.pairwise_mergeSort (fun s t u => @atMost_trans s t u)
      (fun s t => by simpa using atMost_total s t) l
  refine (pairwise_eraseDups inOrder).imp fun ⟨le, ne⟩ => ?_
  rw [less_iff, ← List.not_le]
  exact fun ge => ne (atMost_antisymm le (atMost_iff.mpr ge))

theorem mem_sorted_eraseDups {l : List Text} {t : Text} : t ∈ (sorted l).eraseDups ↔ t ∈ l := by
  rw [List.mem_eraseDups, sorted, List.mem_mergeSort]

/-- Texts in strictly increasing order are told by which they are. -/
theorem eq_of_pairwise_less {l m : List Text} (hl : l.Pairwise fun s t => less s t)
    (hm : m.Pairwise fun s t => less s t) (same : ∀ t, t ∈ l ↔ t ∈ m) : l = m := by
  simp only [less_iff] at hl hm
  exact List.Pairwise.eq_of_mem_iff hl hm same

end Text

/-! ## Diagnostics -/

namespace Diagnostic

theorem atMost_trans (a b c : Diagnostic) (h : a.atMost b) (h' : b.atMost c) : a.atMost c := by
  have code := @Text.atMost_trans a.code b.code c.code
  simp only [atMost] at *
  grind

theorem atMost_total (a b : Diagnostic) : a.atMost b || b.atMost a := by
  have code := Text.atMost_total a.code b.code
  simp only [atMost]
  grind

/-- Diagnostics that tie have one code. -/
theorem code_eq_of_ties {a b : Diagnostic} (h : ties atMost a b) : a.code = b.code := by
  have code := @Text.atMost_antisymm a.code b.code
  simp only [ties, atMost, Bool.and_eq_true] at h
  grind

end Diagnostic
end TreeLint
