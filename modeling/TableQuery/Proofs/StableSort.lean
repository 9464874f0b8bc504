/-
# Stable sorting

A list is a stable sort of another if it holds the same elements, in order, and keeps each class of
equal elements as it was. By a comparison that is a total preorder every list has exactly one:
merge sort gives one (`isStableSort_mergeSort`), and there is no other (`IsStableSort.unique`). So
sorting again changes nothing, sorting backwards twice comes back to where it began, and elements
can be left out before or after.
-/

import Mathlib.Data.List.Basic

namespace TableQuery

variable {α β : Type}

/-- The elements of `l` in order, equal ones in the order they had. -/
structure IsStableSort (cmp : α → α → Ordering) (l sorted : List α) : Prop where
  perm : sorted.Perm l
  ordered : sorted.Pairwise fun a b => cmp a b ≠ .gt
  /-- Each class of equal elements is as it was. -/
  stable : ∀ a, sorted.filter (cmp a · == .eq) = l.filter (cmp a · == .eq)

variable {cmp : α → α → Ordering} [Std.TransCmp cmp]

/-- Equal elements are equal to the same ones. -/
theorem ordered_filter_eq (l : List α) (a : α) :
    (l.filter (cmp a · == .eq)).Pairwise fun b c => (cmp b c).isLE = true := by
  apply List.pairwise_of_forall_mem_list
  intro b hb c hc
  rw [List.mem_filter, beq_iff_eq] at hb hc
  rw [Std.TransCmp.congr_left (Std.OrientedCmp.eq_symm hb.2), hc.2]
  rfl

/-- **Merge sort is a stable sort.** A class of equal elements is in order, so sorting keeps it. -/
theorem isStableSort_mergeSort (l : List α) :
    IsStableSort cmp l (l.mergeSort fun a b => (cmp a b).isLE) := by
  have htrans : ∀ a b c, (cmp a b).isLE = true → (cmp b c).isLE = true → (cmp a c).isLE = true :=
    fun a b c => Std.TransCmp.isLE_trans
  have htotal : ∀ a b, ((cmp a b).isLE || (cmp b a).isLE) = true := by
    intro a b
    have hswap : cmp b a = (cmp a b).swap := Std.OrientedCmp.eq_swap
    rw [hswap]
    cases cmp a b <;> rfl
  have hperm := List.mergeSort_perm l fun a b => (cmp a b).isLE
  refine ⟨hperm, ?_, fun a => ?_⟩
  · exact (List.pairwise_mergeSort htrans htotal l).imp Ordering.isLE_iff_ne_gt.1
  · have hsub := List.sublist_mergeSort htrans htotal (ordered_filter_eq l a)
      (List.filter_sublist (l := l))
    have hclass := hsub.filter (cmp a · == .eq)
    rw [List.filter_filter] at hclass
    simp only [Bool.and_self] at hclass
    exact (hclass.eq_of_length (hperm.filter _).length_eq.symm).symm

/-- The first of two lists of the same elements in order is equal to the first of the other. -/
theorem compare_heads {a b : α} {r r' : List α} (hperm : (a :: r).Perm (b :: r'))
    (ha : (a :: r).Pairwise fun x y => cmp x y ≠ .gt)
    (hb : (b :: r').Pairwise fun x y => cmp x y ≠ .gt) : cmp a b = .eq := by
  have hle : ∀ {x y : α} {l : List α}, (x :: l).Pairwise (fun x y => cmp x y ≠ .gt) → y ∈ x :: l →
      (cmp x y).isLE = true := by
    intro x y l hl hy
    rcases List.mem_cons.1 hy with rfl | hy
    · have hrefl : cmp y y = .eq := Std.ReflCmp.compare_self
      rw [hrefl]
      rfl
    · exact Ordering.isLE_iff_ne_gt.2 (List.rel_of_pairwise_cons hl hy)
  exact Std.OrientedCmp.isLE_antisymm (hle ha (hperm.mem_iff.2 (List.mem_cons_self ..)))
    (hle hb (hperm.mem_iff.1 (List.mem_cons_self ..)))

/-- **A stable sort is determined** by the list and the comparison. The smallest elements of two
stable sorts are equal, so they are the first of one class, and that is in one order in both. -/
theorem IsStableSort.unique {l s s' : List α} (h : IsStableSort cmp l s)
    (h' : IsStableSort cmp l s') : s = s' := by
  have hperm := h.perm.trans h'.perm.symm
  have hclass := fun a => (h.stable a).trans (h'.stable a).symm
  have hs := h.ordered
  have hs' := h'.ordered
  -- `l` is not a stable sort of the tails, so the induction is on what it says of `s` and `s'`.
  clear h h'
  induction s generalizing s' with
  | nil => exact hperm.symm.eq_nil.symm
  | cons a r ih =>
    cases s' with
    | nil => exact hperm.eq_nil
    | cons b r' =>
      have hab := compare_heads hperm hs hs'
      have hrefl : cmp a a = .eq := Std.ReflCmp.compare_self
      have hheads := hclass a
      rw [List.filter_cons_of_pos (by simp [hrefl]), List.filter_cons_of_pos (by simp [hab])]
        at hheads
      obtain rfl : a = b := (List.cons.inj hheads).1
      congr 1
      refine ih hperm.cons_inv (fun c => ?_) hs.of_cons hs'.of_cons
      have hc := hclass c
      rw [List.filter_cons, List.filter_cons] at hc
      split at hc
      · exact (List.cons.inj hc).2
      · exact hc

omit [Std.TransCmp cmp] in
/-- **Leaving elements out before sorting leaves them out of the sorted list.** -/
theorem IsStableSort.filter {l s : List α} (h : IsStableSort cmp l s) (p : α → Bool) :
    IsStableSort cmp (l.filter p) (s.filter p) where
  perm := h.perm.filter p
  ordered := h.ordered.filter p
  stable a := by rw [List.filter_comm, h.stable a, List.filter_comm]

/-- **What relates each element to those behind it relates equal ones after sorting.** Two equal
elements are of one class, and that is a part of both lists. -/
theorem IsStableSort.pairwise {r : α → α → Prop} {l s : List α} (h : IsStableSort cmp l s)
    (hl : l.Pairwise r) : s.Pairwise fun a b => cmp a b ≠ .gt ∧ (cmp a b = .eq → r a b) := by
  rw [List.pairwise_iff_forall_sublist]
  intro a b hab
  refine ⟨List.pairwise_iff_forall_sublist.1 h.ordered hab, fun heq => ?_⟩
  have hrefl : cmp a a = .eq := Std.ReflCmp.compare_self
  have hclass := hab.filter (cmp a · == .eq)
  rw [h.stable, List.filter_cons_of_pos (by simp [hrefl]), List.filter_cons_of_pos (by simp [heq]),
    List.filter_nil] at hclass
  exact List.pairwise_iff_forall_sublist.1 hl (hclass.trans List.filter_sublist)

/-- **Sorting what is in order changes nothing.** -/
theorem IsStableSort.eq_of_ordered {l s : List α} (h : IsStableSort cmp l s)
    (hl : l.Pairwise fun a b => cmp a b ≠ .gt) : s = l :=
  h.unique ⟨List.Perm.refl l, hl, fun _ => rfl⟩

omit [Std.TransCmp cmp] in
/-- **Sorting backwards undoes itself.** Both ways turn the classes of equal elements round, so if
`s` is `l` sorted and read backwards, and `l` is in order backwards, then `l` is so made of `s`. -/
theorem IsStableSort.symm_of_ordered_reverse {l s : List α} (h : IsStableSort cmp l s.reverse)
    (hl : l.reverse.Pairwise fun a b => cmp a b ≠ .gt) : IsStableSort cmp s l.reverse where
  perm := l.reverse_perm.trans (h.perm.symm.trans s.reverse_perm)
  ordered := hl
  stable a := by rw [List.filter_reverse, ← h.stable a, List.filter_reverse, List.reverse_reverse]

end TableQuery
