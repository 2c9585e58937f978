import Mathlib.Data.List.Dedup
import Mathlib.Data.List.Sort

/-!
# Sorting by a comparison

What `slice::sort_by` and `slice::sort_unstable_by` leave of a list.  The first is stable, and the
second may leave elements that compare as equal in any order.

Results:
* `sortOf_sortBy`: a stable sort sorts;
* `SortOf.unique`: where the comparison tells the elements apart, there is one sorted list, whatever
  the order they came in;
* `pairwise_sortedSet`: a sorted set has each element once, in order.
-/

namespace Tiri

open List

variable {α : Type*} {cmp : α → α → Ordering} {l l' s s' : List α}

/-- The list holds the same elements, none of them after a greater one. -/
structure SortOf (cmp : α → α → Ordering) (l s : List α) : Prop where
  perm : s.Perm l
  sorted : s.Pairwise fun a b => (cmp a b).isLE

/-- `slice::sort_by`. -/
def sortBy (cmp : α → α → Ordering) (l : List α) : List α :=
  l.insertionSort fun a b => (cmp a b).isLE = true

theorem perm_sortBy (cmp : α → α → Ordering) (l : List α) : (sortBy cmp l).Perm l :=
  perm_insertionSort _ l

theorem sortOf_sortBy [Std.TransCmp cmp] (l : List α) : SortOf cmp l (sortBy cmp l) where
  perm := perm_sortBy cmp l
  sorted := by
    have htotal : Std.Total fun a b => (cmp a b).isLE = true := ⟨fun a b => by
      rw [← Std.OrientedCmp.isGE_iff_isLE (a := a) (b := b)]
      cases cmp a b <;> simp⟩
    have htrans : IsTrans α fun a b => (cmp a b).isLE = true :=
      ⟨fun _ _ _ => Std.TransCmp.isLE_trans⟩
    exact pairwise_insertionSort _ l

/-- Where the comparison tells the elements apart, there is one sorted list. -/
theorem SortOf.unique [Std.OrientedCmp cmp] (h : SortOf cmp l s) (h' : SortOf cmp l' s')
    (hperm : l.Perm l') (hapart : ∀ a ∈ l, ∀ b ∈ l, cmp a b = .eq → a = b) : s = s' := by
  have hss' : s.Perm s' := (h.perm.trans hperm).trans h'.perm.symm
  refine List.Perm.eq_of_pairwise (fun a b ha hb hab hba => ?_) h.sorted h'.sorted hss'
  have hal : a ∈ l := h.perm.mem_iff.mp ha
  have hbl : b ∈ l := hperm.mem_iff.mpr (h'.perm.mem_iff.mp hb)
  exact hapart a hal b hbl (Std.OrientedCmp.isLE_antisymm hab hba)

/-! ## Sorted sets -/

/-- `BTreeSet::from_iter`, as the list that iterating over the set goes through. -/
def sortedSet [LinearOrder α] (l : List α) : List α := l.dedup.insertionSort (· ≤ ·)

@[simp] theorem mem_sortedSet [LinearOrder α] {a : α} : a ∈ sortedSet l ↔ a ∈ l := by
  rw [sortedSet, (perm_insertionSort _ _).mem_iff, mem_dedup]

theorem pairwise_sortedSet [LinearOrder α] (l : List α) : (sortedSet l).Pairwise (· < ·) := by
  have hle : (sortedSet l).Pairwise (· ≤ ·) := pairwise_insertionSort _ _
  have hne : (sortedSet l).Nodup := (perm_insertionSort _ _).nodup_iff.mpr l.nodup_dedup
  exact hle.imp₂ (fun _ _ hle hne => lt_of_le_of_ne hle hne) hne

end Tiri
