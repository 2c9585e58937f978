import Mathlib.Data.List.Nodup
import Mathlib.Data.List.Perm.Basic

/-!
# Stacks in which children lie above their parents

A stack is a list from top to bottom, and `rel x y` says that `x` is a child of `y`.  Bringing
the family of an element up takes one walk from the bottom: an element belongs to the family when
it is a child of the root, or of an element that was found before.

Results:
* `gather_reaches`: what the walk finds descends from the root;
* `gather_closed`, `Stacked.gather`: in a stack, it finds all of the family, and moving the
  family above the root leaves a stack;
* `filter_gather`: the others keep their order;
* `Stacked.above_of_reaches`: descendants lie above their ancestors.
-/

namespace Tiri.Stack

open List

variable {α β : Type*} {rel : α → α → Bool} {root : α} {l : List α}

/-- No element lies below a child of its own. -/
def Stacked (rel : α → α → Bool) (l : List α) : Prop :=
  l.Pairwise fun above below => rel below above = false

/-- `x` lies somewhere above `y`. -/
def Above (l : List α) (x y : α) : Prop := [x, y].Sublist l

/-- The family of the root among the elements below it, and the others, walking from the
bottom. -/
def gather (rel : α → α → Bool) (root : α) : List α → List α × List α
  | [] => ([], [])
  | x :: l =>
    if rel x root || (gather rel root l).1.any (rel x) then
      (x :: (gather rel root l).1, (gather rel root l).2)
    else ((gather rel root l).1, x :: (gather rel root l).2)

/-! ## What is gathered -/

theorem gather_cons (rel : α → α → Bool) (root x : α) (l : List α) : gather rel root (x :: l) =
    if rel x root || (gather rel root l).1.any (rel x) then
      (x :: (gather rel root l).1, (gather rel root l).2)
    else ((gather rel root l).1, x :: (gather rel root l).2) :=
  rfl

theorem gather_perm (rel : α → α → Bool) (root : α) (l : List α) :
    ((gather rel root l).1 ++ (gather rel root l).2).Perm l := by
  induction l with
  | nil => exact .refl _
  | cons x l ih =>
    rw [gather_cons]
    split_ifs
    · exact ih.cons x
    · exact perm_middle.trans (ih.cons x)

theorem gather_sublist (rel : α → α → Bool) (root : α) (l : List α) :
    (gather rel root l).1.Sublist l ∧ (gather rel root l).2.Sublist l := by
  induction l with
  | nil => exact ⟨.refl _, .refl _⟩
  | cons x l ih =>
    rw [gather_cons]
    split_ifs
    · exact ⟨ih.1.cons_cons x, ih.2.cons x⟩
    · exact ⟨ih.1.cons x, ih.2.cons_cons x⟩

theorem gather_others (rel : α → α → Bool) (root : α) (l : List α) :
    ∀ x ∈ (gather rel root l).2, rel x root = false := by
  induction l with
  | nil => nofun
  | cons x l ih =>
    rw [gather_cons]
    split_ifs with h
    · exact ih
    · refine forall_mem_cons.mpr ⟨?_, ih⟩
      simp only [Bool.or_eq_true, not_or] at h
      simpa using h.1

/-- In a stack, no child of the family is left behind. -/
theorem gather_closed (root : α) (h : Stacked rel l) :
    ∀ x ∈ (gather rel root l).2, ∀ y ∈ (gather rel root l).1, rel x y = false := by
  induction l with
  | nil => nofun
  | cons z l ih =>
    obtain ⟨hz, hl⟩ := pairwise_cons.mp h
    rw [gather_cons]
    split_ifs with hfamily
    · -- `z` lies on top: what is below it is no child of it
      intro x hx y hy
      rcases mem_cons.mp hy with rfl | hy
      · exact hz x ((gather_sublist rel root l).2.subset hx)
      · exact ih hl x hx y hy
    · intro x hx y hy
      rcases mem_cons.mp hx with rfl | hx
      · simp only [Bool.or_eq_true, not_or, any_eq_true, not_exists, not_and] at hfamily
        simpa using hfamily.2 y hy
      · exact ih hl x hx y hy

/-- What is gathered descends from the root. -/
theorem gather_reaches (rel : α → α → Bool) (root : α) (l : List α) :
    ∀ x ∈ (gather rel root l).1,
      Relation.TransGen (fun a b => rel a b = true ∧ a ∈ l ∧ (b = root ∨ b ∈ l)) x root := by
  induction l with
  | nil => nofun
  | cons z l ih =>
    have hstep : ∀ a b, (rel a b = true ∧ a ∈ l ∧ (b = root ∨ b ∈ l)) →
        rel a b = true ∧ a ∈ z :: l ∧ (b = root ∨ b ∈ z :: l) := fun a b hab =>
      ⟨hab.1, mem_cons_of_mem _ hab.2.1, hab.2.2.imp id (mem_cons_of_mem _)⟩
    have hlift : ∀ x ∈ (gather rel root l).1, Relation.TransGen
        (fun a b => rel a b = true ∧ a ∈ z :: l ∧ (b = root ∨ b ∈ z :: l)) x root :=
      fun x hx => Relation.TransGen.mono hstep _ _ (ih x hx)
    rw [gather_cons]
    split_ifs with hfamily
    · refine forall_mem_cons.mpr ⟨?_, hlift⟩
      rcases Bool.or_eq_true_iff.mp hfamily with hroot | hany
      · exact .single ⟨hroot, mem_cons_self, .inl rfl⟩
      · obtain ⟨y, hy, hzy⟩ := any_eq_true.mp hany
        have hmem := (gather_sublist rel root l).1.subset hy
        exact .head ⟨hzy, mem_cons_self, .inr (mem_cons_of_mem _ hmem)⟩ (hlift y hy)
    · exact hlift

/-! ## Moving the family -/

/-- The family above the root, everything else as it was. -/
theorem Stacked.gather {before : List α} (h : Stacked rel (before ++ l))
    (hbefore : ∀ x ∈ before, rel root x = false)
    (hroot : ∀ x ∈ (gather rel root l).1, rel root x = false) :
    Stacked rel (before ++ ((gather rel root l).1 ++ root :: (gather rel root l).2)) := by
  obtain ⟨hb, hl, hcross⟩ := pairwise_append.mp h
  obtain ⟨hfamily, hothers⟩ := gather_sublist rel root l
  have hclosed := gather_closed root hl
  have hleft := gather_others rel root l
  refine pairwise_append.mpr ⟨hb, ?_, ?_⟩
  · refine pairwise_append.mpr ⟨hl.sublist hfamily, ?_, ?_⟩
    · exact pairwise_cons.mpr ⟨hleft, hl.sublist hothers⟩
    · intro x hx y hy
      rcases mem_cons.mp hy with rfl | hy
      · exact hroot x hx
      · exact hclosed y hy x hx
  · intro x hx y hy
    simp only [mem_append, mem_cons] at hy
    rcases hy with hy | rfl | hy
    · exact hcross x hx y (hfamily.subset hy)
    · exact hbefore x hx
    · exact hcross x hx y (hothers.subset hy)

variable {q : α → Bool}

/-- The others keep their order. -/
theorem filter_gather (hq : ∀ x ∈ (gather rel root l).1, q x = false) :
    (gather rel root l).2.filter q = l.filter q := by
  induction l with
  | nil => rfl
  | cons z l ih =>
    rw [gather_cons] at hq ⊢
    split_ifs at hq ⊢
    · rw [ih fun x hx => hq x (mem_cons_of_mem _ hx),
        filter_cons_of_neg (by simp [hq z mem_cons_self])]
    · rw [filter_cons, filter_cons, ih hq]

/-! ## The order -/

theorem above_cons {x y z : α} : Above (z :: l) x y ↔ (x = z ∧ y ∈ l) ∨ Above l x y := by
  unfold Above
  constructor
  · intro h
    cases h with
    | cons _ h => exact .inr h
    | cons_cons _ h => exact .inl ⟨rfl, singleton_sublist.mp h⟩
  · rintro (⟨rfl, hy⟩ | h)
    · exact (singleton_sublist.mpr hy).cons_cons x
    · exact h.cons z

variable {x y : α}

theorem Above.mem (h : Above l x y) : x ∈ l ∧ y ∈ l :=
  ⟨h.subset (by simp), h.subset (by simp)⟩

theorem Above.trans (hnodup : l.Nodup) {x y z : α} (hxy : Above l x y) (hyz : Above l y z) :
    Above l x z := by
  induction l with
  | nil => cases hxy
  | cons a l ih =>
    obtain ⟨ha, hl⟩ := nodup_cons.mp hnodup
    rcases above_cons.mp hyz with ⟨rfl, hz⟩ | hyz'
    · rcases above_cons.mp hxy with ⟨rfl, hy⟩ | hxy'
      · exact absurd hy ha
      · exact absurd hxy'.mem.2 ha
    · rcases above_cons.mp hxy with ⟨rfl, -⟩ | hxy'
      · exact above_cons.mpr (.inl ⟨rfl, hyz'.mem.2⟩)
      · exact above_cons.mpr (.inr (ih hl hxy' hyz'))

/-- Of two elements, one lies above the other. -/
theorem above_total (hx : x ∈ l) (hy : y ∈ l) (hne : x ≠ y) : Above l x y ∨ Above l y x := by
  induction l with
  | nil => cases hx
  | cons a l ih =>
    rcases mem_cons.mp hx with rfl | hx'
    · exact .inl (above_cons.mpr (.inl ⟨rfl, (mem_cons.mp hy).resolve_left hne.symm⟩))
    · rcases mem_cons.mp hy with rfl | hy'
      · exact .inr (above_cons.mpr (.inl ⟨rfl, hx'⟩))
      · exact (ih hx' hy').imp (fun h => above_cons.mpr (.inr h))
          fun h => above_cons.mpr (.inr h)

/-- A child lies above its parent. -/
theorem Stacked.above (h : Stacked rel l) (hx : x ∈ l) (hy : y ∈ l) (hne : x ≠ y)
    (hrel : rel x y = true) : Above l x y := by
  refine (above_total hx hy hne).resolve_right fun hyx => ?_
  have hpair : List.Pairwise (fun above below => rel below above = false) [y, x] := h.sublist hyx
  have hfalse := (pairwise_cons.mp hpair).1 x mem_cons_self
  rw [hrel] at hfalse
  cases hfalse

/-- **Descendants lie above their ancestors.** -/
theorem Stacked.above_of_reaches (h : Stacked rel l) (hnodup : l.Nodup)
    (hirrefl : ∀ x, rel x x = false)
    (hreach : Relation.TransGen (fun a b => rel a b = true ∧ a ∈ l ∧ b ∈ l) x y) : Above l x y := by
  have hstep : ∀ a b, (rel a b = true ∧ a ∈ l ∧ b ∈ l) → Above l a b := by
    rintro a b ⟨hrel, ha, hb⟩
    refine h.above ha hb ?_ hrel
    rintro rfl
    rw [hirrefl] at hrel
    cases hrel
  induction hreach with
  | single hab => exact hstep _ _ hab
  | tail _ hbc ih => exact ih.trans hnodup (hstep _ _ hbc)

/-- An order is read off the elements that are kept. -/
theorem above_filter (hx : q x = true) (hy : q y = true) :
    Above (l.filter q) x y ↔ Above l x y := by
  constructor
  · exact fun h => List.Sublist.trans h filter_sublist
  · intro h
    have hfilter := h.filter q
    rwa [filter_cons_of_pos hx, filter_cons_of_pos hy, filter_nil] at hfilter

end Tiri.Stack
