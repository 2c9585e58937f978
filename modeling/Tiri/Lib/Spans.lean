import Mathlib.Data.List.Basic
import Mathlib.Order.MinMax
import Mathlib.Tactic.Order

/-!
# Sorted lists of spans

A set of points as a list of half-open spans `[start, end)`, none of them empty, in order and with
gaps between them.

Results:
* `separated_append_cons`: a span between those to its left and those to its right;
* `holds_merge`: two spans without a gap between them are one;
* `Separated.replace`: parts of a span in its place;
* `separated_cut`, `covers_cut`: what a part leaves of a span that it is cut out of.
-/

namespace Tiri.Spans

open List

variable {α : Type*} [LinearOrder α]

/-- Whether the span has the point. -/
def Holds (s : α × α) (x : α) : Prop := s.1 ≤ x ∧ x < s.2

/-- Whether one of the spans has the point. -/
def Covers (spans : List (α × α)) (x : α) : Prop := ∃ s ∈ spans, Holds s x

/-- No span is empty, and each ends before the next one starts. -/
structure Separated (spans : List (α × α)) : Prop where
  nonempty : ∀ s ∈ spans, s.1 < s.2
  apart : spans.Pairwise fun a b => a.2 < b.1

variable {l r spans : List (α × α)} {s t : α × α} {x x₁ x₂ : α}

theorem separated_nil : Separated ([] : List (α × α)) :=
  ⟨fun _ h => (not_mem_nil h).elim, List.Pairwise.nil⟩

@[simp] theorem covers_nil : ¬ Covers ([] : List (α × α)) x := by simp [Covers]

@[simp] theorem covers_cons : Covers (s :: spans) x ↔ Holds s x ∨ Covers spans x := by
  simp [Covers]

@[simp] theorem covers_append : Covers (l ++ r) x ↔ Covers l x ∨ Covers r x := by
  simp [Covers, or_and_right, exists_or]

theorem Separated.sublist (h : Separated spans) (hsub : l.Sublist spans) : Separated l where
  nonempty := fun s hs => h.nonempty s (hsub.subset hs)
  apart := h.apart.sublist hsub

/-- The spans around one of them. -/
theorem separated_append_cons :
    Separated (l ++ s :: r) ↔
      Separated (l ++ r) ∧ s.1 < s.2 ∧ (∀ a ∈ l, a.2 < s.1) ∧ ∀ b ∈ r, s.2 < b.1 := by
  constructor
  · intro h
    have hsub : (l ++ r).Sublist (l ++ s :: r) :=
      (List.Sublist.refl l).append (sublist_cons_self s r)
    obtain ⟨-, hr, hlr⟩ := pairwise_append.mp h.apart
    exact ⟨h.sublist hsub, h.nonempty s (by simp), fun a ha => hlr a ha s mem_cons_self,
      (pairwise_cons.mp hr).1⟩
  · rintro ⟨h, hs, hl, hr⟩
    obtain ⟨hl', hr', hlr⟩ := pairwise_append.mp h.apart
    refine ⟨fun a ha => ?_, pairwise_append.mpr ⟨hl', pairwise_cons.mpr ⟨hr, hr'⟩, ?_⟩⟩
    · rcases mem_append.mp ha with ha | ha
      · exact h.nonempty a (mem_append_left r ha)
      · rcases mem_cons.mp ha with rfl | ha
        · exact hs
        · exact h.nonempty a (mem_append_right l ha)
    · intro a ha b hb
      rcases mem_cons.mp hb with rfl | hb
      · exact hl a ha
      · exact hlr a ha b hb

/-- Two spans without a gap between them are one. -/
theorem holds_merge (h₁ : x₁ ≤ s.2) (h₂ : s.1 ≤ x₂) :
    Holds (min x₁ s.1, max x₂ s.2) x ↔ Holds s x ∨ Holds (x₁, x₂) x := by
  simp only [Holds, min_le_iff, lt_max_iff]
  constructor
  · rintro ⟨hl | hl, hr | hr⟩
    · exact .inr ⟨hl, hr⟩
    · rcases lt_or_ge x x₂ with hlt | hge
      · exact .inr ⟨hl, hlt⟩
      · exact .inl ⟨h₂.trans hge, hr⟩
    · rcases lt_or_ge x s.2 with hlt | hge
      · exact .inl ⟨hl, hlt⟩
      · exact .inr ⟨h₁.trans hge, hr⟩
    · exact .inl ⟨hl, hr⟩
  · rintro (⟨hl, hr⟩ | ⟨hl, hr⟩)
    · exact ⟨.inr hl, .inr hr⟩
    · exact ⟨.inl hl, .inl hr⟩

/-- Parts of a span in its place. -/
theorem Separated.replace (h : Separated (l ++ s :: r)) {parts : List (α × α)}
    (hparts : Separated parts) (hin : ∀ t ∈ parts, s.1 ≤ t.1 ∧ t.2 ≤ s.2) :
    Separated (l ++ (parts ++ r)) := by
  obtain ⟨hlr, -, hl, hr⟩ := separated_append_cons.mp h
  obtain ⟨hl', hr', hlr'⟩ := pairwise_append.mp hlr.apart
  constructor
  · intro t ht
    rcases mem_append.mp ht with ht | ht
    · exact hlr.nonempty t (mem_append_left r ht)
    · rcases mem_append.mp ht with ht | ht
      · exact hparts.nonempty t ht
      · exact hlr.nonempty t (mem_append_right l ht)
  · refine pairwise_append.mpr ⟨hl', pairwise_append.mpr ⟨hparts.apart, hr', ?_⟩, ?_⟩
    · intro t ht b hb
      exact (hin t ht).2.trans_lt (hr b hb)
    · intro a ha t ht
      rcases mem_append.mp ht with ht | ht
      · exact (hl a ha).trans_le (hin t ht).1
      · exact hlr' a ha t ht

/-- What is left of a span when `[x₁, x₂)` is cut out of it. -/
def cut (x₁ x₂ : α) (s : α × α) : List (α × α) :=
  (if s.1 < x₁ then [(s.1, x₁)] else []) ++ if x₂ < s.2 then [(x₂, s.2)] else []

theorem mem_cut : t ∈ cut x₁ x₂ s ↔ s.1 < x₁ ∧ t = (s.1, x₁) ∨ x₂ < s.2 ∧ t = (x₂, s.2) := by
  unfold cut
  split_ifs <;> simp_all

theorem separated_cut (hx : x₁ < x₂) : Separated (cut x₁ x₂ s) := by
  constructor
  · intro t ht
    rcases mem_cut.mp ht with ⟨hlt, rfl⟩ | ⟨hlt, rfl⟩
    · exact hlt
    · exact hlt
  · unfold cut
    split_ifs <;> simp [hx]

theorem covers_cut (h₁ : x₁ < s.2) (h₂ : s.1 < x₂) :
    Covers (cut x₁ x₂ s) x ↔ Holds s x ∧ ¬ Holds (x₁, x₂) x := by
  have hcut : Covers (cut x₁ x₂ s) x ↔ s.1 ≤ x ∧ x < x₁ ∨ x₂ ≤ x ∧ x < s.2 := by
    constructor
    · rintro ⟨t, ht, hl, hr⟩
      rcases mem_cut.mp ht with ⟨-, rfl⟩ | ⟨-, rfl⟩
      · exact .inl ⟨hl, hr⟩
      · exact .inr ⟨hl, hr⟩
    · rintro (⟨hl, hr⟩ | ⟨hl, hr⟩)
      · exact ⟨_, mem_cut.mpr (.inl ⟨hl.trans_lt hr, rfl⟩), hl, hr⟩
      · exact ⟨_, mem_cut.mpr (.inr ⟨hl.trans_lt hr, rfl⟩), hl, hr⟩
  rw [hcut]
  simp only [Holds, not_and_or, not_le, not_lt]
  constructor
  · rintro (⟨hl, hr⟩ | ⟨hl, hr⟩)
    · exact ⟨⟨hl, hr.trans h₁⟩, .inl hr⟩
    · exact ⟨⟨h₂.le.trans hl, hr⟩, .inr hl⟩
  · rintro ⟨⟨hl, hr⟩, hx | hx⟩
    · exact .inl ⟨hl, hx⟩
    · exact .inr ⟨hx, hr⟩

end Tiri.Spans
