import Tiri.Lib.Sort
import Tiri.Lib.Spans
import Tiri.Lib.Vec
import Tiri.Utils.Geometry

/-!
# Regions as rectangles that do not overlap

`region_to_non_overlapping_rects` (`utils/region.rs`, lines 94–195) turns the list of rectangles
that a client adds to its region and subtracts from it into rectangles that do not overlap.  It goes
down through the bands between the edges of the rectangles, and keeps the spans of each band.

Additions are a parameter: `addExact` is that of the integers, and `addI32` fails where the
addition of 32-bit integers overflows, which aborts the program (`overflow-checks` is on in the
release profile).

Results:
* `addSpan_spec`, `subtractSpan_spec`: what one rectangle does to the spans of a band;
* `bandSpans_exact`, `bands_exact`: what comes out of a band, and of those below an edge;
* `regionToNonOverlappingRects_exact`: the rectangles that come out are not empty, do not overlap
  and have the points of the region;
* `regionToNonOverlappingRects_returns`: when the additions of 32-bit integers do not overflow;
* `far_overflows`: they can.
-/

namespace Tiri.Utils.Region

open List
open Option hiding or_assoc

/-! ## The region and the sweep over it -/

inductive RectangleKind
  | add
  | subtract

/-- `Rectangle<i32, Logical>`: `Size` asserts that it is not negative. -/
structure Rect extends Rectangle ℤ where
  w_nonneg : 0 ≤ size.w
  h_nonneg : 0 ≤ size.h

/-- `RegionAttributes::rects`. -/
abbrev RegionAttributes := List (RectangleKind × Rect)

/-- `i32` addition over the integers. -/
def addExact (a b : ℤ) : Option ℤ := some (a + b)

/-- `i32` addition, `none` where it overflows. -/
def addI32 (a b : ℤ) : Option ℤ :=
  if -2 ^ 31 ≤ a + b ∧ a + b < 2 ^ 31 then some (a + b) else none

/-- Smithay's `Rectangle::from_extremities`, over the integers: the size of rectangles that are wider
than an `i32` is not told here. -/
def fromExtremities (topleft bottomright : Point ℤ) : Rectangle ℤ :=
  ⟨topleft, ⟨bottomright.x - topleft.x, bottomright.y - topleft.y⟩⟩

/-- The loop over the spans for a rectangle that is added; the next span to look at is `i - 1`. -/
def addSpan (x1 x2 : ℤ) : (i : ℕ) → (spans : List (ℤ × ℤ)) → List (ℤ × ℤ)
  | 0, spans => spans.insertIdx 0 (x1, x2)
  | i + 1, spans =>
    match spans[i]? with
    | none => spans
    | some (start, «end») =>
      -- New span is to the right.
      if «end» < x1 then spans.insertIdx (i + 1) (x1, x2)
      -- New span is to the left.
      else if x2 < start then addSpan x1 x2 i spans
      -- New span overlaps this span; merge them.
      else addSpan (min x1 start) (max x2 «end») i (spans.eraseIdx i)

/-- What is left of a span when `[x1, x2)` is subtracted, put in at `i`. -/
def insertRest (x1 x2 start «end» : ℤ) (i : ℕ) (spans : List (ℤ × ℤ)) : List (ℤ × ℤ) :=
  let spans := if x2 < «end» then spans.insertIdx i (x2, «end») else spans
  if start < x1 then spans.insertIdx i (start, x1) else spans

/-- The loop over the spans for a rectangle that is subtracted. -/
def subtractSpan (x1 x2 : ℤ) : (i : ℕ) → (spans : List (ℤ × ℤ)) → List (ℤ × ℤ)
  | 0, spans => spans
  | i + 1, spans =>
    match spans[i]? with
    | none => spans
    | some (start, «end») =>
      -- Subtract span is to the right.
      if «end» ≤ x1 then spans
      -- Subtract span is to the left.
      else if x2 ≤ start then subtractSpan x1 x2 i spans
      -- Subtract span overlaps this span.
      else subtractSpan x1 x2 i (insertRest x1 x2 start «end» i (spans.eraseIdx i))

variable (add : ℤ → ℤ → Option ℤ)

/-- One rectangle of the region in the Y band from `lo` to `hi`. -/
def sweepRect (lo hi : ℤ) (spans : List (ℤ × ℤ)) (rect : RectangleKind × Rect) :
    Option (List (ℤ × ℤ)) := do
  let (kind, r) := rect
  -- Skip rects that don't overlap with the Y band.
  if hi ≤ r.loc.y then return spans
  if (← add r.loc.y r.size.h) ≤ lo then return spans
  let x1 := r.loc.x
  let x2 ← add r.loc.x r.size.w
  -- Empty rect.
  if x1 = x2 then return spans
  match kind with
  | .add => return addSpan x1 x2 spans.length spans
  | .subtract => return subtractSpan x1 x2 spans.length spans

/-- The spans of a Y band. -/
def bandSpans (region : RegionAttributes) (lo hi : ℤ) : Option (List (ℤ × ℤ)) :=
  region.foldlM (sweepRect add lo hi) []

/-- The loop over the Y bands. -/
def bands (add : ℤ → ℤ → Option ℤ) (region : RegionAttributes) :
    (lo : ℤ) → (ys : List ℤ) → Option (List (Rectangle ℤ))
  | _, [] => some []
  | lo, hi :: ys => do
    let spans ← bandSpans add region lo hi
    let output ← bands add region hi ys
    return spans.map (fun (x1, x2) => fromExtremities ⟨x1, lo⟩ ⟨x2, hi⟩) ++ output

/-- The Y coordinates of the edges of a rectangle. -/
def edges (rect : RectangleKind × Rect) : Option (List ℤ) := do
  return [rect.2.loc.y, ← add rect.2.loc.y rect.2.size.h]

def regionToNonOverlappingRects (region : RegionAttributes) : Option (List (Rectangle ℤ)) := do
  -- Collect all unique Y coordinates.
  let ys ← region.mapM (edges add)
  match sortedSet ys.flatten with
  -- The region was empty.
  | [] => return []
  | lo :: ys => bands add region lo ys

/-! ## The spans of a band -/

section Spans

open Spans

variable {x1 x2 : ℤ} {l r : List (ℤ × ℤ)} (s : ℤ × ℤ)

/-- The span under the loop. -/
theorem getElem?_under : (l ++ [s] ++ r)[l.length]? = some s := by
  rw [append_assoc]
  exact Vec.getElem?_append_length l r s

theorem eraseIdx_under : (l ++ [s] ++ r).eraseIdx l.length = l ++ r := by
  rw [append_assoc]
  exact Vec.eraseIdx_append_length l r s

/-- **A rectangle that is added**: the spans stay apart, and have its points as well.  The induction
    is on the spans that the loop has not seen; those it has seen are to the right. -/
theorem addSpan_spec (hx : x1 < x2) (h : Separated (l ++ r)) (hr : ∀ s ∈ r, x2 < s.1) :
    Separated (addSpan x1 x2 l.length (l ++ r)) ∧
      ∀ x, Covers (addSpan x1 x2 l.length (l ++ r)) x ↔ Covers (l ++ r) x ∨ Holds (x1, x2) x := by
  induction l using List.reverseRecOn generalizing x1 x2 r with
  | nil =>
    rw [length_nil, addSpan, insertIdx_zero, nil_append] at *
    refine ⟨?_, fun x => ?_⟩
    · exact (separated_append_cons (l := [])).mpr
        ⟨h, hx, fun _ ha => (not_mem_nil ha).elim, hr⟩
    · rw [covers_cons, or_comm]
  | append_singleton l s ih =>
    have hs := h
    rw [append_assoc, singleton_append, separated_append_cons] at hs
    obtain ⟨hlr, hne, hleft, hright⟩ := hs
    have hlen : (l ++ [s]).length = l.length + 1 := length_append
    have hcovers (x : ℤ) : Covers (l ++ [s] ++ r) x ↔ Covers (l ++ r) x ∨ Holds s x := by
      simp only [covers_append, covers_cons, covers_nil, or_false]
      tauto
    rw [hlen, addSpan, getElem?_under]
    dsimp only
    split_ifs with hend hstart
    · -- To the right of the span, and of those before it.
      rw [← hlen, Vec.insertIdx_append_length]
      refine ⟨separated_append_cons.mpr ⟨h, hx, fun a ha => ?_, hr⟩, fun x => ?_⟩
      · rcases mem_append.mp ha with ha | ha
        · exact (hleft a ha).trans (hne.trans hend)
        · rw [mem_singleton] at ha
          exact ha ▸ hend
      · simp only [covers_append, covers_cons]
        tauto
    · -- To the left of the span: the loop goes on.
      rw [append_assoc, singleton_append]
      rw [append_assoc, singleton_append] at h
      refine ih hx h fun a ha => ?_
      rcases mem_cons.mp ha with rfl | ha
      · exact hstart
      · exact hr a ha
    · -- The two are one from here on.
      rw [eraseIdx_under]
      push Not at hend hstart
      have hmerged : min x1 s.1 < max x2 s.2 := by omega
      obtain ⟨hsep, hcov⟩ := ih hmerged hlr fun a ha => by
        have := hr a ha
        have := hright a ha
        omega
      refine ⟨hsep, fun x => ?_⟩
      rw [hcov, hcovers, holds_merge hend hstart, or_assoc]

theorem insertRest_append :
    insertRest x1 x2 s.1 s.2 l.length (l ++ r) = l ++ (cut x1 x2 s ++ r) := by
  unfold insertRest cut
  split_ifs <;> simp [Vec.insertIdx_append_length]

/-- **A rectangle that is subtracted**: the spans stay apart, and lose its points. -/
theorem subtractSpan_spec (hx : x1 < x2) (h : Separated (l ++ r))
    (hr : ∀ s ∈ r, x2 ≤ s.1 ∨ s.2 ≤ x1) :
    Separated (subtractSpan x1 x2 l.length (l ++ r)) ∧
      ∀ x, Covers (subtractSpan x1 x2 l.length (l ++ r)) x ↔
        Covers (l ++ r) x ∧ ¬ Holds (x1, x2) x := by
  have hkept {spans : List (ℤ × ℤ)} (hs : ∀ s ∈ spans, x2 ≤ s.1 ∨ s.2 ≤ x1) (x : ℤ) :
      Covers spans x ↔ Covers spans x ∧ ¬ Holds (x1, x2) x := by
    refine (and_iff_left_of_imp ?_).symm
    rintro ⟨s, hin, hsx⟩ hx
    have := hs s hin
    unfold Holds at hsx hx
    omega
  induction l using List.reverseRecOn generalizing r with
  | nil => exact ⟨h, hkept hr⟩
  | append_singleton l s ih =>
    have hs := h
    rw [append_assoc, singleton_append, separated_append_cons] at hs
    obtain ⟨hlr, hne, hleft, hright⟩ := hs
    have hlen : (l ++ [s]).length = l.length + 1 := length_append
    rw [hlen, subtractSpan, getElem?_under]
    dsimp only
    split_ifs with hend hstart
    · refine ⟨h, hkept fun a ha => ?_⟩
      rcases mem_append.mp ha with ha | ha
      · rcases mem_append.mp ha with ha | ha
        · exact .inr ((hleft a ha).trans (hne.trans_le hend)).le
        · rw [mem_singleton] at ha
          exact .inr (ha ▸ hend)
      · exact hr a ha
    · rw [append_assoc, singleton_append]
      rw [append_assoc, singleton_append] at h
      refine ih h fun a ha => ?_
      rcases mem_cons.mp ha with rfl | ha
      · exact .inl hstart
      · exact hr a ha
    · -- The loop goes on to the left of what is left of the span.
      rw [eraseIdx_under, insertRest_append]
      push Not at hend hstart
      rw [append_assoc, singleton_append] at h
      have hparts : Separated (l ++ (cut x1 x2 s ++ r)) :=
        h.replace (separated_cut hx) fun t ht => by
          rcases mem_cut.mp ht with ⟨-, rfl⟩ | ⟨-, rfl⟩
          · exact ⟨le_rfl, hend.le⟩
          · exact ⟨hstart.le, le_rfl⟩
      obtain ⟨hsep, hcov⟩ := ih hparts fun a ha => by
        rcases mem_append.mp ha with ha | ha
        · rcases mem_cut.mp ha with ⟨-, rfl⟩ | ⟨-, rfl⟩
          · exact .inr le_rfl
          · exact .inl le_rfl
        · exact hr a ha
      refine ⟨hsep, fun x => ?_⟩
      rw [hcov]
      simp only [covers_append, covers_cons, covers_nil, or_false, covers_cut hend hstart]
      tauto

end Spans

/-! ## The rectangles that come out -/

/-- The kind of the last rectangle of the region that has the point. -/
def lastKind (region : RegionAttributes) (p : Point ℤ) : Option RectangleKind :=
  (region.filter fun rect => rect.2.contains p).getLast?.map Prod.fst

/-- No point is in both rectangles. -/
def Apart (a b : Rectangle ℤ) : Prop := ∀ p, ¬ (a.contains p = true ∧ b.contains p = true)

/-- No edge of the rectangle is inside the band. -/
def Clear (lo hi : ℤ) (r : Rect) : Prop :=
  (r.loc.y ≤ lo ∨ hi ≤ r.loc.y) ∧ (r.loc.y + r.size.h ≤ lo ∨ hi ≤ r.loc.y + r.size.h)

theorem lastKind_cons (rect : RectangleKind × Rect) (region : RegionAttributes) (p : Point ℤ) :
    lastKind (rect :: region) p =
      (lastKind region p).or (if rect.2.contains p then some rect.1 else none) := by
  unfold lastKind
  by_cases hp : rect.2.contains p = true
  · rw [filter_cons_of_pos (by simpa using hp), if_pos hp, List.getLast?_cons]
    cases (region.filter fun rect => rect.2.contains p).getLast? <;> rfl
  · rw [filter_cons_of_neg (by simpa using hp), if_neg hp, or_none]

variable {p : Point ℤ}

theorem lastKind_eq_none {region : RegionAttributes}
    (h : ∀ rect ∈ region, rect.2.contains p = false) : lastKind region p = none := by
  have hnil : (region.filter fun rect => rect.2.contains p) = [] := by
    rw [filter_eq_nil_iff]
    exact fun rect hin => by rw [h rect hin]; exact Bool.false_ne_true
  unfold lastKind
  rw [hnil]
  rfl

theorem contains_iff {r : Rectangle ℤ} :
    r.contains p = true ↔
      r.loc.x ≤ p.x ∧ p.x < r.loc.x + r.size.w ∧ r.loc.y ≤ p.y ∧ p.y < r.loc.y + r.size.h := by
  simp [Rectangle.contains, and_assoc]

section Exact

open Spans

variable {lo hi : ℤ} {region : RegionAttributes} {spans : List (ℤ × ℤ)}

/-- What a rectangle does to the spans of a band that it goes through. -/
theorem sweepRect_exact {rect : RectangleKind × Rect} (hclear : Clear lo hi rect.2)
    (h : Separated spans) :
    ∃ spans', sweepRect addExact lo hi spans rect = some spans' ∧ Separated spans' ∧
      ∀ x y, lo ≤ y → y < hi →
        (Covers spans' x ↔
          rect.2.contains ⟨x, y⟩ = true ∧ rect.1 = .add ∨
            rect.2.contains ⟨x, y⟩ = false ∧ Covers spans x) := by
  obtain ⟨kind, r⟩ := rect
  obtain ⟨htop, hbottom⟩ := hclear
  have hskip (hout : ∀ x y, lo ≤ y → y < hi → r.contains ⟨x, y⟩ = false) (x y : ℤ) (hl : lo ≤ y)
      (hr : y < hi) : Covers spans x ↔ r.contains ⟨x, y⟩ = true ∧ kind = .add ∨
        r.contains ⟨x, y⟩ = false ∧ Covers spans x := by
    rw [hout x y hl hr]
    simp
  have hout {x y : ℤ} (hnot : ¬ (r.loc.x ≤ x ∧ x < r.loc.x + r.size.w ∧ r.loc.y ≤ y ∧
      y < r.loc.y + r.size.h)) : r.contains ⟨x, y⟩ = false := by
    rw [← Bool.not_eq_true, contains_iff]
    exact hnot
  unfold sweepRect addExact
  dsimp only [Option.pure_def, bind_eq_bind, bind_some] at *
  split_ifs with hbelow habove hempty
  · exact ⟨spans, rfl, h, hskip fun x y hl hr => hout (by omega)⟩
  · exact ⟨spans, rfl, h, hskip fun x y hl hr => hout (by omega)⟩
  · exact ⟨spans, rfl, h, hskip fun x y hl hr => hout (by omega)⟩
  · -- The rectangle goes through the whole band.
    have hw := r.w_nonneg
    have hx : r.loc.x < r.loc.x + r.size.w := by omega
    have hcontains (x y : ℤ) (hl : lo ≤ y) (hr : y < hi) :
        r.contains ⟨x, y⟩ = true ↔ Holds (r.loc.x, r.loc.x + r.size.w) x := by
      rw [contains_iff]
      unfold Holds
      dsimp only
      omega
    have hall : spans = spans ++ [] := (append_nil spans).symm
    cases kind with
    | add =>
      obtain ⟨hsep, hcov⟩ := addSpan_spec (l := spans) (r := []) hx (hall ▸ h)
        fun s hs => (not_mem_nil hs).elim
      rw [append_nil] at hsep hcov
      refine ⟨_, rfl, hsep, fun x y hl hr => ?_⟩
      rw [hcov, ← hcontains x y hl hr]
      cases r.contains ⟨x, y⟩ <;> simp
    | subtract =>
      obtain ⟨hsep, hcov⟩ := subtractSpan_spec (l := spans) (r := []) hx (hall ▸ h)
        fun s hs => (not_mem_nil hs).elim
      rw [append_nil] at hsep hcov
      refine ⟨_, rfl, hsep, fun x y hl hr => ?_⟩
      rw [hcov, ← hcontains x y hl hr]
      cases r.contains ⟨x, y⟩ <;> simp

/-- **The spans of a band** have the points whose last rectangle is added. -/
theorem bandSpans_exact (hclear : ∀ rect ∈ region, Clear lo hi rect.2) :
    ∃ spans, bandSpans addExact region lo hi = some spans ∧ Separated spans ∧
      ∀ x y, lo ≤ y → y < hi → (Covers spans x ↔ lastKind region ⟨x, y⟩ = some .add) := by
  suffices hfold : ∀ spans, Separated spans →
      ∃ spans', region.foldlM (sweepRect addExact lo hi) spans = some spans' ∧ Separated spans' ∧
        ∀ x y, lo ≤ y → y < hi →
          (Covers spans' x ↔ lastKind region ⟨x, y⟩ = some .add ∨
            lastKind region ⟨x, y⟩ = none ∧ Covers spans x) by
    obtain ⟨spans, hspans, hsep, hcov⟩ := hfold [] separated_nil
    exact ⟨spans, hspans, hsep, fun x y hl hr => by simpa using hcov x y hl hr⟩
  induction region with
  | nil => exact fun spans h => ⟨spans, rfl, h, fun x y _ _ => by simp [lastKind]⟩
  | cons rect region ih =>
    intro spans h
    obtain ⟨spans₁, h₁, hsep₁, hcov₁⟩ := sweepRect_exact (hclear rect mem_cons_self) h
    obtain ⟨spans₂, h₂, hsep₂, hcov₂⟩ :=
      ih (fun rect hrect => hclear rect (mem_cons_of_mem _ hrect)) spans₁ hsep₁
    refine ⟨spans₂, ?_, hsep₂, fun x y hl hr => ?_⟩
    · rw [foldlM_cons, h₁, bind_eq_bind, bind_some, h₂]
    · rw [hcov₂ x y hl hr, hcov₁ x y hl hr, lastKind_cons]
      cases lastKind region ⟨x, y⟩ <;> cases hin : rect.2.contains ⟨x, y⟩ <;> simp

/-- The Y coordinates of the edges below `lo`, in order. -/
structure Edges (region : RegionAttributes) (lo : ℤ) (ys : List ℤ) : Prop where
  sorted : (lo :: ys).Pairwise (· < ·)
  top : ∀ rect ∈ region, lo < rect.2.loc.y → rect.2.loc.y ∈ ys
  bottom : ∀ rect ∈ region, lo < rect.2.loc.y + rect.2.size.h → rect.2.loc.y + rect.2.size.h ∈ ys

variable {ys : List ℤ}

section

variable (h : Edges region lo (hi :: ys))
include h

theorem Edges.lt : lo < hi :=
  rel_of_pairwise_cons h.sorted mem_cons_self

/-- Edges come in bands. -/
theorem Edges.le_of_mem {y : ℤ} (hy : y ∈ hi :: ys) : hi ≤ y := by
  rcases mem_cons.mp hy with rfl | hy
  · exact le_rfl
  · exact (rel_of_pairwise_cons (pairwise_cons.mp h.sorted).2 hy).le

theorem Edges.clear : ∀ rect ∈ region, Clear lo hi rect.2 := by
  intro rect hrect
  refine ⟨?_, ?_⟩
  · rcases le_or_gt rect.2.loc.y lo with hle | hlt
    · exact .inl hle
    · exact .inr (h.le_of_mem (h.top rect hrect hlt))
  · rcases le_or_gt (rect.2.loc.y + rect.2.size.h) lo with hle | hlt
    · exact .inl hle
    · exact .inr (h.le_of_mem (h.bottom rect hrect hlt))

theorem Edges.tail : Edges region hi ys where
  sorted := (pairwise_cons.mp h.sorted).2
  top := fun rect hrect hlt =>
    mem_of_ne_of_mem hlt.ne' (h.top rect hrect (h.lt.trans hlt))
  bottom := fun rect hrect hlt =>
    mem_of_ne_of_mem hlt.ne' (h.bottom rect hrect (h.lt.trans hlt))

end

theorem contains_fromExtremities {s : ℤ × ℤ} {p : Point ℤ} :
    (fromExtremities ⟨s.1, lo⟩ ⟨s.2, hi⟩).contains p = true ↔
      Holds s p.x ∧ lo ≤ p.y ∧ p.y < hi := by
  rw [contains_iff]
  unfold fromExtremities Holds
  dsimp only
  omega

/-- **The rectangles of the bands below `lo`**: the induction is on the bands, and what the others
    give is further down. -/
theorem bands_exact (h : Edges region lo ys) :
    ∃ output, bands addExact region lo ys = some output ∧
      (∀ r ∈ output, 0 < r.size.w ∧ 0 < r.size.h) ∧ output.Pairwise Apart ∧
      ∀ p, (∃ r ∈ output, r.contains p = true) ↔ lo ≤ p.y ∧ lastKind region p = some .add := by
  induction ys generalizing lo with
  | nil =>
    refine ⟨[], rfl, fun r hr => (not_mem_nil hr).elim, List.Pairwise.nil, fun p => ?_⟩
    refine iff_of_false (by simp) ?_
    rintro ⟨hlo, hadd⟩
    rw [lastKind_eq_none fun rect hrect => ?_] at hadd
    · cases hadd
    · -- It would have an edge below the point.
      rw [← Bool.not_eq_true, contains_iff]
      rintro ⟨-, -, -, hp⟩
      exact not_mem_nil (h.bottom rect hrect (hlo.trans_lt hp))
  | cons hi ys ih =>
    obtain ⟨spans, hspans, hsep, hcov⟩ := bandSpans_exact h.clear
    obtain ⟨output, houtput, hne, hapart, hpoints⟩ := ih h.tail
    have hband {r : Rectangle ℤ}
        (hr : r ∈ spans.map fun (x1, x2) => fromExtremities ⟨x1, lo⟩ ⟨x2, hi⟩) :
        ∃ s ∈ spans, r = fromExtremities ⟨s.1, lo⟩ ⟨s.2, hi⟩ := by
      obtain ⟨s, hs, rfl⟩ := mem_map.mp hr
      exact ⟨s, hs, rfl⟩
    refine ⟨_, by rw [bands, hspans, houtput]; rfl, fun r hr => ?_, ?_, fun p => ?_⟩
    · rcases mem_append.mp hr with hr | hr
      · obtain ⟨s, hs, rfl⟩ := hband hr
        have hw := hsep.nonempty s hs
        have hh := h.lt
        unfold fromExtremities
        dsimp only
        omega
      · exact hne r hr
    · refine pairwise_append.mpr ⟨?_, hapart, fun a ha b hb p hp => ?_⟩
      · refine hsep.apart.map _ fun s t hst p hp => ?_
        have hs := (contains_fromExtremities.mp hp.1).1
        have ht := (contains_fromExtremities.mp hp.2).1
        unfold Holds at hs ht
        omega
      · obtain ⟨s, -, rfl⟩ := hband ha
        have hup := (contains_fromExtremities.mp hp.1).2.2
        have hdown := ((hpoints p).mp ⟨b, hb, hp.2⟩).1
        exact absurd hdown (not_le.mpr hup)
    · constructor
      · rintro ⟨r, hr, hp⟩
        rcases mem_append.mp hr with hr | hr
        · obtain ⟨s, hs, rfl⟩ := hband hr
          obtain ⟨hx, hl, hu⟩ := contains_fromExtremities.mp hp
          exact ⟨hl, (hcov p.x p.y hl hu).mp ⟨s, hs, hx⟩⟩
        · obtain ⟨hl, hadd⟩ := (hpoints p).mp ⟨r, hr, hp⟩
          exact ⟨h.lt.le.trans hl, hadd⟩
      · rintro ⟨hl, hadd⟩
        rcases lt_or_ge p.y hi with hu | hu
        · obtain ⟨s, hs, hx⟩ := (hcov p.x p.y hl hu).mpr hadd
          exact ⟨_, mem_append_left _ (mem_map_of_mem hs),
            contains_fromExtremities.mpr ⟨hx, hl, hu⟩⟩
        · obtain ⟨r, hr, hp⟩ := (hpoints p).mpr ⟨hu, hadd⟩
          exact ⟨r, mem_append_right _ hr, hp⟩

/-- The edges of a rectangle that can be added up. -/
def bothEdges (rect : RectangleKind × Rect) : List ℤ :=
  [rect.2.loc.y, rect.2.loc.y + rect.2.size.h]

theorem mapM_edges {add : ℤ → ℤ → Option ℤ}
    (hadd : ∀ rect ∈ region, edges add rect = some (bothEdges rect)) :
    region.mapM (edges add) = some (region.map bothEdges) := by
  induction region with
  | nil => rfl
  | cons rect region ih =>
    rw [mapM_cons, hadd rect mem_cons_self,
      ih fun rect hrect => hadd rect (mem_cons_of_mem _ hrect)]
    rfl

/-- The edges of the region, from the top. -/
theorem edges_sortedSet (hsorted : sortedSet (region.map bothEdges).flatten = lo :: ys) :
    Edges region lo ys ∧ ∀ rect ∈ region, lo ≤ rect.2.loc.y := by
  have hmem (rect) (hrect : rect ∈ region) {y : ℤ}
      (hy : y = rect.2.loc.y ∨ y = rect.2.loc.y + rect.2.size.h) : y ∈ lo :: ys := by
    rw [← hsorted, mem_sortedSet, mem_flatten]
    exact ⟨_, mem_map_of_mem hrect, by simpa [bothEdges] using hy⟩
  have hpairwise : (lo :: ys).Pairwise (· < ·) := hsorted ▸ pairwise_sortedSet _
  refine ⟨⟨hpairwise, fun rect hrect hlt => ?_, fun rect hrect hlt => ?_⟩, fun rect hrect => ?_⟩
  · exact mem_of_ne_of_mem hlt.ne' (hmem rect hrect (.inl rfl))
  · exact mem_of_ne_of_mem hlt.ne' (hmem rect hrect (.inr rfl))
  · rcases mem_cons.mp (hmem rect hrect (.inl rfl)) with heq | hin
    · exact heq.ge
    · exact (rel_of_pairwise_cons hpairwise hin).le

/-- Without edges there are no rectangles. -/
theorem eq_nil_of_sortedSet (h : sortedSet (region.map bothEdges).flatten = []) : region = [] := by
  rw [eq_nil_iff_forall_not_mem]
  intro rect hrect
  have hmem : rect.2.loc.y ∈ sortedSet (region.map bothEdges).flatten := by
    rw [mem_sortedSet, mem_flatten]
    exact ⟨_, mem_map_of_mem hrect, mem_cons_self⟩
  rw [h] at hmem
  cases hmem

/-- **The rectangles are those of the region**: none is empty, no two have a point in common, and a
    point is in one of them exactly when the last rectangle of the region that has it is added. -/
theorem regionToNonOverlappingRects_exact (region : RegionAttributes) :
    ∃ output, regionToNonOverlappingRects addExact region = some output ∧
      (∀ r ∈ output, 0 < r.size.w ∧ 0 < r.size.h) ∧ output.Pairwise Apart ∧
      ∀ p, (∃ r ∈ output, r.contains p = true) ↔ lastKind region p = some .add := by
  have hys : region.mapM (edges addExact) = some (region.map bothEdges) :=
    mapM_edges fun _ _ => rfl
  unfold regionToNonOverlappingRects
  rw [hys, bind_eq_bind, bind_some]
  cases hsorted : sortedSet (region.map bothEdges).flatten with
  | nil =>
    rw [eq_nil_of_sortedSet hsorted]
    exact ⟨[], rfl, fun r hr => (not_mem_nil hr).elim, List.Pairwise.nil,
      fun p => iff_of_false (by simp) (by simp [lastKind])⟩
  | cons lo ys =>
    obtain ⟨hedges, hlo⟩ := edges_sortedSet hsorted
    obtain ⟨output, houtput, hne, hapart, hpoints⟩ := bands_exact hedges
    refine ⟨output, houtput, hne, hapart, fun p => (hpoints p).trans ?_⟩
    refine and_iff_right_of_imp fun hadd => ?_
    -- Every rectangle is below the first edge.
    by_contra hup
    rw [lastKind_eq_none fun rect hrect => ?_] at hadd
    · cases hadd
    · rw [← Bool.not_eq_true, contains_iff]
      rintro ⟨-, -, hp, -⟩
      exact hup ((hlo rect hrect).trans hp)

/-- A square with a hole, as in the tests of the source. -/
example :
    (regionToNonOverlappingRects addExact
      [(.add, ⟨⟨⟨0, 0⟩, ⟨20, 20⟩⟩, by decide, by decide⟩),
        (.subtract, ⟨⟨⟨5, 5⟩, ⟨10, 10⟩⟩, by decide, by decide⟩)]) =
      some [⟨⟨0, 0⟩, ⟨20, 5⟩⟩, ⟨⟨0, 5⟩, ⟨5, 10⟩⟩, ⟨⟨15, 5⟩, ⟨5, 10⟩⟩, ⟨⟨0, 15⟩, ⟨20, 5⟩⟩] := by
  decide

end Exact

/-! ## Additions that overflow -/

section Overflow

variable {lo hi : ℤ} {region : RegionAttributes} {ys : List ℤ}

/-- Whether the location and the size are `i32`. -/
def Rect.IsI32 (r : Rect) : Prop :=
  (-2 ^ 31 ≤ r.loc.x ∧ r.loc.x < 2 ^ 31) ∧ (-2 ^ 31 ≤ r.loc.y ∧ r.loc.y < 2 ^ 31) ∧
    r.size.w < 2 ^ 31 ∧ r.size.h < 2 ^ 31

/-- Whether its edges can be added up where the sweep does that: it looks at the right edge of
    rectangles that are not flat. -/
def Rect.Fits (r : Rect) : Prop :=
  r.loc.y + r.size.h < 2 ^ 31 ∧ (0 < r.size.h → r.loc.x + r.size.w < 2 ^ 31)

instance (r : Rect) : Decidable r.IsI32 := inferInstanceAs (Decidable (_ ∧ _))

theorem addI32_of_lt {a b : ℤ} (ha : -2 ^ 31 ≤ a) (hb : 0 ≤ b) (h : a + b < 2 ^ 31) :
    addI32 a b = some (a + b) := if_pos ⟨by omega, h⟩

theorem addI32_of_le {a b : ℤ} (h : 2 ^ 31 ≤ a + b) : addI32 a b = none :=
  if_neg fun hab => absurd hab.2 (not_lt.mpr h)

theorem isSome_of_mapM {α β : Type} {f : α → Option β} {l : List α} {bs : List β}
    (h : l.mapM f = some bs) {a : α} (ha : a ∈ l) : ∃ b, f a = some b := by
  induction l generalizing bs with
  | nil => cases ha
  | cons x l ih =>
    rw [mapM_cons] at h
    obtain ⟨b, hb, h⟩ := bind_eq_some_iff.mp h
    obtain ⟨bs', hbs', -⟩ := bind_eq_some_iff.mp h
    rcases mem_cons.mp ha with rfl | ha
    · exact ⟨b, hb⟩
    · exact ih hbs' ha

/-- The sweep adds up the right edge of a rectangle in the bands that it meets. -/
theorem isSome_sweepRect (lo hi : ℤ) (spans : List (ℤ × ℤ)) {rect : RectangleKind × Rect}
    (hbottom : addI32 rect.2.loc.y rect.2.size.h = some (rect.2.loc.y + rect.2.size.h)) :
    (sweepRect addI32 lo hi spans rect).isSome = true ↔
      (rect.2.loc.y < hi → lo < rect.2.loc.y + rect.2.size.h →
        (addI32 rect.2.loc.x rect.2.size.w).isSome = true) := by
  obtain ⟨kind, r⟩ := rect
  unfold sweepRect
  dsimp only [Option.pure_def, bind_eq_bind] at *
  rw [hbottom]
  split_ifs with hbelow
  · simp [not_lt.mpr hbelow]
  · dsimp only [bind_some]
    split_ifs with habove
    · simp [not_lt.mpr habove]
    · rw [not_le] at hbelow habove
      simp only [hbelow, habove, true_imp_iff]
      cases addI32 r.loc.x r.size.w with
      | none => rfl
      | some x2 =>
        rw [bind_some]
        split_ifs
        · rfl
        · cases kind <;> rfl

theorem isSome_bandSpans
    (hbottom : ∀ rect ∈ region,
      addI32 rect.2.loc.y rect.2.size.h = some (rect.2.loc.y + rect.2.size.h)) :
    (bandSpans addI32 region lo hi).isSome = true ↔
      ∀ rect ∈ region, rect.2.loc.y < hi → lo < rect.2.loc.y + rect.2.size.h →
        (addI32 rect.2.loc.x rect.2.size.w).isSome = true := by
  unfold bandSpans
  generalize ([] : List (ℤ × ℤ)) = spans
  induction region generalizing spans with
  | nil => simp
  | cons rect region ih =>
    have hrect := isSome_sweepRect lo hi spans (hbottom rect mem_cons_self)
    have hrest (spans) := ih (fun rect hin => hbottom rect (mem_cons_of_mem _ hin)) spans
    rw [foldlM_cons, forall_mem_cons, ← hrect]
    cases hsweep : sweepRect addI32 lo hi spans rect with
    | none => simp
    | some spans' => simpa using hrest spans'

/-- Below `lo`, it is the right edges of the rectangles that go on below that are added up. -/
theorem isSome_bands (h : Edges region lo ys)
    (hbottom : ∀ rect ∈ region,
      addI32 rect.2.loc.y rect.2.size.h = some (rect.2.loc.y + rect.2.size.h)) :
    (bands addI32 region lo ys).isSome = true ↔
      ∀ rect ∈ region, lo < rect.2.loc.y + rect.2.size.h → 0 < rect.2.size.h →
        (addI32 rect.2.loc.x rect.2.size.w).isSome = true := by
  induction ys generalizing lo with
  | nil =>
    refine iff_of_true rfl fun rect hrect hlt _ => ?_
    exact (not_mem_nil (h.bottom rect hrect hlt)).elim
  | cons hi ys ih =>
    have hboth : (bands addI32 region lo (hi :: ys)).isSome = true ↔
        (bandSpans addI32 region lo hi).isSome = true ∧
          (bands addI32 region hi ys).isSome = true := by
      rw [bands]
      cases bandSpans addI32 region lo hi with
      | none => simp
      | some spans => cases bands addI32 region hi ys <;> simp
    rw [hboth, isSome_bandSpans hbottom, ih h.tail, ← forall₂_and]
    refine forall₂_congr fun rect hrect => ?_
    obtain ⟨htop, hbot⟩ := h.clear rect hrect
    have hlt := h.lt
    constructor
    · rintro ⟨hband, hrest⟩ hlow hpos
      rcases lt_or_ge hi (rect.2.loc.y + rect.2.size.h) with hover | hunder
      · exact hrest hover hpos
      · exact hband (by omega) hlow
    · intro hall
      exact ⟨fun htop' hlow => hall hlow (by omega), fun hlow hpos => hall (by omega) hpos⟩

/-- **Where no addition overflows.** -/
theorem regionToNonOverlappingRects_returns (h : ∀ rect ∈ region, rect.2.IsI32) :
    (regionToNonOverlappingRects addI32 region).isSome = true ↔
      ∀ rect ∈ region, rect.2.Fits := by
  have hadd {rect : RectangleKind × Rect} (hrect : rect ∈ region)
      (hlt : rect.2.loc.y + rect.2.size.h < 2 ^ 31) :
      addI32 rect.2.loc.y rect.2.size.h = some (rect.2.loc.y + rect.2.size.h) :=
    addI32_of_lt (h rect hrect).2.1.1 rect.2.h_nonneg hlt
  by_cases hbottom : ∀ rect ∈ region, rect.2.loc.y + rect.2.size.h < 2 ^ 31
  · have hedges : ∀ rect ∈ region, edges addI32 rect = some (bothEdges rect) := by
      intro rect hrect
      unfold edges
      rw [hadd hrect (hbottom rect hrect)]
      rfl
    have hfits {rect : RectangleKind × Rect} (hrect : rect ∈ region) :
        rect.2.Fits ↔
          (0 < rect.2.size.h → (addI32 rect.2.loc.x rect.2.size.w).isSome = true) := by
      unfold Rect.Fits
      rw [and_iff_right (hbottom rect hrect)]
      refine imp_congr_right fun _ => ?_
      rcases lt_or_ge (rect.2.loc.x + rect.2.size.w) (2 ^ 31) with hlt | hge
      · rw [addI32_of_lt (h rect hrect).1.1 rect.2.w_nonneg hlt]
        exact iff_of_true hlt rfl
      · rw [addI32_of_le hge]
        exact iff_of_false (not_lt.mpr hge) Bool.false_ne_true
    unfold regionToNonOverlappingRects
    rw [mapM_edges hedges, bind_eq_bind, bind_some]
    cases hsorted : sortedSet (region.map bothEdges).flatten with
    | nil =>
      rw [eq_nil_of_sortedSet hsorted]
      exact iff_of_true rfl fun _ hrect => (not_mem_nil hrect).elim
    | cons lo ys =>
      obtain ⟨hin, hlo⟩ := edges_sortedSet hsorted
      rw [isSome_bands hin fun rect hrect => hadd hrect (hbottom rect hrect)]
      refine forall₂_congr fun rect hrect => ?_
      rw [hfits hrect]
      have := hlo rect hrect
      exact ⟨fun hall hpos => hall (by omega) hpos, fun hall _ hpos => hall hpos⟩
  · -- Already the edges of some rectangle overflow.
    refine iff_of_false ?_ fun hall => hbottom fun rect hrect => (hall rect hrect).1
    push Not at hbottom
    obtain ⟨rect, hrect, hge⟩ := hbottom
    intro hsome
    obtain ⟨output, houtput⟩ := isSome_iff_exists.mp hsome
    obtain ⟨ls, hls, -⟩ := bind_eq_some_iff.mp houtput
    have hnone : edges addI32 rect = none := by
      unfold edges
      rw [addI32_of_le hge]
      rfl
    obtain ⟨l, hl⟩ := isSome_of_mapM hls hrect
    rw [hnone] at hl
    cases hl

/-- A rectangle at the far end of both axes. -/
def far : Rect := ⟨⟨⟨2147483647, 2147483647⟩, ⟨1, 1⟩⟩, by decide, by decide⟩

theorem regionToNonOverlappingRects_returns_far :
    (regionToNonOverlappingRects addI32 [(.add, far)]).isSome = true ↔
      ∀ rect ∈ [(RectangleKind.add, far)], rect.2.Fits :=
  regionToNonOverlappingRects_returns (by decide)

/-- **A client can make an addition overflow.** -/
theorem far_overflows :
    ¬ ∀ region : RegionAttributes, (∀ rect ∈ region, rect.2.IsI32) →
      (regionToNonOverlappingRects addI32 region).isSome = true := by
  intro h
  have hsome := h [(.add, far)] (by decide)
  exact absurd hsome (by decide)

end Overflow

end Tiri.Utils.Region
