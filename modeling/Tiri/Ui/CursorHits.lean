import Tiri.Ui.CursorOverlays

/-!
# Cursor overlays under the pointer

The hit test and the drawing go through the same overlays from the top down, and skip different
ones.

Results:
* `sorted_eq`: the overlays are sorted in one way, whatever the order of the hash map;
* `surfaceUnder_eq_iff`: the hit test finds what is drawn exactly where no overlay comes in its way
  that is not resolved, not drawn, or drawn with another layer surface or away from its rectangle.
-/

namespace Tiri.Ui

open Utils (Point Size Rectangle)
open List
open Option

variable {WindowId Output WlSurface : Type} [DecidableEq WindowId]

/-! ## Sorting -/

instance : Std.TransCmp compareOverlays := by
  have hz : Std.TransCmp fun a b => compareOn RegisteredCursorOverlay.zIndex b a :=
    Std.TransCmp.opposite
  have hz' : Std.TransCmp fun a b : RegisteredCursorOverlay => compare b.zIndex a.zIndex := hz
  exact inferInstanceAs (Std.TransCmp (compareLex _ _))

theorem overlayId_eq_of_compareOverlays {a b : RegisteredCursorOverlay}
    (h : compareOverlays a b = .eq) : a.overlayId = b.overlayId := by
  have hid : compare a.overlayId b.overlayId = .eq := (Ordering.then_eq_eq.mp h).2
  exact Std.LawfulEqCmp.eq_of_compare hid

theorem CursorOverlayUi.sorted_eq (ui : CursorOverlayUi) {order order' : List String}
    (h : HashMap.Lists order ui.overlays) (h' : HashMap.Lists order' ui.overlays) :
    ui.sorted order = ui.sorted order' := by
  refine SortOf.unique (sortOf_sortBy _) (sortOf_sortBy _) (h.perm_values h')
    fun a ha b hb hab => ?_
  obtain ⟨i, hi⟩ := HashMap.mem_values ha
  obtain ⟨j, hj⟩ := HashMap.mem_values hb
  have hij : i = j := by
    rw [← ui.keyed i a hi, ← ui.keyed j b hj]
    exact overlayId_eq_of_compareOverlays hab
  rw [hij, hj] at hi
  exact (some.inj hi).symm

/-! ## What the two loops do with an overlay -/

section Overlay

variable (niri : Niri WindowId Output WlSurface) (output : Output) (layerMap : LayerMap)
variable (p : Point ℚ)

omit [DecidableEq WindowId] in
/-- The point is in the input of the surface, drawn in the rectangle. -/
def InTree (surface : LayerSurface) (rect : Rectangle ℚ) : Prop :=
  (niri.underFromSurfaceTree surface (p - rect.loc)).isSome = true

/-- The overlay is visible, and the first such overlay with its namespace. -/
def FirstVisible (above : List RegisteredCursorOverlay) (overlay : RegisteredCursorOverlay) :
    Prop :=
  overlay.visible = true ∧
    ∀ o ∈ above, o.visible = true → o.layerNamespace ≠ overlay.layerNamespace

/-- The overlay is visible and interactive, and the first such overlay with its namespace. -/
def Considered (above : List RegisteredCursorOverlay) (overlay : RegisteredCursorOverlay) : Prop :=
  overlay.visible = true ∧ overlay.interactive = true ∧
    ∀ o ∈ above, o.visible = true → o.interactive = true →
      o.layerNamespace ≠ overlay.layerNamespace

/-- The overlay has a layer surface, and its anchor is not on the output. -/
def Blocks (above : List RegisteredCursorOverlay) (overlay : RegisteredCursorOverlay) : Prop :=
  Considered above overlay ∧ (hitSurface layerMap overlay).isSome = true ∧
    niri.anchorPoint output overlay.anchor = none

/-- The layer surface that the hit test finds for the overlay has the point in its input. -/
def Catches (above : List RegisteredCursorOverlay) (overlay : RegisteredCursorOverlay) : Prop :=
  Considered above overlay ∧ ∃ surface geo anchor,
    hitSurface layerMap overlay = some (surface, geo) ∧
    niri.anchorPoint output overlay.anchor = some anchor ∧
    rectContains (niri.overlayRect output overlay anchor geo) p = true ∧
    InTree niri p surface (niri.overlayRect output overlay anchor geo)

/-- The overlay is interactive and drawn, with the point in its input. -/
def Shows (above : List RegisteredCursorOverlay) (overlay : RegisteredCursorOverlay) : Prop :=
  overlay.interactive = true ∧ FirstVisible above overlay ∧ ∃ surface geo anchor,
    drawnSurface niri layerMap overlay = some (surface, geo) ∧
    niri.anchorPoint output overlay.anchor = some anchor ∧
    InTree niri p surface (niri.drawnRect output overlay anchor surface geo)

/-- The layer surface that the hit test finds is drawn where the overlay is. -/
def Still (overlay : RegisteredCursorOverlay) : Prop :=
  ∀ surface geo, hitSurface layerMap overlay = some (surface, geo) →
    niri.bobOffset surface = ⟨0, 0⟩

/-- None of the overlays is shown under the point or ends the hit test. -/
def Quiet (above : List RegisteredCursorOverlay) : Prop :=
  ∀ pre overlay post, above = pre ++ overlay :: post →
    ¬ Shows niri output layerMap p pre overlay ∧ ¬ Blocks niri output layerMap pre overlay ∧
      ¬ Catches niri output layerMap p pre overlay

/-- The hit test does with the overlay what its drawing takes. -/
structure Faithful (above : List RegisteredCursorOverlay) (overlay : RegisteredCursorOverlay)
    (below : List RegisteredCursorOverlay) : Prop where
  /-- One that is not resolved hides none that is shown under the point. -/
  unresolved : Blocks niri output layerMap above overlay → ∀ mid overlay' rest,
    below = mid ++ overlay' :: rest → ¬ Shows niri output layerMap p (above ++ overlay :: mid) overlay'
  /-- One that has the point in its input is drawn, with the layer surface that was found. -/
  drawn : Catches niri output layerMap p above overlay →
    FirstVisible above overlay ∧
      drawnSurface niri layerMap overlay = hitSurface layerMap overlay ∧ Still niri layerMap overlay
  /-- One that is shown under the point is found, and has the point in its rectangle. -/
  found : Shows niri output layerMap p above overlay →
    drawnSurface niri layerMap overlay = hitSurface layerMap overlay ∧ Still niri layerMap overlay ∧
      ∀ surface geo anchor, drawnSurface niri layerMap overlay = some (surface, geo) →
        niri.anchorPoint output overlay.anchor = some anchor →
        rectContains (niri.overlayRect output overlay anchor geo) p = true

/-- Down to the first overlay that is shown under the point or ends the hit test. -/
def HitsFaithfully (overlays : List RegisteredCursorOverlay) : Prop :=
  ∀ above overlay below, overlays = above ++ overlay :: below →
    Quiet niri output layerMap p above → Faithful niri output layerMap p above overlay below

omit [DecidableEq WindowId] in
/-- The surface under the point of the topmost overlay that is drawn, interactive, and has the point
in its input. -/
def topmostUnder (drawn : List DrawnOverlay) : Option ((WlSurface × Point ℚ) × LayerSurface) :=
  drawn.findSome? fun d =>
    if d.overlay.interactive = true then
      (niri.underFromSurfaceTree d.surface (p - d.rect.loc)).map fun (surface, surfaceOrigin) =>
        ((surface, surfaceOrigin.toF64 + d.rect.loc), d.surface)
    else none

end Overlay

/-! ## One overlay -/

section Loops

variable {niri : Niri WindowId Output WlSurface} {output : Output} {layerMap : LayerMap}
variable {p : Point ℚ} {checked rendered : Finset String}
variable {above below : List RegisteredCursorOverlay} {overlay : RegisteredCursorOverlay}

/-- The namespaces of the overlays that the hit test looked at. -/
def Checked (above : List RegisteredCursorOverlay) (checked : Finset String) : Prop :=
  ∀ n, n ∈ checked ↔
    ∃ o ∈ above, o.visible = true ∧ o.interactive = true ∧ o.layerNamespace = n

/-- The namespaces of the overlays that were visible. -/
def Rendered (above : List RegisteredCursorOverlay) (rendered : Finset String) : Prop :=
  ∀ n, n ∈ rendered ↔ ∃ o ∈ above, o.visible = true ∧ o.layerNamespace = n

theorem Checked.considered_iff (h : Checked above checked) :
    Considered above overlay ↔ ¬ (overlay.visible = false ∨ overlay.interactive = false ∨
      overlay.layerNamespace ∈ checked) := by
  rw [h overlay.layerNamespace, not_or, not_or, Bool.not_eq_false, Bool.not_eq_false]
  push Not
  rfl

theorem Rendered.firstVisible_iff (h : Rendered above rendered) :
    FirstVisible above overlay ↔
      ¬ (overlay.visible = false ∨ overlay.layerNamespace ∈ rendered) := by
  rw [h overlay.layerNamespace, not_or, Bool.not_eq_false]
  push Not
  rfl

/-- The hit test looks at an overlay. -/
theorem Checked.insert (h : Checked above checked) (hoverlay : Considered above overlay) :
    Checked (above ++ [overlay]) (insert overlay.layerNamespace checked) := by
  intro n
  rw [Finset.mem_insert, h n]
  constructor
  · rintro (rfl | ⟨o, ho, hmem⟩)
    · exact ⟨overlay, by simp, hoverlay.1, hoverlay.2.1, rfl⟩
    · exact ⟨o, mem_append_left _ ho, hmem⟩
  · rintro ⟨o, ho, hvisible, hinteractive, rfl⟩
    rcases mem_append.mp ho with ho | ho
    · exact .inr ⟨o, ho, hvisible, hinteractive, rfl⟩
    · rw [mem_singleton.mp ho]
      exact .inl rfl

theorem Checked.skip (h : Checked above checked) (hoverlay : ¬ Considered above overlay) :
    Checked (above ++ [overlay]) checked := by
  intro n
  rw [h n]
  constructor
  · rintro ⟨o, ho, hmem⟩
    exact ⟨o, mem_append_left _ ho, hmem⟩
  · rintro ⟨o, ho, hvisible, hinteractive, rfl⟩
    rcases mem_append.mp ho with ho | ho
    · exact ⟨o, ho, hvisible, hinteractive, rfl⟩
    · obtain rfl := mem_singleton.mp ho
      by_contra hnone
      push Not at hnone
      exact hoverlay ⟨hvisible, hinteractive, hnone⟩

theorem Rendered.insert (h : Rendered above rendered) (hoverlay : FirstVisible above overlay) :
    Rendered (above ++ [overlay]) (insert overlay.layerNamespace rendered) := by
  intro n
  rw [Finset.mem_insert, h n]
  constructor
  · rintro (rfl | ⟨o, ho, hmem⟩)
    · exact ⟨overlay, by simp, hoverlay.1, rfl⟩
    · exact ⟨o, mem_append_left _ ho, hmem⟩
  · rintro ⟨o, ho, hvisible, rfl⟩
    rcases mem_append.mp ho with ho | ho
    · exact .inr ⟨o, ho, hvisible, rfl⟩
    · rw [mem_singleton.mp ho]
      exact .inl rfl

theorem Rendered.skip (h : Rendered above rendered) (hoverlay : ¬ FirstVisible above overlay) :
    Rendered (above ++ [overlay]) rendered := by
  intro n
  rw [h n]
  constructor
  · rintro ⟨o, ho, hmem⟩
    exact ⟨o, mem_append_left _ ho, hmem⟩
  · rintro ⟨o, ho, hvisible, rfl⟩
    rcases mem_append.mp ho with ho | ho
    · exact ⟨o, ho, hvisible, rfl⟩
    · obtain rfl := mem_singleton.mp ho
      by_contra hnone
      push Not at hnone
      exact hoverlay ⟨hvisible, hnone⟩

variable {surface : LayerSurface} {geo : Rectangle ℤ}

theorem layerNamespace_of_hitSurface (h : hitSurface layerMap overlay = some (surface, geo)) :
    surface.layerNamespace = overlay.layerNamespace ∧
      layerMap.layerGeometry surface = some geo := by
  obtain ⟨s, -, hs⟩ := exists_of_findSome?_eq_some h
  split at hs
  · cases hs
  · rename_i hnamespace
    obtain ⟨geo', hgeo, heq⟩ := map_eq_some_iff.mp hs
    cases heq
    exact ⟨not_not.mp hnamespace, hgeo⟩

omit [DecidableEq WindowId] in
theorem layerNamespace_of_drawnSurface
    (h : drawnSurface niri layerMap overlay = some (surface, geo)) :
    surface.layerNamespace = overlay.layerNamespace ∧
      layerMap.layerGeometry surface = some geo := by
  obtain ⟨s, -, hs⟩ := exists_of_findSome?_eq_some h
  split at hs
  · cases hs
  · rename_i hnamespace
    obtain ⟨hmapped, hs⟩ := ite_none_right_eq_some.mp hs
    obtain ⟨geo', hgeo, heq⟩ := map_eq_some_iff.mp hs
    cases heq
    exact ⟨not_not.mp hnamespace, hgeo⟩

/-! ### The hit test -/

/-- An overlay that the hit test passes. -/
theorem surfaceUnderLoop_pass (below : List RegisteredCursorOverlay) (h : Checked above checked)
    (hblocks : ¬ Blocks niri output layerMap above overlay)
    (hcatches : ¬ Catches niri output layerMap p above overlay) :
    ∃ checked', Checked (above ++ [overlay]) checked' ∧
      surfaceUnderLoop niri output layerMap p checked (overlay :: below) =
        surfaceUnderLoop niri output layerMap p checked' below := by
  by_cases hconsidered : Considered above overlay
  · refine ⟨_, h.insert hconsidered, ?_⟩
    rw [surfaceUnderLoop, if_neg (h.considered_iff.mp hconsidered)]
    split
    · rfl
    · rename_i surface geo hhit
      split
      · rename_i hanchor
        exact absurd ⟨hconsidered, by rw [hhit]; rfl, hanchor⟩ hblocks
      · rename_i anchor hanchor
        simp only
        split
        · rename_i hcontains
          split
          · rfl
          · rename_i hunder
            exact absurd ⟨hconsidered, surface, geo, anchor, hhit, hanchor, hcontains,
              by unfold InTree; rw [hunder]; rfl⟩ hcatches
        · rfl
  · refine ⟨checked, h.skip hconsidered, ?_⟩
    have hskip : overlay.visible = false ∨ overlay.interactive = false ∨
        overlay.layerNamespace ∈ checked := by
      by_contra hnot
      exact hconsidered (h.considered_iff.mpr hnot)
    rw [surfaceUnderLoop, if_pos hskip]

/-- An overlay that is not resolved ends the hit test. -/
theorem surfaceUnderLoop_blocks (h : Checked above checked)
    (hblocks : Blocks niri output layerMap above overlay) :
    surfaceUnderLoop niri output layerMap p checked (overlay :: below) = none := by
  obtain ⟨hconsidered, hhit, hanchor⟩ := hblocks
  obtain ⟨⟨surface, geo⟩, hhit⟩ := isSome_iff_exists.mp hhit
  rw [surfaceUnderLoop, if_neg (h.considered_iff.mp hconsidered)]
  simp only [hhit, hanchor]

variable {anchor : Point ℚ}

/-- The hit test takes the layer surface that it finds for the overlay. -/
theorem surfaceUnderLoop_catches (h : Checked above checked)
    (hconsidered : Considered above overlay)
    (hhit : hitSurface layerMap overlay = some (surface, geo))
    (hanchor : niri.anchorPoint output overlay.anchor = some anchor)
    (hcontains : rectContains (niri.overlayRect output overlay anchor geo) p = true)
    (htree : InTree niri p surface (niri.overlayRect output overlay anchor geo)) :
    surfaceUnderLoop niri output layerMap p checked (overlay :: below) =
      (niri.underFromSurfaceTree surface
        (p - (niri.overlayRect output overlay anchor geo).loc)).map fun (under, origin) =>
          ((under, origin.toF64 + (niri.overlayRect output overlay anchor geo).loc), surface) := by
  rw [surfaceUnderLoop, if_neg (h.considered_iff.mp hconsidered)]
  simp only [hhit, hanchor, if_pos hcontains]
  obtain ⟨under, hunder⟩ := isSome_iff_exists.mp htree
  rw [hunder]
  rfl

variable {result : WlSurface × Point ℚ}

/-- The hit test finds no layer surface of a namespace that it already looked at. -/
theorem notMem_of_surfaceUnderLoop
    (h : surfaceUnderLoop niri output layerMap p checked below = some (result, surface)) :
    surface.layerNamespace ∉ checked := by
  induction below generalizing checked with
  | nil => cases h
  | cons overlay below ih =>
    rw [surfaceUnderLoop] at h
    split at h
    · exact ih h
    · rename_i hskip
      have hinsert : surface.layerNamespace ∉ insert overlay.layerNamespace checked →
          surface.layerNamespace ∉ checked := fun hnot hmem =>
        hnot (Finset.mem_insert_of_mem hmem)
      split at h
      · exact hinsert (ih h)
      · rename_i hit geo hhit
        split at h
        · cases h
        · simp only at h
          split at h
          · split at h
            · exact hinsert (ih h)
            · cases h
              rw [(layerNamespace_of_hitSurface hhit).1]
              exact fun hmem => hskip (.inr (.inr hmem))
          · exact hinsert (ih h)

/-! ### The drawing -/

/-- An overlay that is not shown under the point. -/
theorem topmostUnder_pass (below : List RegisteredCursorOverlay) (h : Rendered above rendered)
    (hshows : ¬ Shows niri output layerMap p above overlay) :
    ∃ rendered', Rendered (above ++ [overlay]) rendered' ∧
      topmostUnder niri p (renderOutputLoop niri output layerMap rendered (overlay :: below)) =
        topmostUnder niri p (renderOutputLoop niri output layerMap rendered' below) := by
  by_cases hfirst : FirstVisible above overlay
  · refine ⟨_, h.insert hfirst, ?_⟩
    rw [renderOutputLoop, if_neg (h.firstVisible_iff.mp hfirst)]
    split
    · rfl
    · rename_i surface geo hdrawn
      split
      · rfl
      · rename_i anchor hanchor
        unfold topmostUnder
        rw [List.findSome?_cons]
        split
        · rename_i result hresult
          obtain ⟨hinteractive, hresult⟩ := ite_none_right_eq_some.mp hresult
          obtain ⟨under, hunder, -⟩ := map_eq_some_iff.mp hresult
          exact absurd ⟨hinteractive, hfirst, surface, geo, anchor, hdrawn, hanchor,
            isSome_iff_exists.mpr ⟨under, hunder⟩⟩ hshows
        · rfl
  · refine ⟨rendered, h.skip hfirst, ?_⟩
    have hskip : overlay.visible = false ∨ overlay.layerNamespace ∈ rendered := by
      by_contra hnot
      exact hfirst (h.firstVisible_iff.mpr hnot)
    rw [renderOutputLoop, if_pos hskip]

/-- An overlay that is shown under the point. -/
theorem topmostUnder_shows (h : Rendered above rendered) (hinteractive : overlay.interactive = true)
    (hfirst : FirstVisible above overlay)
    (hdrawn : drawnSurface niri layerMap overlay = some (surface, geo))
    (hanchor : niri.anchorPoint output overlay.anchor = some anchor)
    (htree : InTree niri p surface (niri.drawnRect output overlay anchor surface geo)) :
    topmostUnder niri p (renderOutputLoop niri output layerMap rendered (overlay :: below)) =
      (niri.underFromSurfaceTree surface (p - (niri.drawnRect output overlay anchor surface geo).loc)).map
        fun (under, origin) =>
          ((under, origin.toF64 + (niri.drawnRect output overlay anchor surface geo).loc), surface) := by
  rw [renderOutputLoop, if_neg (h.firstVisible_iff.mp hfirst)]
  simp only [hdrawn, hanchor]
  unfold topmostUnder
  rw [List.findSome?_cons]
  simp only [if_pos hinteractive]
  obtain ⟨under, hunder⟩ := isSome_iff_exists.mp htree
  rw [hunder]
  rfl

/-- Nothing is found exactly where no overlay is shown under the point. -/
theorem topmostUnder_eq_none_iff (h : Rendered above rendered) :
    topmostUnder niri p (renderOutputLoop niri output layerMap rendered below) = none ↔
      ∀ mid overlay rest, below = mid ++ overlay :: rest →
        ¬ Shows niri output layerMap p (above ++ mid) overlay := by
  induction below generalizing above rendered with
  | nil =>
    refine iff_of_true rfl fun mid overlay rest heq => ?_
    simp at heq
  | cons overlay below ih =>
    by_cases hshows : Shows niri output layerMap p above overlay
    · refine iff_of_false ?_ fun hnone => ?_
      · obtain ⟨hinteractive, hfirst, surface, geo, anchor, hdrawn, hanchor, htree⟩ := hshows
        rw [topmostUnder_shows h hinteractive hfirst hdrawn hanchor htree,
          map_eq_none_iff, ← not_isSome_iff_eq_none, not_not]
        exact htree
      · have hnot := hnone [] overlay below rfl
        rw [append_nil] at hnot
        exact hnot hshows
    · obtain ⟨rendered', h', heq⟩ := topmostUnder_pass below h hshows
      rw [heq, ih h']
      constructor
      · rintro hnone (_ | ⟨o, mid⟩) overlay' rest hsplit
        · cases hsplit
          rw [append_nil]
          exact hshows
        · cases hsplit
          rw [append_cons]
          exact hnone mid overlay' rest rfl
      · intro hnone mid overlay' rest hsplit
        have hnot := hnone (overlay :: mid) overlay' rest (by rw [hsplit]; rfl)
        rwa [append_cons] at hnot

/-- What is found below has another namespace than what was rendered. -/
theorem notMem_of_topmostUnder
    (h : topmostUnder niri p (renderOutputLoop niri output layerMap rendered below) =
      some (result, surface)) : surface.layerNamespace ∉ rendered := by
  induction below generalizing rendered with
  | nil => cases h
  | cons overlay below ih =>
    rw [renderOutputLoop] at h
    split at h
    · exact ih h
    · rename_i hskip
      have hinsert : surface.layerNamespace ∉ insert overlay.layerNamespace rendered →
          surface.layerNamespace ∉ rendered := fun hnot hmem =>
        hnot (Finset.mem_insert_of_mem hmem)
      split at h
      · exact hinsert (ih h)
      · rename_i drawn geo hdrawn
        split at h
        · exact hinsert (ih h)
        · unfold topmostUnder at h
          rw [List.findSome?_cons] at h
          split at h
          · rename_i found hfound
            cases h
            obtain ⟨-, hfound⟩ := ite_none_right_eq_some.mp hfound
            obtain ⟨under, -, heq⟩ := map_eq_some_iff.mp hfound
            cases heq
            rw [(layerNamespace_of_drawnSurface hdrawn).1]
            exact fun hmem => hskip (.inr hmem)
          · exact hinsert (ih h)

/-! ## The two loops -/

omit [DecidableEq WindowId] in
theorem drawnRect_eq (h : niri.bobOffset surface = ⟨0, 0⟩) :
    niri.drawnRect output overlay anchor surface geo = niri.overlayRect output overlay anchor geo := by
  have hloc (q : Point ℚ) : q + ⟨0, 0⟩ = q := congrArg₂ Point.mk (add_zero _) (add_zero _)
  rw [Niri.drawnRect, h, hloc]

omit [DecidableEq WindowId] in
/-- One surface is found at one place only where the overlay is still. -/
theorem bobOffset_eq {under under' : WlSurface × Point ℤ} {q : Point ℚ}
    (h : niri.underFromSurfaceTree surface p = some under)
    (h' : niri.underFromSurfaceTree surface q = some under')
    (heq : ((under.1, under.2.toF64 + (niri.overlayRect output overlay anchor geo).loc), surface) =
      ((under'.1, under'.2.toF64 + (niri.drawnRect output overlay anchor surface geo).loc), surface)) :
    niri.bobOffset surface = ⟨0, 0⟩ := by
  obtain ⟨hfst, hsnd⟩ := Prod.mk.inj (Prod.mk.inj heq).1
  obtain ⟨_, -, rfl⟩ := map_eq_some_iff.mp h
  obtain ⟨_, -, rfl⟩ := map_eq_some_iff.mp h'
  cases hfst
  obtain ⟨hx, hy⟩ := Point.mk.inj hsnd
  have hx := (add_right_inj _).mp hx
  have hy := (add_right_inj _).mp hy
  exact congrArg₂ Point.mk (left_eq_add.mp hx) (left_eq_add.mp hy)

/-- An overlay that the hit test stops at, or that is shown under the point. -/
theorem loops_eq_iff_of_stop (hchecked : Checked above checked) (hrendered : Rendered above rendered)
    (hstop : Shows niri output layerMap p above overlay ∨ Blocks niri output layerMap above overlay ∨
      Catches niri output layerMap p above overlay) :
    surfaceUnderLoop niri output layerMap p checked (overlay :: below) =
        topmostUnder niri p (renderOutputLoop niri output layerMap rendered (overlay :: below)) ↔
      Faithful niri output layerMap p above overlay below := by
  by_cases hblocks : Blocks niri output layerMap above overlay
  · -- The anchor is not on the output, so the overlay is not drawn either.
    have hanchor := hblocks.2.2
    have hcatches : ¬ Catches niri output layerMap p above overlay := by
      rintro ⟨-, _, _, anchor, -, hsome, -⟩
      rw [hanchor] at hsome
      cases hsome
    have hshows : ¬ Shows niri output layerMap p above overlay := by
      rintro ⟨-, -, _, _, anchor, -, hsome, -⟩
      rw [hanchor] at hsome
      cases hsome
    obtain ⟨rendered', hrendered', heq⟩ := topmostUnder_pass below hrendered hshows
    rw [surfaceUnderLoop_blocks hchecked hblocks, heq, eq_comm, topmostUnder_eq_none_iff hrendered']
    constructor
    · intro hnone
      refine ⟨fun _ mid overlay' rest hsplit => ?_, fun h => absurd h hcatches,
        fun h => absurd h hshows⟩
      rw [append_cons]
      exact hnone mid overlay' rest hsplit
    · intro hfaithful mid overlay' rest hsplit
      rw [← append_cons]
      exact hfaithful.unresolved hblocks mid overlay' rest hsplit
  by_cases hcatches : Catches niri output layerMap p above overlay
  · obtain ⟨hconsidered, surface, geo, anchor, hhit, hanchor, hcontains, htree⟩ := hcatches
    obtain ⟨under, hunder⟩ := isSome_iff_exists.mp htree
    rw [surfaceUnderLoop_catches hchecked hconsidered hhit hanchor hcontains htree]
    have hfound : surface.layerNamespace = overlay.layerNamespace :=
      (layerNamespace_of_hitSurface hhit).1
    by_cases hshows : Shows niri output layerMap p above overlay
    · obtain ⟨hinteractive, hfirst, surface', geo', anchor', hdrawn, hanchor', htree'⟩ := hshows
      obtain ⟨under', hunder'⟩ := isSome_iff_exists.mp htree'
      rw [topmostUnder_shows hrendered hinteractive hfirst hdrawn hanchor' htree', hunder, hunder']
      rw [hanchor, some.injEq] at hanchor'
      subst hanchor'
      by_cases hsame : surface = surface'
      · subst hsame
        have hgeo : geo = geo' := some.inj
          ((layerNamespace_of_hitSurface hhit).2.symm.trans (layerNamespace_of_drawnSurface hdrawn).2)
        subst hgeo
        have hstill : niri.bobOffset surface = ⟨0, 0⟩ → Still niri layerMap overlay := by
          intro hbob surface' geo' hhit'
          rw [hhit] at hhit'
          cases hhit'
          exact hbob
        constructor
        · intro heq
          have hbob := bobOffset_eq hunder hunder' (some.inj heq)
          refine ⟨fun h => absurd h hblocks, fun _ => ⟨hfirst, hdrawn.trans hhit.symm, hstill hbob⟩,
            fun _ => ⟨hdrawn.trans hhit.symm, hstill hbob, ?_⟩⟩
          intro surface' geo' anchor' hdrawn' hanchor'
          rw [hdrawn] at hdrawn'
          rw [hanchor] at hanchor'
          cases hdrawn'
          cases hanchor'
          exact hcontains
        · intro hfaithful
          have hbob := (hfaithful.drawn
            ⟨hconsidered, surface, geo, anchor, hhit, hanchor, hcontains, htree⟩).2.2 surface geo hhit
          rw [drawnRect_eq hbob, hunder, some.injEq] at hunder'
          rw [drawnRect_eq hbob, hunder']
      · refine iff_of_false (fun heq => ?_) fun hfaithful => ?_
        · exact hsame (Prod.mk.inj (some.inj heq)).2
        · have hdrawn' := (hfaithful.drawn
            ⟨hconsidered, surface, geo, anchor, hhit, hanchor, hcontains, htree⟩).2.1
          rw [hdrawn, hhit, some.injEq, Prod.mk.injEq] at hdrawn'
          exact hsame hdrawn'.1.symm
    · -- What is found below has another namespace.
      refine iff_of_false (fun heq => ?_) fun hfaithful => ?_
      · obtain ⟨rendered', hrendered', hpass⟩ := topmostUnder_pass below hrendered hshows
        rw [hunder, map_some, hpass, eq_comm] at heq
        refine notMem_of_topmostUnder heq ?_
        rw [hrendered' surface.layerNamespace]
        exact ⟨overlay, by simp, hconsidered.1, hfound.symm⟩
      · obtain ⟨hfirst, hdrawn, hstill⟩ := hfaithful.drawn
          ⟨hconsidered, surface, geo, anchor, hhit, hanchor, hcontains, htree⟩
        exact hshows ⟨hconsidered.2.1, hfirst, surface, geo, anchor, hdrawn.trans hhit, hanchor,
          by rwa [drawnRect_eq (hstill surface geo hhit)]⟩
  · have hshows : Shows niri output layerMap p above overlay :=
      hstop.resolve_right (not_or.mpr ⟨hblocks, hcatches⟩)
    obtain ⟨hinteractive, hfirst, surface, geo, anchor, hdrawn, hanchor, htree⟩ := hshows
    have hconsidered : Considered above overlay :=
      ⟨hfirst.1, hinteractive, fun o ho hvisible _ => hfirst.2 o ho hvisible⟩
    refine iff_of_false (fun heq => ?_) fun hfaithful => ?_
    · obtain ⟨checked', hchecked', hpass⟩ :=
        surfaceUnderLoop_pass (p := p) below hchecked hblocks hcatches
      obtain ⟨under, hunder⟩ := isSome_iff_exists.mp htree
      rw [topmostUnder_shows hrendered hinteractive hfirst hdrawn hanchor htree, hpass, hunder,
        map_some] at heq
      refine notMem_of_surfaceUnderLoop heq ?_
      rw [hchecked' surface.layerNamespace]
      exact ⟨overlay, by simp, hfirst.1, hinteractive, (layerNamespace_of_drawnSurface hdrawn).1.symm⟩
    · obtain ⟨hhit, hstill, hcontains⟩ := hfaithful.found
        ⟨hinteractive, hfirst, surface, geo, anchor, hdrawn, hanchor, htree⟩
      have hhit := hhit.symm.trans hdrawn
      rw [drawnRect_eq (hstill surface geo hhit)] at htree
      exact hcatches ⟨hconsidered, surface, geo, anchor, hhit, hanchor,
        hcontains surface geo anchor hdrawn hanchor, htree⟩

/-- From an overlay on, above which none is shown under the point or ends the hit test. -/
theorem loops_eq_iff (hchecked : Checked above checked) (hrendered : Rendered above rendered)
    (hquiet : Quiet niri output layerMap p above) :
    surfaceUnderLoop niri output layerMap p checked below =
        topmostUnder niri p (renderOutputLoop niri output layerMap rendered below) ↔
      ∀ mid overlay rest, below = mid ++ overlay :: rest →
        Quiet niri output layerMap p (above ++ mid) →
        Faithful niri output layerMap p (above ++ mid) overlay rest := by
  induction below generalizing above checked rendered with
  | nil =>
    refine iff_of_true rfl fun mid overlay rest heq => ?_
    simp at heq
  | cons overlay below ih =>
    by_cases hstop : Shows niri output layerMap p above overlay ∨
        Blocks niri output layerMap above overlay ∨ Catches niri output layerMap p above overlay
    · rw [loops_eq_iff_of_stop hchecked hrendered hstop]
      constructor
      · rintro hfaithful (_ | ⟨o, mid⟩) overlay' rest hsplit hquiet'
        · cases hsplit
          rw [append_nil]
          exact hfaithful
        · cases hsplit
          obtain ⟨hshows, hblocks, hcatches⟩ := hquiet' above overlay mid rfl
          exact absurd hstop (not_or.mpr ⟨hshows, not_or.mpr ⟨hblocks, hcatches⟩⟩)
      · intro h
        have hfaithful := h [] overlay below rfl
        rw [append_nil] at hfaithful
        exact hfaithful hquiet
    · obtain ⟨hshows, hrest⟩ := not_or.mp hstop
      obtain ⟨hblocks, hcatches⟩ := not_or.mp hrest
      obtain ⟨checked', hchecked', hhit⟩ :=
        surfaceUnderLoop_pass below hchecked hblocks hcatches
      obtain ⟨rendered', hrendered', hdraw⟩ :=
        topmostUnder_pass below hrendered hshows
      have hquiet' : Quiet niri output layerMap p (above ++ [overlay]) := by
        intro pre overlay' post hsplit
        rcases eq_nil_or_concat post with rfl | ⟨post', last, rfl⟩
        · obtain ⟨rfl, heq⟩ := append_inj' hsplit rfl
          cases heq
          exact ⟨hshows, hblocks, hcatches⟩
        · rw [concat_eq_append, ← cons_append, ← append_assoc] at hsplit
          obtain ⟨habove, -⟩ := append_inj' hsplit rfl
          exact hquiet pre overlay' post' habove
      rw [hhit, hdraw, ih hchecked' hrendered' hquiet']
      constructor
      · rintro h (_ | ⟨o, mid⟩) overlay' rest hsplit hquiet''
        · cases hsplit
          rw [append_nil]
          exact ⟨fun h => absurd h hblocks, fun h => absurd h hcatches, fun h => absurd h hshows⟩
        · cases hsplit
          rw [append_cons] at hquiet'' ⊢
          exact h mid overlay' rest rfl hquiet''
      · intro h mid overlay' rest hsplit hquiet''
        rw [← append_cons] at hquiet'' ⊢
        exact h (overlay :: mid) overlay' rest (by rw [hsplit]; rfl) hquiet''

end Loops

/-- **Hit testing.**  The surface that the hit test finds is the one under the point of the topmost
interactive overlay that is drawn and has the point in its input, exactly where, down to the first
overlay that is shown under the point or ends the hit test, one that is not resolved hides none that
is shown below, one that has the point in its input is drawn where it is, with the layer surface
that is found, and one that is shown has the point in its rectangle. -/
theorem surfaceUnder_eq_iff (ui : CursorOverlayUi) (niri : Niri WindowId Output WlSurface)
    (output : Output) (layerMap : LayerMap) (p : Point ℚ) {order order' : List String}
    (horder : HashMap.Lists order ui.overlays) (horder' : HashMap.Lists order' ui.overlays) :
    ui.surfaceUnder niri output layerMap p order =
        topmostUnder niri p (ui.renderOutput niri output layerMap order') ↔
      HitsFaithfully niri output layerMap p (ui.sorted order) := by
  unfold CursorOverlayUi.surfaceUnder CursorOverlayUi.renderOutput
  rw [ui.sorted_eq horder' horder]
  have hquiet : Quiet niri output layerMap p [] := by
    intro pre overlay post hsplit
    simp at hsplit
  have hchecked : Checked [] ∅ := fun n => by simp
  have hrendered : Rendered [] ∅ := fun n => by simp
  exact loops_eq_iff hchecked hrendered hquiet

/-! ### Two overlays -/

/-- An overlay beside the anchor. -/
def plainOverlay (overlayId layerNamespace : String) (anchor : CursorOverlayAnchor)
    (interactive : Bool) (zIndex : ℤ) : RegisteredCursorOverlay where
  overlayId := overlayId
  layerNamespace := layerNamespace
  anchor := anchor
  placement := CursorOverlayPlacement.default
  visible := true
  interactive := interactive
  keyboardFocus := false
  zIndex := zIndex

/-- A layer surface that takes input in a square. -/
def plainNiri : Niri Unit Unit ℕ where
  tabletCursorLocation := none
  pointerLocation := ⟨10, 10⟩
  outputGeometry := fun _ => some ⟨⟨0, 0⟩, ⟨1000, 1000⟩⟩
  outputSize := fun _ => ⟨1000, 1000⟩
  monitorForOutput := fun _ => none
  interactiveMove := none
  cursors := ∅
  mappedLayerSurfaces := {⟨0, "menu"⟩, ⟨1, "hint"⟩}
  bobOffset := fun _ => ⟨0, 0⟩
  surfaceUnder := fun surface p =>
    if 0 ≤ p.x ∧ p.x < 100 ∧ 0 ≤ p.y ∧ p.y < 100 then some surface.id else none
  surfaceOrigin := fun _ _ => ⟨0, 0⟩

/-- The layer surfaces. -/
def plainLayers : LayerMap where
  layersOnOverlay := [⟨0, "menu"⟩, ⟨1, "hint"⟩]
  layerGeometry := fun _ => some ⟨⟨0, 0⟩, ⟨100, 100⟩⟩

/-- The overlays, each under its id. -/
def CursorOverlayUi.ofTwo (a b : RegisteredCursorOverlay) : CursorOverlayUi where
  overlays := ((∅ : HashMap String RegisteredCursorOverlay).insert a.overlayId a).insert
    b.overlayId b
  keyed := ((HashMap.keyed_empty RegisteredCursorOverlay.overlayId).insert rfl).insert rfl

/-- The upper overlay is anchored to a virtual cursor that is not there. -/
def unresolvedUi : CursorOverlayUi :=
  .ofTwo (plainOverlay "hint" "hint" .hardwarePointer true 0)
    (plainOverlay "menu" "menu" (.virtualCursor "gone") true 1)

/-- Both overlays have one namespace, and the upper one is not interactive. -/
def sharedUi : CursorOverlayUi :=
  .ofTwo (plainOverlay "below" "hint" .hardwarePointer true 0)
    (plainOverlay "above" "hint" .hardwarePointer false 1)

/-- An overlay that is not resolved hides one that is drawn, and one that is not drawn catches
input. -/
theorem surfaceUnder_ne_drawn :
    unresolvedUi.surfaceUnder plainNiri () plainLayers ⟨50, 50⟩ ["hint", "menu"] = none ∧
    (topmostUnder plainNiri ⟨50, 50⟩
      (unresolvedUi.renderOutput plainNiri () plainLayers ["hint", "menu"])).isSome = true ∧
    (sharedUi.surfaceUnder plainNiri () plainLayers ⟨50, 50⟩ ["below", "above"]).isSome = true ∧
    topmostUnder plainNiri ⟨50, 50⟩
      (sharedUi.renderOutput plainNiri () plainLayers ["below", "above"]) = none := by
  decide +kernel

/-- The overlays in either order. -/
theorem surfaceUnder_eq_iff_unresolvedUi :
    unresolvedUi.surfaceUnder plainNiri () plainLayers ⟨50, 50⟩ ["hint", "menu"] =
        topmostUnder plainNiri ⟨50, 50⟩
          (unresolvedUi.renderOutput plainNiri () plainLayers ["menu", "hint"]) ↔
      HitsFaithfully plainNiri () plainLayers ⟨50, 50⟩ (unresolvedUi.sorted ["hint", "menu"]) :=
  surfaceUnder_eq_iff unresolvedUi plainNiri () plainLayers ⟨50, 50⟩ (by decide +kernel)
    (by decide +kernel)

end Tiri.Ui
