import Tiri.Compositor.Placement

/-!
# Outputs that do not overlap

A configured position is checked with the size of the output rounded to the nearest pixel, and the
space rounds it up.

Results:
* `roundHalfAway_le_ceil`: what is checked is not larger than what is mapped;
* `placeOutput_eq_some`: an output is put where it is configured, or to the right of the others;
* `repositionOutputs_iff`: the outputs do not overlap exactly where no output is mapped over others
  that its rounded size does not reach.
-/

namespace Tiri.Placement

open Utils (Point Size Rectangle)
open List
open Option
open Utils.Rectangle (i32Max saturatingAdd)

/-! ## Sizes -/

theorem roundHalfAway_le_ceil (x : ℚ) : Layout.roundHalfAway x ≤ ⌈x⌉ := by
  unfold Layout.roundHalfAway
  have hceil : x ≤ ⌈x⌉ := Int.le_ceil x
  split
  · have hlt : x + 1 / 2 < (⌈x⌉ + 1 : ℤ) := by
      push_cast
      linarith
    have hfloor : ⌊x + 1 / 2⌋ < ⌈x⌉ + 1 := Int.floor_lt.mpr hlt
    omega
  · have hle : ⌊-x⌋ ≤ ⌊-x + 1 / 2⌋ := Int.floor_le_floor (by linarith)
    rw [Int.floor_neg] at hle
    omega

theorem round_le_geometry (output : Output) (loc : Point ℤ) :
    output.size.toI32Round.w ≤ (output.geometry loc).size.w ∧
      output.size.toI32Round.h ≤ (output.geometry loc).size.h :=
  ⟨roundHalfAway_le_ceil _, roundHalfAway_le_ceil _⟩

theorem saturatingAdd_le (a b : ℤ) : saturatingAdd a b ≤ a + b := min_le_left _ _

variable {output : Output} {pos : Point ℤ}

/-- What the check finds in the way overlaps the output that is mapped. -/
theorem overlaps_of_overlapsI32 {geom : Rectangle ℤ}
    (h : geom.overlapsI32 ⟨pos, output.size.toI32Round⟩ = true) :
    geom.overlaps (output.geometry pos) = true := by
  obtain ⟨hw, hh⟩ := round_le_geometry output pos
  have hloc : (output.geometry pos).loc = pos := rfl
  unfold Rectangle.overlapsI32 at h
  unfold Rectangle.overlaps
  simp only [Bool.and_eq_true, decide_eq_true_eq] at h ⊢
  rw [hloc]
  have hx := saturatingAdd_le pos.x output.size.toI32Round.w
  have hx' := saturatingAdd_le geom.loc.x geom.size.w
  have hy := saturatingAdd_le pos.y output.size.toI32Round.h
  have hy' := saturatingAdd_le geom.loc.y geom.size.h
  refine ⟨⟨⟨?_, ?_⟩, ?_⟩, ?_⟩ <;> omega

/-! ## One output -/

variable {space placed final : Space} {data : Data} {rest : List Data}

/-- Nothing overlaps. -/
def NoOverlap (space : Space) : Prop :=
  space.Pairwise fun a b => (a.1.geometry a.2).overlaps (b.1.geometry b.2) = false

instance (space : Space) : Decidable (NoOverlap space) :=
  inferInstanceAs (Decidable (List.Pairwise _ _))

/-- The output, at the position, overlaps none that is placed. -/
def Fits (placed : Space) (output : Output) (pos : Point ℤ) : Prop :=
  ∀ entry ∈ placed, (entry.1.geometry entry.2).overlaps (output.geometry pos) = false

theorem noOverlap_concat :
    NoOverlap (placed ++ [(output, pos)]) ↔ NoOverlap placed ∧ Fits placed output pos := by
  unfold NoOverlap Fits
  rw [pairwise_append]
  simp

/-- A position where the output fits is not taken. -/
theorem Fits.isTaken (h : Fits placed output pos) :
    placed.isTaken ⟨pos, output.size.toI32Round⟩ = false := by
  unfold Space.isTaken
  rw [List.any_eq_false]
  intro entry hentry htaken
  have hoverlaps := overlaps_of_overlapsI32 htaken
  rw [h entry hentry] at hoverlaps
  cases hoverlaps

theorem rightEdges_spec {edges : List ℤ} (h : placed.rightEdges = some edges) :
    edges = placed.map fun entry => entry.2.x + (entry.1.geometry entry.2).size.w := by
  unfold Space.rightEdges at h
  induction placed generalizing edges with
  | nil =>
    cases h
    rfl
  | cons entry placed ih =>
    rw [mapM_cons] at h
    obtain ⟨x, hx, h⟩ := bind_eq_some_iff.mp h
    obtain ⟨xs, hxs, h⟩ := bind_eq_some_iff.mp h
    cases h
    obtain ⟨-, hx⟩ := ite_none_right_eq_some.mp hx
    cases hx
    rw [map_cons, ih hxs]

/-- An output fits to the right of the others. -/
theorem fits_nextPosition (h : placed.nextPosition = some pos) (output : Output) :
    Fits placed output pos := by
  obtain ⟨edges, hedges, rfl⟩ := map_eq_some_iff.mp h
  intro entry hentry
  have hmem : entry.2.x + (entry.1.geometry entry.2).size.w ∈ edges := by
    rw [rightEdges_spec hedges]
    exact mem_map_of_mem hentry
  obtain ⟨x, hx⟩ : ∃ x, edges.max? = some x := by
    cases hmax : edges.max? with
    | none =>
      rw [List.max?_eq_none_iff.mp hmax] at hmem
      cases hmem
    | some x => exact ⟨x, rfl⟩
  have hle : entry.2.x + (entry.1.geometry entry.2).size.w ≤ x :=
    (List.max?_eq_some_iff.mp hx).2 _ hmem
  unfold Rectangle.overlaps
  rw [hx]
  simp only [Bool.and_eq_false_iff]
  exact .inl (.inl (.inr (decide_eq_false (not_lt.mpr hle))))

/-- An output is put where it is configured, if that is not taken, or to the right of the
others. -/
theorem placeOutput_eq_some (hnew : data.output ∉ placed.outputs)
    (h : placeOutput placed data = some space) :
    ∃ pos, space = placed ++ [(data.output, pos)] ∧
      ((data.config = some pos ∧ placed.isTaken ⟨pos, data.output.size.toI32Round⟩ = false) ∨
        placed.nextPosition = some pos ∧ ∀ pos', data.config = some pos' →
          placed.isTaken ⟨pos', data.output.size.toI32Round⟩ = true) := by
  obtain ⟨pos, hpos, rfl⟩ := map_eq_some_iff.mp h
  refine ⟨pos, by unfold Space.mapOutput; rw [if_neg hnew], ?_⟩
  split at hpos
  · rename_i pos' hrequested
    cases hpos
    obtain ⟨hconfig, hfree⟩ := filter_eq_some_iff.mp hrequested
    exact .inl ⟨hconfig, by simpa using hfree⟩
  · rename_i hrequested
    refine .inr ⟨hpos, fun pos' hconfig => ?_⟩
    rw [hconfig] at hrequested
    simpa using hrequested

/-! ## All outputs -/

section

variable (hnodup : (placed.outputs ++ (data :: rest).map Data.output).Nodup)
include hnodup

/-- The outputs stay apart when the first of them is placed. -/
theorem nodup_concat :
    (Space.outputs (placed ++ [(data.output, pos)]) ++ rest.map Data.output).Nodup := by
  unfold Space.outputs at hnodup ⊢
  rw [map_append, append_assoc]
  exact hnodup

/-- The first output is a new one. -/
theorem notMem_of_nodup :
    data.output ∉ placed.outputs := fun hmem =>
  disjoint_of_nodup_append hnodup hmem (mem_cons_self ..)

end

/-- Outputs that are all new are put behind those that are placed. -/
theorem outputs_placeOutputs (hnodup : (placed.outputs ++ rest.map Data.output).Nodup)
    (h : placeOutputs placed rest = some final) :
    final.outputs = placed.outputs ++ rest.map Data.output ∧ placed <+: final := by
  induction rest generalizing placed with
  | nil =>
    cases h
    exact ⟨(append_nil _).symm, prefix_refl _⟩
  | cons data rest ih =>
    obtain ⟨space, hplace, h⟩ := bind_eq_some_iff.mp h
    obtain ⟨pos, rfl, -⟩ := placeOutput_eq_some (notMem_of_nodup hnodup) hplace
    obtain ⟨hfinal, hprefix⟩ := ih (nodup_concat hnodup) h
    refine ⟨?_, (prefix_append _ _).trans hprefix⟩
    rw [hfinal]
    unfold Space.outputs
    rw [map_append, append_assoc]
    rfl

/-- An output whose configured position the check passes fits there. -/
def Clear (placed : Space) (data : Data) : Prop :=
  ∀ pos, data.config = some pos → placed.isTaken ⟨pos, data.output.size.toI32Round⟩ = false →
    Fits placed data.output pos

/-- Every output is put where it is configured, where it fits there among those placed before it. -/
def PutsWhereConfigured (start : Space) (outputs : List Data) (final : Space) : Prop :=
  ∀ before data after placed, outputs = before ++ data :: after →
    placeOutputs start before = some placed → ∀ pos, data.config = some pos →
      Fits placed data.output pos → (data.output, pos) ∈ final

theorem putsWhereConfigured (hnodup : (placed.outputs ++ rest.map Data.output).Nodup)
    (h : placeOutputs placed rest = some final) : PutsWhereConfigured placed rest final := by
  intro before data after placed' hsplit hbefore pos hconfig hfits
  induction before generalizing placed rest with
  | nil =>
    cases hsplit
    cases hbefore
    obtain ⟨space, hplace, h⟩ := bind_eq_some_iff.mp h
    obtain ⟨pos', rfl, hkept | ⟨-, htaken⟩⟩ :=
      placeOutput_eq_some (notMem_of_nodup hnodup) hplace
    · obtain rfl : pos = pos' := some.inj (hconfig.symm.trans hkept.1)
      exact (outputs_placeOutputs (nodup_concat hnodup) h).2.subset (by simp)
    · have hpos := htaken pos hconfig
      rw [hfits.isTaken] at hpos
      cases hpos
  | cons data' before ih =>
    cases hsplit
    obtain ⟨space, hplace, h⟩ := bind_eq_some_iff.mp h
    obtain ⟨space', hplace', hbefore⟩ := bind_eq_some_iff.mp hbefore
    rw [hplace, some.injEq] at hplace'
    subst hplace'
    obtain ⟨pos', rfl, -⟩ := placeOutput_eq_some (notMem_of_nodup hnodup) hplace
    exact ih (nodup_concat hnodup) h rfl hbefore

/-- Outputs that are put behind others that do not overlap. -/
theorem noOverlap_placeOutputs_iff (hnodup : (placed.outputs ++ rest.map Data.output).Nodup)
    (h : placeOutputs placed rest = some final) (hplaced : NoOverlap placed) :
    NoOverlap final ↔ ∀ before data after placed', rest = before ++ data :: after →
      placeOutputs placed before = some placed' → Clear placed' data := by
  induction rest generalizing placed with
  | nil =>
    cases h
    refine iff_of_true hplaced fun before data after placed' hsplit => ?_
    simp at hsplit
  | cons data rest ih =>
    obtain ⟨space, hplace, h⟩ := bind_eq_some_iff.mp h
    obtain ⟨pos, rfl, hpos⟩ := placeOutput_eq_some (notMem_of_nodup hnodup) hplace
    have hnodup' : (Space.outputs (placed ++ [(data.output, pos)]) ++
        rest.map Data.output).Nodup := nodup_concat hnodup
    have hprefix : placed ++ [(data.output, pos)] <+: final := (outputs_placeOutputs hnodup' h).2
    -- The first output fits where it is put exactly if the check does not let it overlap.
    have hfirst : Fits placed data.output pos ↔ Clear placed data := by
      rcases hpos with ⟨hconfig, hfree⟩ | ⟨hnext, htaken⟩
      · constructor
        · rintro hfits pos' hconfig' -
          obtain rfl : pos = pos' := some.inj (hconfig.symm.trans hconfig')
          exact hfits
        · intro hclear
          exact hclear pos hconfig hfree
      · refine iff_of_true (fits_nextPosition hnext data.output) fun pos' hconfig hfree => ?_
        rw [htaken pos' hconfig] at hfree
        cases hfree
    constructor
    · intro hfinal
      have hconcat : NoOverlap (placed ++ [(data.output, pos)]) :=
        hfinal.sublist hprefix.sublist
      rintro (_ | ⟨data', before⟩) data'' after placed' hsplit hbefore
      · cases hsplit
        cases hbefore
        exact hfirst.mp (noOverlap_concat.mp hconcat).2
      · cases hsplit
        obtain ⟨space, hplace', hbefore⟩ := bind_eq_some_iff.mp hbefore
        rw [hplace, some.injEq] at hplace'
        subst hplace'
        exact (ih hnodup' h hconcat).mp hfinal before data'' after placed' rfl hbefore
    · intro hclear
      have hfits : Fits placed data.output pos :=
        hfirst.mpr (hclear [] data rest placed rfl rfl)
      refine (ih hnodup' h (noOverlap_concat.mpr ⟨hplaced, hfits⟩)).mpr ?_
      intro before data' after placed' hsplit hbefore
      refine hclear (data :: before) data' after placed' (by rw [hsplit]; rfl) ?_
      rw [placeOutputs, hplace]
      exact hbefore

/-! ## Repositioning -/

theorem foldl_unmapOutput (sorted : List Data) (space : Space) :
    sorted.foldl (fun space data => space.unmapOutput data.output) space =
      space.filter fun entry => entry.1 ∉ sorted.map Data.output := by
  induction sorted generalizing space with
  | nil => simp
  | cons data sorted ih =>
    rw [foldl_cons, ih, Space.unmapOutput, List.filter_filter]
    congr 1
    funext entry
    rw [← Bool.decide_and]
    exact decide_eq_decide.mpr (by rw [map_cons, mem_cons, not_or, and_comm])

variable {config : NiriConfig.Outputs} {newOutput : Option Output} {sorted : List Data}

variable {niri : Niri}

/-- The space is empty before the outputs are placed. -/
theorem foldl_unmapOutput_eq_nil
    (hsort : SortOf compareNames (niri.collect config newOutput) sorted) :
    sorted.foldl (fun space data => space.unmapOutput data.output) niri.globalSpace = [] := by
  rw [foldl_unmapOutput, filter_eq_nil_iff]
  intro entry hentry
  rw [decide_eq_true_eq, not_not, (hsort.perm.map Data.output).mem_iff]
  unfold Niri.collect Data.collect
  rw [List.map_map, List.mem_map]
  exact ⟨entry.1, mem_append_left _ (mem_map_of_mem hentry), rfl⟩

theorem map_output_collect (config : NiriConfig.Outputs) (outputs : List Output) :
    (Data.collect config outputs).map Data.output = outputs := by
  unfold Data.collect
  rw [List.map_map]
  exact map_id outputs

/-- The outputs that are placed. -/
theorem map_output_sorted (hsort : SortOf compareNames (niri.collect config newOutput) sorted) :
    ((sortBy compareConfig sorted).map Data.output).Perm
      (niri.globalSpace.outputs ++ newOutput.toList) := by
  have hperm := (perm_sortBy compareConfig sorted).trans hsort.perm
  have hmap := hperm.map Data.output
  unfold Niri.collect at hmap
  rw [map_output_collect] at hmap
  exact hmap

/-- **Outputs do not overlap.**  After the outputs are placed, none overlaps another and each is put
where it is configured if it fits there, exactly where each output whose configured position the
check passes fits there with its size rounded up. -/
theorem repositionOutputs_iff {niri niri' : Niri} {config : NiriConfig.Outputs}
    {newOutput : Option Output} {sorted : List Data}
    (hnodup : (niri.globalSpace.outputs ++ newOutput.toList).Nodup)
    (hsort : SortOf compareNames (niri.collect config newOutput) sorted)
    (h : niri.repositionOutputs sorted = some niri') :
    (NoOverlap niri'.globalSpace ∧
        PutsWhereConfigured [] (sortBy compareConfig sorted) niri'.globalSpace) ↔
      ∀ before data after placed, sortBy compareConfig sorted = before ++ data :: after →
        placeOutputs [] before = some placed → Clear placed data := by
  obtain ⟨final, hfinal, rfl⟩ := map_eq_some_iff.mp h
  rw [foldl_unmapOutput_eq_nil hsort] at hfinal
  have hnodup' : (Space.outputs [] ++ (sortBy compareConfig sorted).map Data.output).Nodup :=
    (map_output_sorted hsort).nodup_iff.mpr hnodup
  rw [and_iff_left (putsWhereConfigured hnodup' hfinal)]
  exact noOverlap_placeOutputs_iff hnodup' hfinal List.Pairwise.nil

/-! ### Two outputs -/

/-- A full HD output.  Its logical size is what `f64` divides 1920 and 1080 to, about 1097.14 by
617.14. -/
def fractionalOutput (connector : String) : Output where
  name := ⟨connector, none, none, none⟩
  scale := 7 / 4
  logicalSize := ⟨4825285315039817 / 2 ^ 42, 2714222989709897 / 2 ^ 42⟩
  transform := .normal

/-- The second output is to end where the first begins. -/
def fractionalData : List Data :=
  [⟨fractionalOutput "DP-1", some ⟨0, 0⟩⟩, ⟨fractionalOutput "DP-2", some ⟨-1097, 0⟩⟩]

/-- The config of the outputs. -/
def fractionalConfig : NiriConfig.Outputs :=
  [{ NiriConfig.Output.named "DP-1" with position := some (0, 0) },
    { NiriConfig.Output.named "DP-2" with position := some (-1097, 0) }]

/-- The first output is there, and the second one is added. -/
def fractionalNiri : Niri where
  globalSpace := [(fractionalOutput "DP-1", ⟨0, 0⟩)]
  sortedOutputs := [fractionalOutput "DP-1"]

/-- The outputs overlap in one column of pixels. -/
theorem fractional_overlap : SortOf compareNames
      (fractionalNiri.collect fractionalConfig (some (fractionalOutput "DP-2"))) fractionalData ∧
    ∃ niri, fractionalNiri.repositionOutputs fractionalData = some niri ∧
      ¬ NoOverlap niri.globalSpace := by
  refine ⟨⟨by decide +kernel, by decide +kernel⟩, ?_⟩
  have hrun : (fractionalNiri.repositionOutputs fractionalData).any
      (fun niri => decide (¬ NoOverlap niri.globalSpace)) = true := by decide +kernel
  obtain ⟨niri, hniri, hoverlap⟩ := (any_eq_true _ _).mp hrun
  exact ⟨niri, hniri, of_decide_eq_true hoverlap⟩

/-- The condition, for the two outputs. -/
theorem repositionOutputs_iff_fractional :
    ∃ niri, fractionalNiri.repositionOutputs fractionalData = some niri ∧
      ((NoOverlap niri.globalSpace ∧
          PutsWhereConfigured [] (sortBy compareConfig fractionalData) niri.globalSpace) ↔
        ∀ before data after placed, sortBy compareConfig fractionalData = before ++ data :: after →
          placeOutputs [] before = some placed → Clear placed data) := by
  have hrun : (fractionalNiri.repositionOutputs fractionalData).isSome = true := by
    decide +kernel
  obtain ⟨niri, hniri⟩ := isSome_iff_exists.mp hrun
  have hnodup : (fractionalNiri.globalSpace.outputs ++
      (some (fractionalOutput "DP-2")).toList).Nodup := by decide +kernel
  have hsort : SortOf compareNames
      (fractionalNiri.collect fractionalConfig (some (fractionalOutput "DP-2")))
      fractionalData := ⟨by decide +kernel, by decide +kernel⟩
  exact ⟨niri, hniri, repositionOutputs_iff hnodup hsort hniri⟩

end Tiri.Placement
