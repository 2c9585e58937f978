import Tiri.Lib.Run
import Tiri.Compositor.PlacementOverlap

/-!
# Outputs that are plugged in any order

Outputs are added and removed in any order, and placed anew each time.

Results:
* `compare_eq_lex`: names are compared field by field, with those that have no make, model and
  serial behind the others;
* `placed_exec`: the placement is that of the outputs that are there;
* `placement_independent`: it does not depend on the order in which they came.
-/

namespace Tiri.NiriConfig.OutputName

/-! ## Comparing names -/

/-- Those that have none of make, model and serial come last, and the connector decides where the
rest is equal. -/
theorem compare_eq_lex : compare = compareLex (compareOn isMissing)
    (compareLex (compareOn OutputName.make) (compareLex (compareOn OutputName.model)
      (compareLex (compareOn OutputName.serial) (compareOn OutputName.connector)))) := by
  funext a b
  unfold compare compareLex compareOn
  cases ha : a.isMissing with
  | false =>
    cases hb : b.isMissing with
    | false => rfl
    | true => rfl
  | true =>
    cases hb : b.isMissing with
    | false => rfl
    | true =>
      unfold isMissing at ha hb
      simp only [Bool.and_eq_true, Option.isNone_iff_eq_none] at ha hb
      rw [ha.1.1, ha.1.2, ha.2, hb.1.1, hb.1.2, hb.2]
      rfl

instance : Std.TransCmp compare := by
  rw [compare_eq_lex]
  infer_instance

/-- Names that compare as equal have one connector. -/
theorem connector_eq_of_compare {a b : OutputName} (h : compare a b = .eq) :
    a.connector = b.connector := by
  rw [compare_eq_lex] at h
  have hmake := (Ordering.then_eq_eq.mp h).2
  have hmodel := (Ordering.then_eq_eq.mp hmake).2
  have hserial := (Ordering.then_eq_eq.mp hmodel).2
  have hconnector := (Ordering.then_eq_eq.mp hserial).2
  exact Std.LawfulEqCmp.eq_of_compare hconnector

end Tiri.NiriConfig.OutputName

namespace Tiri.Placement

open NiriConfig (OutputName)
open List
open Option
open Run

instance : Std.TransCmp compareNames where
  eq_swap := by
    intro a b
    have hswap : OutputName.compare a.output.name b.output.name =
        (OutputName.compare b.output.name a.output.name).swap := Std.OrientedCmp.eq_swap
    exact hswap
  isLE_trans := by
    intro a b c hab hbc
    have htrans : (OutputName.compare a.output.name c.output.name).isLE = true :=
      Std.TransCmp.isLE_trans (b := b.output.name) hab hbc
    exact htrans

instance : Std.TransCmp compareConfig := inferInstanceAs (Std.TransCmp (compareOn _))

instance (l sorted : List Data) : Decidable (SortOf compareNames l sorted) :=
  decidable_of_iff (sorted.Perm l ∧ sorted.Pairwise fun a b => (compareNames a b).isLE)
    ⟨fun h => ⟨h.1, h.2⟩, fun h => ⟨h.perm, h.sorted⟩⟩

/-! ## Runs -/

/-- What happens, with what the unstable sort leaves of the outputs. -/
inductive Event
  | addOutput (output : Output) (sorted : List Data)
  | removeOutput (output : Output) (sorted : List Data)
  | reloadConfig (sorted : List Data)

/-- The outputs are placed anew. -/
def Niri.reposition (niri : Niri) (config : NiriConfig.Outputs) (newOutput : Option Output)
    (sorted : List Data) : Option Niri :=
  if SortOf compareNames (niri.collect config newOutput) sorted then niri.repositionOutputs sorted
  else none

/-- What an event does, where it can happen: two outputs never have one connector. -/
def step (config : NiriConfig.Outputs) (niri : Niri) : Event → Option Niri
  | .addOutput output sorted =>
    if ∀ other ∈ niri.globalSpace.outputs, other.name.connector ≠ output.name.connector then
      niri.reposition config (some output) sorted
    else none
  | .removeOutput output sorted =>
    if output ∈ niri.globalSpace.outputs then
      { niri with globalSpace := niri.globalSpace.unmapOutput output }.reposition config none sorted
    else none
  | .reloadConfig sorted => niri.reposition config none sorted

/-- There are no outputs yet. -/
def start : Niri := ⟨[], []⟩

/-- The outputs have connectors of their own. -/
def Apart (outputs : List Output) : Prop :=
  (outputs.map fun output => output.name.connector).Nodup

/-- The outputs are placed as they are from an empty space. -/
structure Placed (config : NiriConfig.Outputs) (niri : Niri) : Prop where
  apart : Apart niri.globalSpace.outputs
  placed : ∃ sorted, SortOf compareNames (niri.collect config none) sorted ∧
    placeOutputs [] (sortBy compareConfig sorted) = some niri.globalSpace ∧
    niri.sortedOutputs = (sortBy compareConfig sorted).map Data.output

variable {config : NiriConfig.Outputs} {niri niri' : Niri} {newOutput : Option Output}
variable {sorted : List Data} {es es' : List Event}

theorem placed_start : Placed config start where
  apart := nodup_nil
  placed := ⟨[], ⟨List.Perm.nil, List.Pairwise.nil⟩, rfl, rfl⟩

/-- Outputs with connectors of their own are told apart. -/
theorem Apart.nodup {outputs : List Output} (h : Apart outputs) : outputs.Nodup :=
  List.Nodup.of_map _ h

/-- The outputs that are there, and the new one, are placed. -/
theorem placed_reposition (hapart : Apart (niri.globalSpace.outputs ++ newOutput.toList))
    (h : niri.reposition config newOutput sorted = some niri') : Placed config niri' := by
  obtain ⟨hsort, h⟩ := ite_none_right_eq_some.mp h
  obtain ⟨final, hfinal, rfl⟩ := map_eq_some_iff.mp h
  rw [foldl_unmapOutput_eq_nil hsort] at hfinal
  have hperm := map_output_sorted hsort
  have hnodup : (Space.outputs [] ++ (sortBy compareConfig sorted).map Data.output).Nodup :=
    hperm.nodup_iff.mpr hapart.nodup
  have houtputs : Space.outputs final = (sortBy compareConfig sorted).map Data.output :=
    (outputs_placeOutputs hnodup hfinal).1
  refine ⟨?_, sorted, ⟨hsort.perm.trans ?_, hsort.sorted⟩, hfinal, rfl⟩
  · rw [houtputs]
    exact (hperm.map _).nodup_iff.mpr hapart
  · unfold Niri.collect Data.collect
    rw [houtputs, toList_none, append_nil]
    exact (hperm.map _).symm

/-- Each event. -/
theorem placed_step {e : Event} (h : Placed config niri) (hstep : step config niri e = some niri') :
    Placed config niri' := by
  cases e with
  | addOutput output sorted =>
    obtain ⟨hnew, hstep⟩ := ite_none_right_eq_some.mp hstep
    refine placed_reposition ?_ hstep
    unfold Apart
    rw [map_append, nodup_append]
    refine ⟨h.apart, nodup_singleton _, ?_⟩
    intro connector hconnector connector' hconnector' heq
    obtain ⟨other, hother, rfl⟩ := mem_map.mp hconnector
    obtain rfl := mem_singleton.mp hconnector'
    exact hnew other hother heq
  | removeOutput output sorted =>
    obtain ⟨-, hstep⟩ := ite_none_right_eq_some.mp hstep
    refine placed_reposition ?_ hstep
    rw [toList_none, append_nil]
    have hsublist : (niri.globalSpace.unmapOutput output).outputs.Sublist niri.globalSpace.outputs :=
      filter_sublist.map _
    exact h.apart.sublist (hsublist.map _)
  | reloadConfig sorted =>
    refine placed_reposition ?_ hstep
    rw [toList_none, append_nil]
    exact h.apart

theorem placed_exec (h : exec (step config) start es = some niri) : Placed config niri :=
  exec_invariant (I := Placed config) (fun _ _ _ h hstep => placed_step h hstep) placed_start h

/-- One set of outputs has one placement. -/
theorem Placed.unique (h : Placed config niri) (h' : Placed config niri')
    (houtputs : niri.globalSpace.outputs.Perm niri'.globalSpace.outputs) : niri = niri' := by
  obtain ⟨sorted, hsort, hplaced, hsorted⟩ := h.placed
  obtain ⟨sorted', hsort', hplaced', hsorted'⟩ := h'.placed
  have hcollect : (niri.collect config none).Perm (niri'.collect config none) := by
    unfold Niri.collect Data.collect
    rw [toList_none, append_nil, append_nil]
    exact houtputs.map _
  obtain rfl : sorted = sorted' := by
    refine hsort.unique hsort' hcollect fun a ha b hb hab => ?_
    have hconnector : a.output.name.connector = b.output.name.connector :=
      OutputName.connector_eq_of_compare hab
    unfold Niri.collect Data.collect at ha hb
    rw [toList_none, append_nil] at ha hb
    obtain ⟨output, houtput, rfl⟩ := mem_map.mp ha
    obtain ⟨output', houtput', rfl⟩ := mem_map.mp hb
    rw [inj_on_of_nodup_map h.apart houtput houtput' hconnector]
  have hspace : niri.globalSpace = niri'.globalSpace :=
    some.inj (hplaced.symm.trans hplaced')
  have hsame : niri.sortedOutputs = niri'.sortedOutputs := hsorted.trans hsorted'.symm
  cases niri
  cases niri'
  cases hspace
  cases hsame
  rfl

/-- **Placement does not depend on the order.**  Names are totally ordered, by the connector in the
end, and two runs that end with the same outputs place them at the same positions and sort them in
the same order. -/
theorem placement_independent (config : NiriConfig.Outputs) :
    (Std.TransCmp OutputName.compare ∧
      ∀ a b, OutputName.compare a b = .eq → a.connector = b.connector) ∧
    ∀ es es' niri niri', exec (step config) start es = some niri →
      exec (step config) start es' = some niri' →
      niri.globalSpace.outputs.Perm niri'.globalSpace.outputs →
        niri.globalSpace = niri'.globalSpace ∧ niri.sortedOutputs = niri'.sortedOutputs := by
  refine ⟨⟨inferInstance, fun _ _ => OutputName.connector_eq_of_compare⟩, ?_⟩
  intro es es' niri niri' h h' houtputs
  obtain rfl := (placed_exec h).unique (placed_exec h') houtputs
  exact ⟨rfl, rfl⟩

/-- Two outputs, the second of which comes last. -/
def secondLast : List Event :=
  [.addOutput (fractionalOutput "DP-1") [⟨fractionalOutput "DP-1", some ⟨0, 0⟩⟩],
    .addOutput (fractionalOutput "DP-2") fractionalData]

/-- The first output comes last, and one that is removed comes in between. -/
def firstLast : List Event :=
  [.addOutput (fractionalOutput "DP-2") [⟨fractionalOutput "DP-2", some ⟨-1097, 0⟩⟩],
    .addOutput (fractionalOutput "DP-3")
      [⟨fractionalOutput "DP-2", some ⟨-1097, 0⟩⟩, ⟨fractionalOutput "DP-3", none⟩],
    .addOutput (fractionalOutput "DP-1") (fractionalData ++ [⟨fractionalOutput "DP-3", none⟩]),
    .removeOutput (fractionalOutput "DP-3") fractionalData]

/-- The two outputs are placed in one way. -/
theorem placement_independent_fractional : ∃ niri niri',
    exec (step fractionalConfig) start secondLast = some niri ∧
    exec (step fractionalConfig) start firstLast = some niri' ∧
    niri.globalSpace = niri'.globalSpace := by
  have hrun : (exec (step fractionalConfig) start secondLast).any (fun niri =>
      decide (niri.globalSpace.outputs.Perm
        [fractionalOutput "DP-1", fractionalOutput "DP-2"])) = true := by decide +kernel
  have hrun' : (exec (step fractionalConfig) start firstLast).any (fun niri =>
      decide (niri.globalSpace.outputs.Perm
        [fractionalOutput "DP-1", fractionalOutput "DP-2"])) = true := by decide +kernel
  obtain ⟨niri, hniri, houtputs⟩ := (any_eq_true _ _).mp hrun
  obtain ⟨niri', hniri', houtputs'⟩ := (any_eq_true _ _).mp hrun'
  have hperm : niri.globalSpace.outputs.Perm niri'.globalSpace.outputs :=
    (of_decide_eq_true houtputs).trans (of_decide_eq_true houtputs').symm
  exact ⟨niri, niri', hniri, hniri',
    ((placement_independent fractionalConfig).2 _ _ _ _ hniri hniri' hperm).1⟩

end Tiri.Placement
