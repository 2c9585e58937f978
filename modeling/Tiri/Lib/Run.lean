import Mathlib.Data.List.Induction

/-!
# Runs of a partial step function

`step s e` is the state after the event `e`, `none` where the event cannot happen in `s`.  A run
is the list of its events.

Results:
* `exec_append`: a run is taken in parts;
* `exec_induction`: what the start has and every step hands on, with the events so far;
* `exec_invariant`: what every step keeps;
* `happened_concat`: what has happened in a run, one event at a time;
* `Along.always`: what an invariant of careful steps gives holds in every state of careful runs;
* `always_iff_along`: a property that a step keeps exactly under a condition holds all along a
  run exactly when every step of the run meets the condition.
-/

namespace Tiri.Run

open Option

variable {σ ε : Type*} {step : σ → ε → Option σ} {I : σ → Prop} {C : σ → ε → Prop}

/-- The state after a run. -/
def exec (step : σ → ε → Option σ) : σ → List ε → Option σ
  | s, [] => some s
  | s, e :: es => (step s e).bind fun s' => exec step s' es

@[simp] theorem exec_nil (s : σ) : exec step s [] = some s := rfl

theorem exec_cons (s : σ) (e : ε) (es : List ε) :
    exec step s (e :: es) = (step s e).bind fun s' => exec step s' es := rfl

variable {es : List ε} {s t : σ} {e : ε}

theorem exec_cons_eq_some :
    exec step s (e :: es) = some t ↔ ∃ s', step s e = some s' ∧ exec step s' es = some t := by
  rw [exec_cons, bind_eq_some_iff]

theorem exec_append (s : σ) (es fs : List ε) :
    exec step s (es ++ fs) = (exec step s es).bind fun s' => exec step s' fs := by
  induction es generalizing s with
  | nil => rfl
  | cons e es ih =>
    rw [List.cons_append, exec_cons, exec_cons, bind_assoc]
    congr 1
    funext s'
    exact ih s'

theorem exec_append_eq_some {es fs : List ε} :
    exec step s (es ++ fs) = some t ↔
      ∃ s', exec step s es = some s' ∧ exec step s' fs = some t := by
  rw [exec_append, bind_eq_some_iff]

theorem exec_concat_eq_some :
    exec step s (es ++ [e]) = some t ↔
      ∃ s', exec step s es = some s' ∧ step s' e = some t := by
  rw [exec_append_eq_some]
  constructor
  · rintro ⟨s', hs, ht⟩
    obtain ⟨t', hstep, ht⟩ := exec_cons_eq_some.mp ht
    rw [exec_nil, some.injEq] at ht
    exact ⟨s', hs, by rw [hstep, ht]⟩
  · rintro ⟨s', hs, ht⟩
    exact ⟨s', hs, exec_cons_eq_some.mpr ⟨t, ht, rfl⟩⟩

/-- **Induction along a run**, with the events taken so far. -/
theorem exec_induction {P : List ε → σ → Prop} {s₀ : σ} (start : P [] s₀)
    (next : ∀ es s e s', exec step s₀ es = some s → P es s → step s e = some s' →
      P (es ++ [e]) s') {s : σ} (h : exec step s₀ es = some s) : P es s := by
  induction es using List.reverseRecOn generalizing s with
  | nil =>
    rw [exec_nil, some.injEq] at h
    exact h ▸ start
  | append_singleton es e ih =>
    obtain ⟨s', hs', hstep⟩ := exec_concat_eq_some.mp h
    exact next es s' e s hs' (ih hs') hstep

/-- What every step keeps holds at the end of a run. -/
theorem exec_invariant (hI : ∀ s e s', I s → step s e = some s' → I s') (hs : I s)
    (h : exec step s es = some t) : I t :=
  exec_induction (P := fun _ s => I s) hs (fun _ s e s' _ his hstep => hI s e s' his hstep) h

/-- An event of the run was taken in a state where `C` holds of the two. -/
def Happened (step : σ → ε → Option σ) (C : σ → ε → Prop) : σ → List ε → Prop
  | _, [] => False
  | s, e :: es => C s e ∨ ∃ s', step s e = some s' ∧ Happened step C s' es

theorem happened_concat (h : exec step s es = some t) (e : ε) :
    Happened step C s (es ++ [e]) ↔ Happened step C s es ∨ C t e := by
  induction es generalizing s with
  | nil =>
    rw [exec_nil, some.injEq] at h
    subst h
    constructor
    · rintro (hC | ⟨_, _, hfalse⟩)
      · exact .inr hC
      · exact hfalse.elim
    · rintro (hfalse | hC)
      · exact hfalse.elim
      · exact .inl hC
  | cons e' es ih =>
    obtain ⟨s', hs', h⟩ := exec_cons_eq_some.mp h
    have hrest := ih h
    constructor
    · rintro (hC | ⟨s'', hs'', hlater⟩)
      · exact .inl (.inl hC)
      · rw [hs', some.injEq] at hs''
        subst hs''
        rcases hrest.mp hlater with hlater | hC
        · exact .inl (.inr ⟨s', hs', hlater⟩)
        · exact .inr hC
    · rintro ((hC | ⟨s'', hs'', hlater⟩) | hC)
      · exact .inl hC
      · rw [hs', some.injEq] at hs''
        subst hs''
        exact .inr ⟨s', hs', hrest.mpr (.inl hlater)⟩
      · exact .inr ⟨s', hs', hrest.mpr (.inr hC)⟩

variable {C' : σ → ε → Prop}

theorem Happened.mono (hC : ∀ s e, C s e → C' s e) {s : σ} (h : Happened step C s es) :
    Happened step C' s es := by
  induction es generalizing s with
  | nil => exact h
  | cons e es ih =>
    rcases h with h | ⟨s', hstep, h⟩
    · exact .inl (hC s e h)
    · exact .inr ⟨s', hstep, ih h⟩

/-- Every step of the run meets the condition in the state it is taken from. -/
def Along (step : σ → ε → Option σ) (C : σ → ε → Prop) : σ → List ε → Prop
  | _, [] => True
  | s, e :: es => ∀ s', step s e = some s' → C s e ∧ Along step C s' es

/-- The steps of a concrete run can be checked. -/
instance decidableAlong [∀ s e, Decidable (C s e)] :
    (s : σ) → (es : List ε) → Decidable (Along step C s es)
  | _, [] => isTrue trivial
  | s, e :: es =>
    match h : step s e with
    | none => isTrue fun _ hs' => nomatch h.symm.trans hs'
    | some s' =>
      have : Decidable (Along step C s' es) := decidableAlong s' es
      decidable_of_iff (C s e ∧ Along step C s' es)
        ⟨fun hC _ hs' => some.inj (h.symm.trans hs') ▸ hC, fun hC => hC s' h⟩

/-- Every state of the run has the property. -/
def Always (step : σ → ε → Option σ) (I : σ → Prop) : σ → List ε → Prop
  | s, [] => I s
  | s, e :: es => I s ∧ ∀ s', step s e = some s' → Always step I s' es

theorem Always.start {s : σ} (h : Always step I s es) : I s := by
  cases es with
  | nil => exact h
  | cons e es => exact h.1

/-- The property holds at the end of the run. -/
theorem Always.finish (h : Always step I s es) (ht : exec step s es = some t) : I t := by
  induction es generalizing s with
  | nil =>
    rw [exec_nil, some.injEq] at ht
    exact ht ▸ h
  | cons e es ih =>
    obtain ⟨s', hstep, ht⟩ := exec_cons_eq_some.mp ht
    exact ih (h.2 s' hstep) ht

variable {J : σ → Prop}

/-- Under an invariant `J` of the steps. -/
theorem always_iff_along (hJ : ∀ s e s', J s → step s e = some s' → J s')
    (hI : ∀ s e s', J s → I s → step s e = some s' → (I s' ↔ C s e)) {s : σ} (hJs : J s)
    (hs : I s) : Always step I s es ↔ Along step C s es := by
  induction es generalizing s with
  | nil => exact ⟨fun _ => trivial, fun _ => hs⟩
  | cons e es ih =>
    constructor
    · intro h s' hstep
      have hs' : I s' := (h.2 s' hstep).start
      have hJs' : J s' := hJ s e s' hJs hstep
      exact ⟨(hI s e s' hJs hs hstep).mp hs', (ih hJs' hs').mp (h.2 s' hstep)⟩
    · intro h
      refine ⟨hs, fun s' hstep => ?_⟩
      obtain ⟨hC, hrest⟩ := h s' hstep
      have hJs' : J s' := hJ s e s' hJs hstep
      exact (ih hJs' ((hI s e s' hJs hs hstep).mpr hC)).mpr hrest

/-- An invariant of the steps that meet the condition holds at the end of a run of such steps. -/
theorem along_invariant (hI : ∀ s e s', I s → C s e → step s e = some s' → I s') (hs : I s)
    (hC : Along step C s es) (h : exec step s es = some t) : I t := by
  induction es generalizing s with
  | nil =>
    rw [exec_nil, some.injEq] at h
    exact h ▸ hs
  | cons e es ih =>
    obtain ⟨s', hstep, h⟩ := exec_cons_eq_some.mp h
    obtain ⟨hCs, hrest⟩ := hC s' hstep
    exact ih (hI s e s' hs hCs hstep) hrest h

/-- What an invariant of the steps that meet the condition gives holds in every state of a run of
    such steps. -/
theorem Along.always (hJ : ∀ s e s', J s → C s e → step s e = some s' → J s') (hI : ∀ s, J s → I s)
    {s : σ} (hs : J s) (h : Along step C s es) : Always step I s es := by
  induction es generalizing s with
  | nil => exact hI s hs
  | cons e es ih =>
    refine ⟨hI s hs, fun s' hstep => ?_⟩
    obtain ⟨hCs, hrest⟩ := h s' hstep
    exact ih (hJ s e s' hs hCs hstep) hrest

theorem Along.mono (hC : ∀ s e, C s e → C' s e) {s : σ} (h : Along step C s es) :
    Along step C' s es := by
  induction es generalizing s with
  | nil => trivial
  | cons e es ih => exact fun s' hstep => ⟨hC s e (h s' hstep).1, ih (h s' hstep).2⟩

/-- What an invariant gives at every step of a run of steps that meet the condition. -/
theorem Along.of_invariant (hJ : ∀ s e s', J s → C s e → step s e = some s' → J s')
    (hC : ∀ s e s', J s → C s e → step s e = some s' → C' s e) {s : σ} (hs : J s)
    (h : Along step C s es) : Along step C' s es := by
  induction es generalizing s with
  | nil => trivial
  | cons e es ih =>
    intro s' hstep
    obtain ⟨hCs, hrest⟩ := h s' hstep
    exact ⟨hC s e s' hs hCs hstep, ih (hJ s e s' hs hCs hstep) hrest⟩

/-- Two conditions along a run. -/
theorem along_and {s : σ} :
    Along step (fun s e => C s e ∧ C' s e) s es ↔ Along step C s es ∧ Along step C' s es := by
  induction es generalizing s with
  | nil => exact ⟨fun _ => ⟨trivial, trivial⟩, fun _ => trivial⟩
  | cons e es ih =>
    constructor
    · intro h
      refine ⟨fun s' hstep => ?_, fun s' hstep => ?_⟩
      · obtain ⟨⟨hC, -⟩, hrest⟩ := h s' hstep
        exact ⟨hC, (ih.mp hrest).1⟩
      · obtain ⟨⟨-, hC'⟩, hrest⟩ := h s' hstep
        exact ⟨hC', (ih.mp hrest).2⟩
    · rintro ⟨h, h'⟩ s' hstep
      exact ⟨⟨(h s' hstep).1, (h' s' hstep).1⟩, ih.mpr ⟨(h s' hstep).2, (h' s' hstep).2⟩⟩

/-- Conditions that are the same under an invariant of the steps. -/
theorem along_congr (hJ : ∀ s e s', J s → step s e = some s' → J s')
    (hC : ∀ s e s', J s → step s e = some s' → (C s e ↔ C' s e)) {s : σ} (hs : J s) :
    Along step C s es ↔ Along step C' s es := by
  induction es generalizing s with
  | nil => exact Iff.rfl
  | cons e es ih =>
    refine forall_congr' fun s' => imp_congr_right fun hstep => ?_
    exact and_congr (hC s e s' hs hstep) (ih (hJ s e s' hs hstep))

/-- The condition holds along the rest of a run. -/
theorem Along.drop {es fs : List ε} (hC : Along step C s (es ++ fs)) (h : exec step s es = some t) :
    Along step C t fs := by
  induction es generalizing s with
  | nil =>
    rw [exec_nil, some.injEq] at h
    exact h ▸ hC
  | cons e es ih =>
    obtain ⟨s', hstep, h⟩ := exec_cons_eq_some.mp h
    exact ih (hC s' hstep).2 h

end Tiri.Run
