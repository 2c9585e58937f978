import Tiri.Input.KeyFilter

/-!
# Binds of buttons, the wheel and the touchpad

`mods_with_binds` of `src/input/mod.rs` (lines 5581–5638) and the sets computed with it: before a
click or a scroll is looked up among the binds with `find_configured_bind` (lines 5057–5089), the
modifiers of the state are looked up in the set of those that some bind has.

The two treat the compositor key differently.  The lookup adds the compositor flag beside the
physical modifier, in the bind and in the state; the set has the physical modifier in place of the
flag.  `physical` is the second, and a bind's modifiers expand to those of the state exactly when
they are the state's physically.

Results:
* `findConfiguredBind_eq_find`: the lookup finds the first bind with the trigger and the state's
  physical modifiers;
* `mem_modsWithBinds`: what is in a set;
* `mem_modsWithBinds_iff_found`: the set and the lookup agree, for any triggers;
* `prefilter_agrees`: all of it.
-/

namespace Tiri.Input

open NiriConfig (Modifiers Trigger Bind)

/-! ## The sets -/

variable (modKey : ModKey)

/-- The modifiers with the modifier key in place of the compositor flag. -/
def physical (mods : Modifiers) : Modifiers :=
  if mods.contains Modifiers.compositor then
    mods &&& ~~~Modifiers.compositor ||| modKey.toModifiers
  else mods

/-- `mods_with_binds` (`input/mod.rs`, lines 5581–5598). -/
def modsWithBinds (binds : List Bind) (triggers : List Trigger) : Finset Modifiers :=
  binds.foldl
    (fun rv bind =>
      if bind.key.trigger ∈ triggers then insert (physical modKey bind.key.modifiers) rv else rv)
    ∅

def modsWithMouseBinds (binds : List Bind) : Finset Modifiers :=
  modsWithBinds modKey binds
    [.mouseLeft, .mouseRight, .mouseMiddle, .mouseBack, .mouseForward]

def modsWithWheelBinds (binds : List Bind) : Finset Modifiers :=
  modsWithBinds modKey binds
    [.wheelScrollUp, .wheelScrollDown, .wheelScrollLeft, .wheelScrollRight]

def modsWithFingerScrollBinds (binds : List Bind) : Finset Modifiers :=
  modsWithBinds modKey binds
    [.touchpadScrollUp, .touchpadScrollDown, .touchpadScrollLeft, .touchpadScrollRight]

variable {binds : List Bind}

theorem mem_modsWithBinds {modKey : ModKey} {triggers : List Trigger} {mods : Modifiers} :
    mods ∈ modsWithBinds modKey binds triggers ↔
      ∃ bind ∈ binds, bind.key.trigger ∈ triggers ∧ physical modKey bind.key.modifiers = mods := by
  suffices h : ∀ rv : Finset Modifiers, mods ∈ binds.foldl (fun rv bind =>
          if bind.key.trigger ∈ triggers then insert (physical modKey bind.key.modifiers) rv
          else rv) rv ↔
        mods ∈ rv ∨ ∃ bind ∈ binds,
          bind.key.trigger ∈ triggers ∧ physical modKey bind.key.modifiers = mods by
    simpa [modsWithBinds] using h ∅
  induction binds with
  | nil => simp
  | cons bind binds ih =>
    intro rv
    rw [List.foldl_cons, ih]
    by_cases htrigger : bind.key.trigger ∈ triggers
    · rw [if_pos htrigger, Finset.mem_insert, List.exists_mem_cons_iff]
      constructor
      · rintro ((hmods | hrv) | hrest)
        · exact .inr (.inl ⟨htrigger, hmods.symm⟩)
        · exact .inl hrv
        · exact .inr (.inr hrest)
      · rintro (hrv | ⟨-, hmods⟩ | hrest)
        · exact .inl (.inr hrv)
        · exact .inl (.inl hmods.symm)
        · exact .inr hrest
    · rw [if_neg htrigger, List.exists_mem_cons_iff]
      constructor
      · rintro (hrv | hrest)
        · exact .inl hrv
        · exact .inr (.inr hrest)
      · rintro (hrv | ⟨hin, -⟩ | hrest)
        · exact .inl hrv
        · exact absurd hin htrigger
        · exact .inr hrest

/-! ## The two ways to expand the compositor key -/

/-- What `find_configured_bind` makes of the modifiers of a bind. -/
def expandedBind (mods : Modifiers) : Modifiers :=
  if mods.contains Modifiers.compositor then mods ||| modKey.toModifiers
  else if mods.contains modKey.toModifiers then mods ||| Modifiers.compositor
  else mods

/-- What it makes of those of the state. -/
def expandedState (mods : Modifiers) : Modifiers :=
  if mods.contains modKey.toModifiers then mods ||| Modifiers.compositor else mods

variable (mods : Modifiers)

/-- Expanding a bind is expanding its physical modifiers, the flag is gone from these, and without
the flag expanding can be taken back: true of each of the 256 bytes. -/
theorem expanding :
    expandedBind modKey mods = expandedState modKey (physical modKey mods) ∧
      physical modKey mods &&& Modifiers.compositor = 0 ∧
      (mods &&& Modifiers.compositor = 0 →
        expandedState modKey mods &&& ~~~Modifiers.compositor = mods) := by
  have hall : ∀ modKey, ∀ i : Fin 256,
      expandedBind modKey (.ofFin i) = expandedState modKey (physical modKey (.ofFin i)) ∧
        physical modKey (.ofFin i) &&& Modifiers.compositor = 0 ∧
        (UInt8.ofFin i &&& Modifiers.compositor = 0 →
          expandedState modKey (.ofFin i) &&& ~~~Modifiers.compositor = .ofFin i) := by
    intro modKey
    cases modKey <;> decide +kernel
  have hmods := hall modKey mods.toFin
  rwa [UInt8.ofFin_toFin] at hmods

/-- A state has physical modifiers only. -/
theorem modifiersFromState_and_compositor (mods : ModifiersState) :
    modifiersFromState mods &&& Modifiers.compositor = 0 := by
  have hall : ∀ ctrl alt shift logo level3 level5 : Bool,
      modifiersFromState ⟨ctrl, alt, shift, logo, level3, level5⟩ &&& Modifiers.compositor = 0 := by
    decide
  exact hall ..

/-- **The two ways agree** on which modifiers of a bind are those of the state. -/
theorem expanded_eq_iff (state : ModifiersState) :
    expandedBind modKey mods = expandedState modKey (modifiersFromState state) ↔
      physical modKey mods = modifiersFromState state := by
  obtain ⟨heq, hphysical, -⟩ := expanding modKey mods
  rw [heq]
  constructor
  · intro h
    have hbind := (expanding modKey _).2.2 hphysical
    have hstate := (expanding modKey _).2.2 (modifiersFromState_and_compositor state)
    rw [← hbind, h, hstate]
  · intro h
    rw [h]

/-! ## The lookup -/

/-- **The first bind** with the trigger whose physical modifiers are those of the state. -/
theorem findConfiguredBind_eq_find (binds : List Bind) (modKey : ModKey) (trigger : Trigger)
    (mods : ModifiersState) :
    findConfiguredBind binds modKey trigger mods = binds.find? fun bind =>
        bind.key.trigger = trigger ∧
          physical modKey bind.key.modifiers = modifiersFromState mods := by
  have hpred : ∀ bind : Bind, (bind.key.trigger == trigger &&
        expandedBind modKey bind.key.modifiers ==
          expandedState modKey (modifiersFromState mods)) =
        decide (bind.key.trigger = trigger ∧
          physical modKey bind.key.modifiers = modifiersFromState mods) := by
    intro bind
    rw [Bool.eq_iff_iff, Bool.and_eq_true, beq_iff_eq, beq_iff_eq, decide_eq_true_eq,
      expanded_eq_iff]
  exact congrArg (fun p => binds.find? p) (funext hpred)

theorem findConfiguredBind_isSome {modKey : ModKey} {trigger : Trigger} {mods : ModifiersState} :
    (findConfiguredBind binds modKey trigger mods).isSome ↔
      ∃ bind ∈ binds, bind.key.trigger = trigger ∧
        physical modKey bind.key.modifiers = modifiersFromState mods := by
  rw [findConfiguredBind_eq_find, List.find?_isSome]
  simp only [decide_eq_true_eq]

/-- **The set and the lookup agree**, whatever the triggers are. -/
theorem mem_modsWithBinds_iff_found (binds : List Bind) (modKey : ModKey) (triggers : List Trigger)
    (mods : ModifiersState) :
    modifiersFromState mods ∈ modsWithBinds modKey binds triggers ↔
      ∃ trigger ∈ triggers, (findConfiguredBind binds modKey trigger mods).isSome := by
  rw [mem_modsWithBinds]
  constructor
  · rintro ⟨bind, hbind, htrigger, hmods⟩
    exact ⟨_, htrigger, findConfiguredBind_isSome.mpr ⟨bind, hbind, rfl, hmods⟩⟩
  · rintro ⟨trigger, htrigger, hfound⟩
    obtain ⟨bind, hbind, rfl, hmods⟩ := findConfiguredBind_isSome.mp hfound
    exact ⟨bind, hbind, htrigger, hmods⟩

/-- **Nothing is filtered out that is bound.**  The modifiers of a state are in the set of the
mouse, the wheel or the touchpad exactly when a bind is found for one of its triggers; and the bind
that is found is the first of the list that has the trigger and, with the compositor key expanded,
the modifiers of the state. -/
theorem prefilter_agrees (binds : List Bind) (modKey : ModKey) (mods : ModifiersState) :
    (modifiersFromState mods ∈ modsWithMouseBinds modKey binds ↔
        ∃ trigger ∈ ([.mouseLeft, .mouseRight, .mouseMiddle, .mouseBack, .mouseForward] :
            List Trigger), (findConfiguredBind binds modKey trigger mods).isSome) ∧
      (modifiersFromState mods ∈ modsWithWheelBinds modKey binds ↔
        ∃ trigger ∈ ([.wheelScrollUp, .wheelScrollDown, .wheelScrollLeft, .wheelScrollRight] :
            List Trigger), (findConfiguredBind binds modKey trigger mods).isSome) ∧
      (modifiersFromState mods ∈ modsWithFingerScrollBinds modKey binds ↔
        ∃ trigger ∈ ([.touchpadScrollUp, .touchpadScrollDown, .touchpadScrollLeft,
            .touchpadScrollRight] : List Trigger),
          (findConfiguredBind binds modKey trigger mods).isSome) ∧
      ∀ trigger, findConfiguredBind binds modKey trigger mods = binds.find? fun bind =>
          bind.key.trigger = trigger ∧
            physical modKey bind.key.modifiers = modifiersFromState mods :=
  ⟨mem_modsWithBinds_iff_found binds modKey _ mods, mem_modsWithBinds_iff_found binds modKey _ mods,
    mem_modsWithBinds_iff_found binds modKey _ mods,
    fun trigger => findConfiguredBind_eq_find binds modKey trigger mods⟩

end Tiri.Input
