import Mathlib.Algebra.Order.Ring.Rat
import Tiri.Lib.MapSum
import Tiri.Lib.Sort

/-!
# Virtual cursors

`src/ui/virtual_cursors.rs`: cursors that clients pin to a window.

A position is a pair of exact rationals.  What is drawn, and where the cursor is while it moves, is
left out.
-/

namespace Tiri.Ui.VirtualCursors

open Option Finmap HashMap

/-! ## What a client asks for -/

inductive VirtualCursorShape
  | ring
  | crosshair
  | dot
  | arrow

inductive VirtualCursorSource
  | theme (theme icon : Option String)
  | builtin (shape : VirtualCursorShape)

structure RgbaColor where
  r : ℚ
  g : ℚ
  b : ℚ
  a : ℚ

structure VirtualCursorAppearance where
  source : VirtualCursorSource
  shape : VirtualCursorShape
  size : ℕ
  color : RgbaColor
  outlineColor : RgbaColor
  opacity : ℚ

/-- `VirtualCursorAppearance::default`. -/
def VirtualCursorAppearance.default : VirtualCursorAppearance where
  source := .theme none none
  shape := .ring
  size := 24
  color := ⟨18 / 100, 83 / 100, 75 / 100, 95 / 100⟩
  outlineColor := ⟨2 / 100, 3 / 100, 4 / 100, 85 / 100⟩
  opacity := 1

inductive VirtualCursorCurve
  | linear
  | easeOutCubic
  | easeInOutCubic

structure VirtualCursorAnimation where
  durationMs : ℕ
  curve : VirtualCursorCurve

/-- `VirtualCursorAnimation::default`. -/
def VirtualCursorAnimation.default : VirtualCursorAnimation := ⟨180, .easeOutCubic⟩

structure VirtualCursorCreate where
  cursorId : String
  windowId : ℕ
  x : ℚ
  y : ℚ
  appearance : Option VirtualCursorAppearance
  animation : Option VirtualCursorAnimation
  visible : Option Bool
  zIndex : Option ℤ
  replaceExisting : Bool
  atPointer : Bool

structure VirtualCursorUpdate where
  cursorId : String
  windowId : Option ℕ
  x : Option ℚ
  y : Option ℚ
  appearance : Option VirtualCursorAppearance
  animation : Option VirtualCursorAnimation
  visible : Option Bool
  zIndex : Option ℤ

inductive VirtualCursorError
  | alreadyExists (cursorId : String)
  | notFound (cursorId : String)

/-! ## The cursors -/

structure PinnedCursor where
  cursorId : String
  windowId : ℕ
  position : ℚ × ℚ
  appearance : VirtualCursorAppearance
  animationConfig : VirtualCursorAnimation
  visible : Bool
  zIndex : ℤ

namespace PinnedCursor

variable (cursor : PinnedCursor)

/-- `move_to`, as far as its destination. -/
def moveTo (target : ℚ × ℚ) (animation : Option VirtualCursorAnimation) : PinnedCursor :=
  { cursor with
    animationConfig := animation.getD cursor.animationConfig
    position := target }

/-- What an update leaves of a cursor. -/
def update (update : VirtualCursorUpdate) : PinnedCursor :=
  let cursor := { cursor with
    windowId := update.windowId.getD cursor.windowId
    appearance := update.appearance.getD cursor.appearance
    animationConfig := update.animation.getD cursor.animationConfig
    visible := update.visible.getD cursor.visible
    zIndex := update.zIndex.getD cursor.zIndex }
  match update.x, update.y with
  | some x, some y => cursor.moveTo (x, y) update.animation
  | some x, none => cursor.moveTo (x, cursor.position.2) update.animation
  | none, some y => cursor.moveTo (cursor.position.1, y) update.animation
  | none, none => cursor

variable (u : VirtualCursorUpdate)

@[simp] theorem windowId_update : (cursor.update u).windowId = u.windowId.getD cursor.windowId := by
  unfold update
  cases u.x <;> cases u.y <;> rfl

@[simp] theorem cursorId_update : (cursor.update u).cursorId = cursor.cursorId := by
  unfold update
  cases u.x <;> cases u.y <;> rfl

end PinnedCursor

/-- The cursor that a client asks for. -/
def VirtualCursorCreate.cursor (create : VirtualCursorCreate) : PinnedCursor where
  cursorId := create.cursorId
  windowId := create.windowId
  position := (create.x, create.y)
  appearance := create.appearance.getD .default
  animationConfig := create.animation.getD .default
  visible := create.visible.getD true
  zIndex := create.zIndex.getD 0

/-- `VirtualCursorUi`: each cursor is stored under its id. -/
structure VirtualCursorUi where
  cursors : HashMap String PinnedCursor
  keyed : HashMap.Keyed PinnedCursor.cursorId cursors

namespace VirtualCursorUi

/-- `VirtualCursorUi::default`. -/
def default : VirtualCursorUi := ⟨∅, keyed_empty _⟩

variable (ui : VirtualCursorUi)

def create (create : VirtualCursorCreate) : Except VirtualCursorError VirtualCursorUi :=
  if create.replaceExisting = false ∧ create.cursorId ∈ ui.cursors then
    .error (.alreadyExists create.cursorId)
  else .ok ⟨ui.cursors.insert create.cursorId create.cursor, ui.keyed.insert rfl⟩

variable (cursorId : String)

/-- Put what becomes of a cursor in its place. -/
def modify (f : PinnedCursor → PinnedCursor)
    (hf : ∀ cursor, (f cursor).cursorId = cursor.cursorId) :
    Except VirtualCursorError VirtualCursorUi :=
  match h : ui.cursors.lookup cursorId with
  | none => .error (.notFound cursorId)
  | some cursor =>
    .ok ⟨ui.cursors.insert cursorId (f cursor),
      ui.keyed.insert ((hf cursor).trans (ui.keyed cursorId cursor h))⟩

def update (update : VirtualCursorUpdate) : Except VirtualCursorError VirtualCursorUi :=
  ui.modify update.cursorId (fun cursor => cursor.update update)
    fun cursor => cursor.cursorId_update update

def moveCursor (x y : ℚ) (durationMs : Option ℕ) : Except VirtualCursorError VirtualCursorUi :=
  ui.modify cursorId
    (fun cursor =>
      cursor.moveTo (x, y)
        (durationMs.map fun durationMs => { cursor.animationConfig with durationMs }))
    fun _ => rfl

def destroy : Except VirtualCursorError VirtualCursorUi :=
  if cursorId ∈ ui.cursors then .ok ⟨ui.cursors.erase cursorId, ui.keyed.erase cursorId⟩
  else .error (.notFound cursorId)

def removeWindow (id : ℕ) : VirtualCursorUi where
  cursors := HashMap.retain (fun _ cursor => cursor.windowId ≠ id) ui.cursors
  keyed := by
    intro k cursor h
    rw [lookup_retain, filter_eq_some_iff] at h
    exact ui.keyed k cursor h.1

/-- The cursor is there, pinned to the window. -/
def Pinned (id : ℕ) : Prop := ∃ cursorId cursor, ui.cursors.lookup cursorId = some cursor ∧
  cursor.windowId = id

theorem not_pinned_default (id : ℕ) : ¬default.Pinned id := by
  rintro ⟨cursorId, cursor, h, -⟩
  exact nomatch h

variable {ui ui' : VirtualCursorUi} {cursorId : String} {cursor : PinnedCursor} {id : ℕ}

/-- What is pinned after one cursor was put under its key. -/
theorem pinned_insert (h : ui'.cursors = ui.cursors.insert cursorId cursor)
    (hpinned : ui'.Pinned id) : id = cursor.windowId ∨ ui.Pinned id := by
  obtain ⟨cursorId', cursor', hlookup, rfl⟩ := hpinned
  rw [h] at hlookup
  by_cases hkey : cursorId' = cursorId
  · rw [hkey, lookup_insert] at hlookup
    exact .inl (congrArg PinnedCursor.windowId (some.inj hlookup)).symm
  · rw [lookup_insert_of_ne _ hkey] at hlookup
    exact .inr ⟨cursorId', cursor', hlookup, rfl⟩

theorem pinned_create {c : VirtualCursorCreate} (h : ui.create c = .ok ui') :
    ui'.Pinned c.windowId ∧
      ∀ id, ui'.Pinned id → id = c.windowId ∨ ui.Pinned id := by
  unfold create at h
  split at h
  · exact nomatch h
  · cases h
    have hnew : ∀ id, (VirtualCursorUi.mk (ui.cursors.insert c.cursorId c.cursor)
        (ui.keyed.insert rfl)).Pinned id → id = c.cursor.windowId ∨ ui.Pinned id :=
      fun id => pinned_insert rfl
    exact ⟨⟨c.cursorId, c.cursor, lookup_insert _, rfl⟩, hnew⟩

/-- What is pinned after a cursor was changed. -/
theorem pinned_modify {f : PinnedCursor → PinnedCursor}
    {hf : ∀ cursor, (f cursor).cursorId = cursor.cursorId} (h : ui.modify cursorId f hf = .ok ui') :
    ∃ cursor, ui.cursors.lookup cursorId = some cursor ∧ ui'.Pinned (f cursor).windowId ∧
      ∀ id, ui'.Pinned id → id = (f cursor).windowId ∨ ui.Pinned id := by
  unfold modify at h
  split at h
  · exact nomatch h
  · rename_i cursor hcursor
    cases h
    exact ⟨cursor, hcursor, ⟨cursorId, f cursor, lookup_insert _, rfl⟩, fun id => pinned_insert rfl⟩

/-- A cursor that is there is updated. -/
theorem exists_update {u : VirtualCursorUpdate} (h : ui.cursors.lookup u.cursorId = some cursor) :
    ∃ ui', ui.update u = .ok ui' := by
  unfold update modify
  split
  · rename_i hnone
    exact nomatch h.symm.trans hnone
  · exact ⟨_, rfl⟩

theorem pinned_destroy (h : ui.destroy cursorId = .ok ui') (hpinned : ui'.Pinned id) :
    ui.Pinned id := by
  unfold destroy at h
  split at h
  · cases h
    obtain ⟨cursorId', cursor, hlookup, rfl⟩ := hpinned
    exact ⟨cursorId', cursor, lookup_of_erase hlookup, rfl⟩
  · exact nomatch h

theorem pinned_removeWindow {id id' : ℕ} :
    (ui.removeWindow id).Pinned id' ↔ ui.Pinned id' ∧ id' ≠ id := by
  constructor
  · rintro ⟨cursorId, cursor, hlookup, rfl⟩
    rw [removeWindow, lookup_retain, filter_eq_some_iff] at hlookup
    exact ⟨⟨cursorId, cursor, hlookup.1, rfl⟩, of_decide_eq_true hlookup.2⟩
  · rintro ⟨⟨cursorId, cursor, hlookup, rfl⟩, hne⟩
    refine ⟨cursorId, cursor, ?_, rfl⟩
    rw [removeWindow, lookup_retain, filter_eq_some_iff]
    exact ⟨hlookup, decide_eq_true hne⟩

end VirtualCursorUi

end Tiri.Ui.VirtualCursors
