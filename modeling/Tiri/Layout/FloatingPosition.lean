import Tiri.Layout.Floating
import Tiri.Utils.Geometry

/-!
# Where a floating window is

`struct Data` of `src/layout/floating.rs` (lines 81–200): the position of a floating tile is kept
as a fraction of the working area, and the place where it is shown is computed from it.

`onScreen` is how much of a length lies inside another one.  The source keeps a window from going
off screen by two comparisons; what they are for is that enough of it stays visible.

Results:
* `le_onScreen_iff`: the two comparisons say exactly that enough of the window is visible;
* `abs_sub_keepOnScreen_le`: the window is shown at the nearest such place;
* `placed_run`: a run stores the last position, size and working area that were given;
* `run_upToDate`: the cached position is that of the stored one, in every run;
* `run_eq_of_returns`: what does not set the position has no effect that lasts;
* `logicalPos_kept`: all of it, in every run.
-/

namespace Tiri.Layout

open Utils (Point)

/-- `loc` of a rectangle. -/
def Rectangle.loc (self : Rectangle) : Point ℚ := ⟨self.x, self.y⟩

namespace FloatingSpace

/-- `struct Data` (`floating.rs`, lines 81–95). -/
structure Data where
  /-- Relative to the working area. -/
  pos : Point ℚ
  /-- Cached, and not rounded to physical pixels. -/
  logicalPos : Point ℚ
  /-- The size of the tile. -/
  size : Size
  workingArea : Rectangle

namespace Data

variable {Id : Type}

/-- `scale_by_working_area` (`floating.rs`, lines 114–123). -/
def scaleByWorkingArea (area : Rectangle) (pos : Point ℚ) : Point ℚ :=
  ⟨pos.x * area.size.w, pos.y * area.size.h⟩ + area.loc

/-- `logical_to_size_frac_in_working_area` (`floating.rs`, lines 125–134). -/
def logicalToSizeFracInWorkingArea (area : Rectangle) (logicalPos : Point ℚ) : Point ℚ :=
  let pos := logicalPos - area.loc
  ⟨pos.x / max area.size.w 1, pos.y / max area.size.h 1⟩

/-- `min_on_screen_hor` and `min_on_screen_ver`. -/
def minOnScreen (size : ℚ) : ℚ := clamp (size / 4) 10 75

/-- `max_off_screen_hor` and `max_off_screen_ver`. -/
def maxOffScreen (size : ℚ) : ℚ := max 0 (size - minOnScreen size)

/-- One coordinate, relative to the working area, not too far off screen on either side. -/
def keepOnScreen (size area x : ℚ) : ℚ :=
  min (max x (-maxOffScreen size)) (area - size + maxOffScreen size)

/-- `recompute_logical_pos` (`floating.rs`, lines 136–159). -/
def recomputeLogicalPos (self : Data) : Data :=
  let logicalPos := scaleByWorkingArea self.workingArea self.pos - self.workingArea.loc
  let logicalPos : Point ℚ :=
    ⟨keepOnScreen self.size.w self.workingArea.size.w logicalPos.x,
      keepOnScreen self.size.h self.workingArea.size.h logicalPos.y⟩
  { self with logicalPos := logicalPos + self.workingArea.loc }

/-- `update_config` (`floating.rs`, lines 161–168). -/
def updateConfig (self : Data) (workingArea : Rectangle) : Data :=
  if self.workingArea = workingArea then self
  else { self with workingArea := workingArea }.recomputeLogicalPos

/-- `update` (`floating.rs`, lines 170–178). -/
def update (self : Data) (tile : Tile Id) : Data :=
  let size := tile.tileSize
  if self.size = size then self
  else { self with size := size }.recomputeLogicalPos

/-- `set_logical_pos` (`floating.rs`, lines 180–185). -/
def setLogicalPos (self : Data) (logicalPos : Point ℚ) : Data :=
  { self with
    pos := logicalToSizeFracInWorkingArea self.workingArea logicalPos }.recomputeLogicalPos

/-- `new` (`floating.rs`, lines 98–112). -/
def new (workingArea : Rectangle) (tile : Tile Id) (logicalPos : Point ℚ) : Data :=
  let rv : Data := ⟨⟨0, 0⟩, ⟨0, 0⟩, ⟨0, 0⟩, workingArea⟩
  (rv.update tile).setLogicalPos logicalPos

/-- What can be done to a position. -/
inductive Op (Id : Type)
  | setLogicalPos (logicalPos : Point ℚ)
  | update (tile : Tile Id)
  | updateConfig (workingArea : Rectangle)

/-- One operation. -/
def step (self : Data) : Op Id → Data
  | .setLogicalPos logicalPos => self.setLogicalPos logicalPos
  | .update tile => self.update tile
  | .updateConfig workingArea => self.updateConfig workingArea

/-- A sequence of them. -/
def run (self : Data) (ops : List (Op Id)) : Data := ops.foldl step self

/-! ## What is given -/

/-- Where a window was put, in the working area that it had then, and the last size and working area
that it was given. -/
structure Placed where
  pos : Point ℚ
  size : Size
  workingArea : Rectangle

/-- What an operation gives. -/
def Placed.step (self : Placed) : Op Id → Placed
  | .setLogicalPos logicalPos =>
    { self with pos := logicalToSizeFracInWorkingArea self.workingArea logicalPos }
  | .update tile => { self with size := tile.tileSize }
  | .updateConfig workingArea => { self with workingArea }

/-- What a new position is given. -/
def Placed.new (workingArea : Rectangle) (tile : Tile Id) (logicalPos : Point ℚ) : Placed :=
  ⟨logicalToSizeFracInWorkingArea workingArea logicalPos, tile.tileSize, workingArea⟩

/-- What is stored. -/
def placed (self : Data) : Placed := ⟨self.pos, self.size, self.workingArea⟩

theorem placed_update (self : Data) (tile : Tile Id) :
    (self.update tile).placed = { self.placed with size := tile.tileSize } := by
  unfold update
  dsimp only
  split_ifs with hsize
  · rw [← hsize]
    rfl
  · rfl

theorem placed_new (workingArea : Rectangle) (tile : Tile Id) (logicalPos : Point ℚ) :
    (new workingArea tile logicalPos).placed = .new workingArea tile logicalPos := by
  have hupdate := placed_update ⟨⟨0, 0⟩, ⟨0, 0⟩, ⟨0, 0⟩, workingArea⟩ tile
  obtain ⟨-, hsize, harea⟩ := Placed.mk.inj hupdate
  exact congrArg₂ (fun size area => Placed.mk (logicalToSizeFracInWorkingArea area logicalPos) size
    area) hsize harea

/-- **Every operation** stores what it is given, and nothing else. -/
theorem placed_step (self : Data) (op : Op Id) : (self.step op).placed = self.placed.step op := by
  cases op with
  | setLogicalPos logicalPos => rfl
  | update tile => exact placed_update self tile
  | updateConfig workingArea =>
    show (self.updateConfig workingArea).placed = _
    unfold updateConfig
    split_ifs with harea
    · rw [← harea]
      rfl
    · rfl

theorem placed_run (self : Data) (ops : List (Op Id)) :
    (self.run ops).placed = ops.foldl Placed.step self.placed := by
  induction ops generalizing self with
  | nil => rfl
  | cons op ops ih =>
    rw [List.foldl_cons, ← placed_step]
    exact ih (self.step op)

/-! ## On screen -/

/-- How much of the length `size` from `x` on lies inside the length `area` from `loc` on. -/
def onScreen (loc area x size : ℚ) : ℚ := min (loc + area) (x + size) - max loc x

/-- What the source wants to be visible. -/
def wanted (size : ℚ) : ℚ := min size (minOnScreen size)

variable (size : ℚ)

theorem minOnScreen_le : minOnScreen size ≤ 75 :=
  max_le (by norm_num) (min_le_right _ _)

theorem sub_maxOffScreen : size - maxOffScreen size = wanted size := by
  unfold maxOffScreen wanted
  rcases le_total size (minOnScreen size) with h | h
  · rw [max_eq_left (sub_nonpos.mpr h), min_eq_left h, sub_zero]
  · rw [max_eq_right (sub_nonneg.mpr h), min_eq_right h, sub_sub_cancel]

theorem maxOffScreen_nonneg : 0 ≤ maxOffScreen size := le_max_left _ _

section
variable {area : ℚ} (harea : 75 ≤ area) (loc size x : ℚ)
include harea

theorem wanted_le : wanted size ≤ area :=
  (min_le_right _ _).trans ((minOnScreen_le size).trans harea)

/-- There is room between the two bounds. -/
theorem bounds_le : -maxOffScreen size ≤ area - size + maxOffScreen size := by
  have hroom := wanted_le harea size
  have hsub := sub_maxOffScreen size
  have hnonneg := maxOffScreen_nonneg size
  linarith

/-- Enough is visible exactly between the two bounds of the source. -/
theorem le_onScreen_iff :
    wanted size ≤ onScreen loc area x size ↔
      loc - maxOffScreen size ≤ x ∧ x ≤ loc + (area - size + maxOffScreen size) := by
  have hroom := wanted_le harea size
  have hsub := sub_maxOffScreen size
  have hnonneg := maxOffScreen_nonneg size
  unfold onScreen
  rw [le_sub_iff_add_le, le_min_iff]
  constructor
  · rintro ⟨harea', hsize⟩
    have hx := le_max_right loc x
    have hloc := le_max_left loc x
    constructor <;> linarith
  · rintro ⟨hlow, hhigh⟩
    rcases max_choice loc x with hmax | hmax
    · constructor <;> linarith
    · constructor <;> linarith

theorem keepOnScreen_mem :
    -maxOffScreen size ≤ keepOnScreen size area x ∧
      keepOnScreen size area x ≤ area - size + maxOffScreen size :=
  ⟨le_min (le_max_right _ _) (bounds_le harea size), min_le_right _ _⟩

/-- Enough of the window is visible. -/
theorem wanted_le_onScreen :
    wanted size ≤ onScreen loc area (keepOnScreen size area x + loc) size := by
  obtain ⟨hlow, hhigh⟩ := keepOnScreen_mem harea size x
  rw [le_onScreen_iff harea]
  constructor <;> linarith

/-- **The nearest place.**  Any other place where enough of the window is visible is at least as
far away from the one that was asked for. -/
theorem abs_sub_keepOnScreen_le {y : ℚ} (hy : wanted size ≤ onScreen loc area y size) :
    |x + loc - (keepOnScreen size area x + loc)| ≤ |x + loc - y| := by
  obtain ⟨hlow, hhigh⟩ := (le_onScreen_iff harea loc size y).mp hy
  have hroom := bounds_le harea size
  unfold keepOnScreen
  rcases le_total x (-maxOffScreen size) with hx | hx
  · rw [max_eq_right hx, min_eq_left hroom, abs_sub_comm, abs_sub_comm (x + loc),
      abs_of_nonneg (by linarith), abs_of_nonneg (by linarith)]
    linarith
  · rw [max_eq_left hx]
    rcases le_total x (area - size + maxOffScreen size) with hx' | hx'
    · rw [min_eq_left hx', sub_self, abs_zero]
      exact abs_nonneg _
    · rw [min_eq_right hx', abs_of_nonneg (by linarith), abs_of_nonneg (by linarith)]
      linarith

end

/-! ## In every run -/

/-- Where a window is shown whose stored position is `pos`: that part of the working area, kept on
screen. -/
def shownAt (size : Size) (area : Rectangle) (pos : Point ℚ) : Point ℚ :=
  ⟨keepOnScreen size.w area.size.w (pos.x * area.size.w) + area.x,
    keepOnScreen size.h area.size.h (pos.y * area.size.h) + area.y⟩

/-- `verify_invariants`: the cached position is that of the stored one. -/
def UpToDate (self : Data) : Prop :=
  self.logicalPos = shownAt self.size self.workingArea self.pos

variable (self : Data)

theorem recomputeLogicalPos_eq :
    self.recomputeLogicalPos =
      { self with logicalPos := shownAt self.size self.workingArea self.pos } := by
  have hx : self.pos.x * self.workingArea.size.w + self.workingArea.x - self.workingArea.x =
      self.pos.x * self.workingArea.size.w := add_sub_cancel_right _ _
  have hy : self.pos.y * self.workingArea.size.h + self.workingArea.y - self.workingArea.y =
      self.pos.y * self.workingArea.size.h := add_sub_cancel_right _ _
  show Data.mk _ ⟨keepOnScreen _ _ (_ - _) + _, keepOnScreen _ _ (_ - _) + _⟩ _ _ = _
  rw [shownAt, ← hx, ← hy]
  rfl

theorem upToDate_recompute : self.recomputeLogicalPos.UpToDate := by
  rw [recomputeLogicalPos_eq]
  rfl

variable {self : Data}

section

variable (h : self.UpToDate)
include h

/-- Recomputing what is up to date changes nothing. -/
theorem UpToDate.recompute : self.recomputeLogicalPos = self := by
  rw [recomputeLogicalPos_eq, ← h]

theorem UpToDate.updateConfig_eq (area : Rectangle) :
    self.updateConfig area =
      { self with workingArea := area, logicalPos := shownAt self.size area self.pos } := by
  unfold updateConfig
  split_ifs with harea
  · rw [← harea, ← h]
  · rw [recomputeLogicalPos_eq]

/-- **Another working area and back.** -/
theorem UpToDate.updateConfig_back (other : Rectangle) :
    (self.updateConfig other).updateConfig self.workingArea = self := by
  have hother : (self.updateConfig other).UpToDate := by
    rw [h.updateConfig_eq]
    rfl
  rw [hother.updateConfig_eq, h.updateConfig_eq, ← h]

theorem UpToDate.update_eq (tile : Tile Id) :
    self.update tile = { self with
        size := tile.tileSize
        logicalPos := shownAt tile.tileSize self.workingArea self.pos } := by
  unfold update
  dsimp only
  split_ifs with hsize
  · rw [← hsize, ← h]
  · rw [recomputeLogicalPos_eq]

omit h in
/-- A new position is up to date, although `update` may have found nothing to do. -/
theorem new_upToDate (workingArea : Rectangle) (tile : Tile Id) (logicalPos : Point ℚ) :
    (new workingArea tile logicalPos).UpToDate :=
  upToDate_recompute _

/-- **Every operation** keeps the cached position up to date. -/
theorem UpToDate.step (op : Op Id) : (self.step op).UpToDate := by
  cases op with
  | setLogicalPos logicalPos => exact upToDate_recompute _
  | update tile =>
    show (self.update tile).UpToDate
    rw [h.update_eq]
    rfl
  | updateConfig workingArea =>
    show (self.updateConfig workingArea).UpToDate
    rw [h.updateConfig_eq]
    rfl

theorem run_upToDate (ops : List (Op Id)) : (self.run ops).UpToDate := by
  induction ops generalizing self with
  | nil => exact h
  | cons op ops ih => exact ih (h.step op)

end

/-- The operation is not a move. -/
def Op.IsMove : Op Id → Prop
  | .setLogicalPos _ => True
  | _ => False

variable {ops : List (Op Id)}

/-- The stored position is that of the last move. -/
theorem run_pos (hops : ∀ op ∈ ops, ¬op.IsMove) : (self.run ops).pos = self.pos := by
  induction ops generalizing self with
  | nil => rfl
  | cons op ops ih =>
    refine (ih fun op' hmem => hops op' (List.mem_cons_of_mem _ hmem)).trans ?_
    refine (congrArg Placed.pos (placed_step self op)).trans ?_
    cases op with
    | setLogicalPos logicalPos => exact (hops _ List.mem_cons_self trivial).elim
    | update | updateConfig => rfl

theorem UpToDate.ext {d e : Data} (hd : d.UpToDate) (he : e.UpToDate) (hpos : d.pos = e.pos)
    (hsize : d.size = e.size) (harea : d.workingArea = e.workingArea) : d = e := by
  have hlogical : d.logicalPos = e.logicalPos := by rw [hd, he, hpos, hsize, harea]
  cases d
  cases e
  simp_all

/-- **Returning.**  Whatever happens to the size and the working area, without a move the window is
where it was once they are what they were. -/
theorem run_eq_of_returns (h : self.UpToDate) (hops : ∀ op ∈ ops, ¬op.IsMove)
    (hsize : (self.run ops).size = self.size)
    (harea : (self.run ops).workingArea = self.workingArea) : self.run ops = self :=
  (run_upToDate h ops).ext h (run_pos hops) hsize harea

/-- The window, shown at `pos`, has the wanted part in the working area in each axis. -/
def ReachableAt (self : Data) (pos : Point ℚ) : Prop :=
  min self.size.w (clamp (self.size.w / 4) 10 75) ≤
      onScreen self.workingArea.x self.workingArea.size.w pos.x self.size.w ∧
    min self.size.h (clamp (self.size.h / 4) 10 75) ≤
      onScreen self.workingArea.y self.workingArea.size.h pos.y self.size.h

/-- The stored position in logical coordinates, before it is clamped. -/
def image (self : Data) : Point ℚ := scaleByWorkingArea self.workingArea self.pos

/-- It is shown at the place nearest to its stored position where it is reachable. -/
structure Reachable (self : Data) : Prop where
  reachable : self.ReachableAt self.logicalPos
  nearest : ∀ pos, self.ReachableAt pos →
    |self.image.x - self.logicalPos.x| ≤ |self.image.x - pos.x| ∧
      |self.image.y - self.logicalPos.y| ≤ |self.image.y - pos.y|

theorem UpToDate.reachable (h : self.UpToDate) (hw : 75 ≤ self.workingArea.size.w)
    (hh : 75 ≤ self.workingArea.size.h) : self.Reachable where
  reachable := by
    rw [h]
    exact ⟨wanted_le_onScreen hw _ _ _, wanted_le_onScreen hh _ _ _⟩
  nearest pos hpos := by
    rw [h]
    exact ⟨abs_sub_keepOnScreen_le hw _ _ _ hpos.1, abs_sub_keepOnScreen_le hh _ _ _ hpos.2⟩

/-- **Reachable, and back in its place.**  After any sequence of moves, sizes and working areas the
last of each is stored, and the cached position is the clamped image of the stored one and
recomputing it changes nothing; another working area and the old one again, or anything that is not
a move and ends with the size and the area it began with, leaves the window where it was; and in a
working area of at least 75 by 75 enough of it is visible, as near to its stored position as that
can be. -/
theorem logicalPos_kept (workingArea : Rectangle) (tile : Tile Id) (logicalPos : Point ℚ)
    (ops : List (Op Id)) :
    let data := (new workingArea tile logicalPos).run ops
    data.placed = ops.foldl Placed.step (.new workingArea tile logicalPos) ∧
      data.logicalPos = shownAt data.size data.workingArea data.pos ∧
      data.recomputeLogicalPos = data ∧
      (∀ other, (data.updateConfig other).updateConfig data.workingArea = data) ∧
      (∀ ops' : List (Op Id), (∀ op ∈ ops', ¬op.IsMove) → (data.run ops').size = data.size →
        (data.run ops').workingArea = data.workingArea → data.run ops' = data) ∧
      (75 ≤ data.workingArea.size.w → 75 ≤ data.workingArea.size.h → data.Reachable) := by
  intro data
  have h : data.UpToDate := run_upToDate (new_upToDate workingArea tile logicalPos) ops
  have hplaced : data.placed = _ := placed_run (new workingArea tile logicalPos) ops
  rw [placed_new] at hplaced
  exact ⟨hplaced, h, h.recompute, h.updateConfig_back, fun _ => run_eq_of_returns h, h.reachable⟩

end Data

end FloatingSpace

end Tiri.Layout
