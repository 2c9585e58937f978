import Mathlib.Tactic.Positivity
import Tiri.Compositor.Placement
import Tiri.Lib.Run

/-!
# Where the pointer is

The code that moves the pointer: `on_pointer_motion`, `on_pointer_motion_absolute` and the tablet
handlers of `input/mod.rs` with what they compute their positions by, the virtual pointer of
`protocols/virtual_pointer.rs`, `move_cursor` and its callers in `niri.rs`, and
`cursor_position_hint` of `handlers/mod.rs`.  Outputs come, move and go under the pointer.

Results:
* `over_pointerMotion`: a relative motion always leaves the pointer over an output;
* `absolutePosition_under_iff`: when an absolute motion points at an output;
* `always_over_iff`: the pointer is over an output all along a run exactly when every step that
  places it, or takes outputs from under it, leaves it over one.
-/

namespace Tiri.Input

open Tiri.Utils (Point Size Rectangle)
open Option
open Tiri.NiriIpc (Transform)
open Tiri.Placement (transformSize)
open Tiri.Layout (clamp)
open List hiding map_map

/-! ## Coordinates -/

/-- An `f64`, which a division by zero makes infinite or not a number.  Rounding is left out. -/
inductive F64
  | finite (q : ℚ)
  | infinite (negative : Bool)
  | nan

namespace F64

/-- The quotient of two integers. -/
def ofQuotient (a : ℤ) (b : ℕ) : F64 :=
  if b = 0 then (if a = 0 then nan else infinite (a < 0)) else finite (a / b)

/-- A sum with a finite number. -/
def add : F64 → ℚ → F64
  | finite p, q => finite (p + q)
  | infinite negative, _ => infinite negative
  | nan, _ => nan

/-- A difference from a finite number. -/
def subFrom (q : ℚ) : F64 → F64
  | finite p => finite (q - p)
  | infinite negative => infinite !negative
  | nan => nan

def remEuclid (m : ℚ) : F64 → F64
  | finite p => finite (p - m * ⌊p / m⌋)
  | infinite _ => nan
  | nan => nan

/-- `clamp`. -/
def clampTo (lo hi : ℚ) : F64 → F64
  | finite p => finite (clamp p lo hi)
  | infinite true => finite lo
  | infinite false => finite hi
  | nan => nan

/-- It is between the two. -/
def between (lo hi : ℚ) : F64 → Bool
  | finite p => lo ≤ p && p ≤ hi
  | infinite _ => false
  | nan => false

end F64

/-- A location in the global space. -/
abbrev Location := Point F64

/-- A location of finite coordinates. -/
def Location.finite (p : Point ℚ) : Location := ⟨.finite p.x, .finite p.y⟩

namespace Location

/-- A sum with finite coordinates. -/
def add (loc : Location) (p : Point ℚ) : Location := ⟨loc.x.add p.x, loc.y.add p.y⟩

end Location

/-- `transform_point_in`, for coordinates that can be taken from a finite number. -/
def transformPointIn {K : Type} (sub : ℚ → K → K) (transform : Transform) (point : Point K)
    (area : Size ℚ) : Point K :=
  match transform with
  | .normal => point
  | ._90 => ⟨sub area.h point.y, point.x⟩
  | ._180 => ⟨sub area.w point.x, sub area.h point.y⟩
  | ._270 => ⟨point.y, sub area.w point.x⟩
  | .flipped => ⟨sub area.w point.x, point.y⟩
  | .flipped90 => ⟨point.y, point.x⟩
  | .flipped180 => ⟨point.x, sub area.h point.y⟩
  | .flipped270 => ⟨sub area.h point.y, sub area.w point.x⟩

def toF64 (r : Rectangle ℤ) : Rectangle ℚ := ⟨r.loc.toF64, r.size.toF64⟩

/-- `center`: the division of whole numbers drops the rest. -/
def center (r : Rectangle ℤ) : Point ℤ := ⟨r.loc.x + r.size.w / 2, r.loc.y + r.size.h / 2⟩

def centerF64 (r : Rectangle ℚ) : Point ℚ := ⟨r.loc.x + r.size.w / 2, r.loc.y + r.size.h / 2⟩

def merge (r s : Rectangle ℤ) : Rectangle ℤ :=
  let loc : Point ℤ := ⟨min r.loc.x s.loc.x, min r.loc.y s.loc.y⟩
  ⟨loc, ⟨max (r.loc.x + r.size.w) (s.loc.x + s.size.w) - loc.x,
    max (r.loc.y + r.size.h) (s.loc.y + s.size.h) - loc.y⟩⟩

def constrain (r : Rectangle ℚ) (p : Point ℚ) : Point ℚ :=
  ⟨min (max p.x r.loc.x) (r.loc.x + r.size.w), min (max p.y r.loc.y) (r.loc.y + r.size.h)⟩

/-! ## The outputs -/

/-- An output that is mapped in the global space.  It has pixels. -/
structure Screen where
  output : Placement.Output
  loc : Point ℤ
  size_pos : 0 < output.logicalSize.w ∧ 0 < output.logicalSize.h

namespace Screen

/-- `output_geometry`. -/
def geo (screen : Screen) : Rectangle ℤ := screen.output.geometry screen.loc

/-- The location is within the geometry of the output. -/
def contains (screen : Screen) (loc : Location) : Bool :=
  match loc.x, loc.y with
  | .finite x, .finite y => (toF64 screen.geo).contains ⟨x, y⟩
  | _, _ => false

end Screen

/-- What the pointer is moved with. -/
structure Seat where
  /-- `global_space.outputs()`. -/
  globalSpace : List Screen
  /-- `pointer.current_location()`. -/
  location : Location
  tabletCursorLocation : Option (Point ℚ)

namespace Seat

/-- `global_space.output_under(pos).next()`. -/
def outputUnder (seat : Seat) (loc : Location) : Option Screen :=
  seat.globalSpace.reverse.find? fun screen => screen.contains loc

/-- `global_space.output_geometry(output)`. -/
def outputGeometry (seat : Seat) (output : Placement.Output) : Option (Rectangle ℤ) :=
  (seat.globalSpace.find? fun screen => screen.output = output).map Screen.geo

def globalBoundingRectangle (seat : Seat) : Option (Rectangle ℤ) :=
  seat.globalSpace.foldl (fun acc screen =>
    some ((acc.map fun acc => merge acc screen.geo).getD screen.geo)) none

/-! ## Relative motion -/

/-- What the surfaces and the grab answer to a relative motion: an active lock holds the pointer, a
grab that moves the view has the pointer go round an output, along this axis, and an active
confinement keeps it from a location. -/
structure MotionAnswers where
  locked : Bool
  spatialGrab : Option (Placement.Output × Bool)
  prevent : Location → Bool

/-- Warp the pointer across the screen during the spatial movement grabs. -/
def goRound (seat : Seat) (answers : MotionAnswers) (newPos : Location) : Location :=
  match answers.spatialGrab with
  | none => newPos
  | some (output, horizontal) =>
    match seat.outputGeometry output with
    | none => newPos
    | some geo =>
      let geo := toF64 geo
      if horizontal then
        ⟨((newPos.x.add (-geo.loc.x)).remEuclid geo.size.w).add geo.loc.x,
          newPos.y.clampTo geo.loc.y (geo.loc.y + geo.size.h - 1)⟩
      else
        ⟨newPos.x.clampTo geo.loc.x (geo.loc.x + geo.size.w - 1),
          ((newPos.y.add (-geo.loc.y)).remEuclid geo.size.h).add geo.loc.y⟩

/-- Clip a movement that ended up outside the outputs. -/
def clip (seat : Seat) (newPos : Location) : Location :=
  match seat.outputUnder newPos with
  | some _ => newPos
  | none =>
    match seat.outputUnder seat.location with
    | some screen =>
      let geom := screen.geo
      ⟨newPos.x.clampTo geom.loc.x (geom.loc.x + geom.size.w - 1 : ℤ),
        newPos.y.clampTo geom.loc.y (geom.loc.y + geom.size.h - 1 : ℤ)⟩
    | none =>
      -- the pointer was not on any output in the first place: put it on the first one
      match seat.globalSpace with
      | [] => newPos
      | screen :: _ => .finite (center screen.geo).toF64

def onPointerMotion (seat : Seat) (delta : Point ℚ) (answers : MotionAnswers) : Seat :=
  if seat.globalSpace = [] then seat
  else
    let seat := { seat with tabletCursorLocation := none }
    if answers.locked then seat
    else
      let newPos := seat.clip (seat.goRound answers (seat.location.add delta))
      if answers.prevent newPos then seat else { seat with location := newPos }

/-! ## Absolute motion -/

end Seat

/-- The position of an absolute motion: of a virtual pointer, or of a device, in parts of its
area. -/
inductive Absolute
  | virtual (x y xExtent yExtent : ℕ)
  | device (x y : ℚ)

def Absolute.positionTransformed : Absolute → Size ℤ → Location
  | .virtual x y xExtent yExtent, size =>
    ⟨.ofQuotient (x * size.w) xExtent, .ofQuotient (y * size.h) yExtent⟩
  | .device x y, size => .finite ⟨x * size.w, y * size.h⟩

namespace Seat

/-- `compute_absolute_location`, without a fallback output. -/
def computeAbsoluteLocation (seat : Seat) (event : Absolute) (output : Option Placement.Output) :
    Option Location :=
  output.bind fun output => (seat.outputGeometry output).map fun geo =>
    let size := transformSize output.transform geo.size
    Location.add (transformPointIn F64.subFrom output.transform (event.positionTransformed size)
      size.toF64) geo.loc.toF64

/-- The position of `on_pointer_motion_absolute`: on the output of the device, or on the rectangle
of all outputs. -/
def absolutePosition (seat : Seat) (event : Absolute) (output : Option Placement.Output) :
    Option Location :=
  (seat.computeAbsoluteLocation event output).or
    (seat.globalBoundingRectangle.map fun geo =>
      (event.positionTransformed geo.size).add geo.loc.toF64)

def onPointerMotionAbsolute (seat : Seat) (event : Absolute) (output : Option Placement.Output) :
    Seat :=
  match seat.absolutePosition event output with
  | some pos => { seat with location := pos, tabletCursorLocation := none }
  | none => seat

/-! ## Tablets -/

end Seat

/-- A tablet event: the position in parts of the tablet, the output that it is mapped to, the window
that it is mapped to, within its output, and the aspect ratio of a tablet that is known. -/
structure TabletEvent where
  x : ℚ
  y : ℚ
  mappedOutput : Option Placement.Output
  windowTarget : Option (Rectangle ℚ × Placement.Output)
  aspectRatio : Option ℚ

namespace Seat

/-- The area that a tablet is mapped to: its geometry, whether the ratio is kept, one physical
pixel, and the transform. -/
def tabletTarget (seat : Seat) (event : TabletEvent) :
    Option (Rectangle ℚ × Bool × ℚ × Transform) :=
  match event.windowTarget with
  | some (rect, output) => (seat.outputGeometry output).map fun outputGeo =>
    ({ rect with loc := rect.loc + outputGeo.loc.toF64 }, true, 1 / output.scale, output.transform)
  | none =>
    match event.mappedOutput with
    | some output => (seat.outputGeometry output).map fun geo =>
      (toF64 geo, true, 1 / output.scale, output.transform)
    | none => seat.globalBoundingRectangle.bind fun geo => seat.globalSpace.head?.map fun screen =>
      (toF64 geo, false, 1 / screen.output.scale, .normal)

/-- Keep the ratio of the tablet. -/
def keepRatio (event : TabletEvent) (targetGeo : Rectangle ℚ) (transform : Transform)
    (pos : Point ℚ) : Point ℚ :=
  let pos : Point ℚ := ⟨pos.x / targetGeo.size.w, pos.y / targetGeo.size.h⟩
  let pos :=
    match event.aspectRatio with
    | none => pos
    | some aspectRatio =>
      let size := transformSize transform targetGeo.size
      let ratio := aspectRatio / (size.w / size.h)
      if 1 < ratio then { pos with x := pos.x * ratio } else { pos with y := pos.y / ratio }
  ⟨pos.x * targetGeo.size.w, pos.y * targetGeo.size.h⟩

def computeTabletPosition (seat : Seat) (event : TabletEvent) : Option (Point ℚ) :=
  (seat.tabletTarget event).map fun (targetGeo, ratio, px, transform) =>
    let size := transformSize transform targetGeo.size
    let rounded := size.toI32Round
    let pos := transformPointIn (fun a b => a - b) transform
      ⟨event.x * rounded.w, event.y * rounded.h⟩ size
    let pos := if ratio then keepRatio event targetGeo transform pos else pos
    ⟨clamp pos.x 0 (targetGeo.size.w - px), clamp pos.y 0 (targetGeo.size.h - px)⟩ + targetGeo.loc

/-- `on_tablet_tool_axis`, of a tool that is known or not. -/
def onTabletToolAxis (seat : Seat) (event : TabletEvent) (known : Bool) : Seat :=
  match seat.computeTabletPosition event with
  | some pos => if known then { seat with tabletCursorLocation := some pos } else seat
  | none => seat

/-- `on_tablet_tool_proximity`, of a tablet that is known, into or out of the proximity. -/
def onTabletToolProximity (seat : Seat) (event : TabletEvent) (proximityIn : Bool) : Seat :=
  match seat.computeTabletPosition event with
  | some pos =>
    if proximityIn then { seat with tabletCursorLocation := some pos }
    else
      -- move the mouse pointer here to avoid discontinuity
      { seat with
        location := (seat.tabletCursorLocation.map Location.finite).getD seat.location
        tabletCursorLocation := none }
  | none => seat

/-! ## Warps -/

/-- `move_cursor_to_output`, for an output that is mapped. -/
def moveCursorToOutput (seat : Seat) (output : Placement.Output) : Option Seat :=
  (seat.outputGeometry output).map fun geo =>
    { seat with location := .finite (center geo).toF64 }

end Seat

inductive CenterCoords
  | separately
  | both
  | bothAlways

namespace Seat

/-- Where `move_cursor_to_rect` moves the pointer, if it does. -/
def rectTarget (seat : Seat) (rect : Rectangle ℚ) (mode : CenterCoords) : Option Location :=
  let loc := seat.location
  let c := centerF64 rect
  let xInBound := loc.x.between rect.loc.x (rect.loc.x + rect.size.w)
  let yInBound := loc.y.between rect.loc.y (rect.loc.y + rect.size.h)
  match mode with
  | .separately =>
    if xInBound && yInBound then none
    else if yInBound then some ⟨.finite c.x, loc.y⟩
    else if xInBound then some ⟨loc.x, .finite c.y⟩
    else some (.finite c)
  | .both => if xInBound && yInBound then none else some (.finite c)
  | .bothAlways => some (.finite c)

/-- Where `move_cursor_to_focused_tile` moves the pointer: within the rectangle of the window, on
its output. -/
def tileTarget (seat : Seat) (output : Placement.Output) (rect : Rectangle ℚ)
    (mode : CenterCoords) : Option Location :=
  if seat.tabletCursorLocation.isSome then none
  else (seat.outputGeometry output).bind fun geo =>
    seat.rectTarget { rect with loc := rect.loc + geo.loc.toF64 } mode

/-- `cursor_position_hint`, of an active constraint whose surface is under the pointer, at the
origin, and on an output or on none. -/
def cursorPositionHint (seat : Seat) (origin location : Point ℚ)
    (output : Option Placement.Output) : Seat :=
  let target :=
    match output.bind seat.outputGeometry with
    | some geo => constrain (toF64 { geo with size := ⟨geo.size.w - 1, geo.size.h - 1⟩ })
      (origin + location)
    | none => origin + location
  { seat with location := .finite target }

end Seat

/-! ## Runs -/

/-- What happens to the pointer and to the outputs. -/
inductive Event
  | pointerMotion (delta : Point ℚ) (answers : Seat.MotionAnswers)
  | pointerMotionAbsolute (event : Absolute) (output : Option Placement.Output)
  | tabletToolAxis (event : TabletEvent) (known : Bool)
  | tabletToolProximity (event : TabletEvent) (proximityIn : Bool)
  | pointerButton
  | moveCursorToOutput (output : Placement.Output)
  | moveCursorToFocusedTile (output : Placement.Output) (rect : Rectangle ℚ) (mode : CenterCoords)
  | cursorPositionHint (origin location : Point ℚ) (output : Option Placement.Output)
  | outputs (globalSpace : List Screen)

namespace Seat

/-- What an event does, where it can happen. -/
def step (seat : Seat) : Event → Option Seat
  | .pointerMotion delta answers => some (seat.onPointerMotion delta answers)
  | .pointerMotionAbsolute event output => some (seat.onPointerMotionAbsolute event output)
  | .tabletToolAxis event known => some (seat.onTabletToolAxis event known)
  | .tabletToolProximity event proximityIn => some (seat.onTabletToolProximity event proximityIn)
  | .pointerButton => some { seat with tabletCursorLocation := none }
  | .moveCursorToOutput output => seat.moveCursorToOutput output
  | .moveCursorToFocusedTile output rect mode =>
    some { seat with location := (seat.tileTarget output rect mode).getD seat.location }
  | .cursorPositionHint origin location output =>
    some (seat.cursorPositionHint origin location output)
  | .outputs globalSpace => some { seat with globalSpace }

/-- The compositor starts, and `focus_default_monitor` puts the pointer on an output. -/
def start (globalSpace : List Screen) (focused : ℕ) : Seat :=
  let location : Point ℚ :=
    match globalSpace[focused]?.or globalSpace.head? with
    | some screen => (center screen.geo).toF64
    | none => ⟨0, 0⟩
  ⟨globalSpace, .finite location, none⟩

/-- The location is over an output. -/
def Under (seat : Seat) (loc : Location) : Prop := ∃ screen ∈ seat.globalSpace, screen.contains loc

theorem under_iff_isSome {seat : Seat} {loc : Location} :
    seat.Under loc ↔ (seat.outputUnder loc).isSome := by
  unfold Under outputUnder
  rw [List.find?_isSome]
  simp only [mem_reverse]

/-- Where there are outputs, the pointer is over one: `output_under(..).unwrap()` does not fail. -/
def Over (seat : Seat) : Prop := seat.globalSpace ≠ [] → (seat.outputUnder seat.location).isSome

instance (seat : Seat) : Decidable seat.Over :=
  inferInstanceAs (Decidable (_ → _))

end Seat

/-! ## Geometry -/

/-- The geometry of an output has pixels. -/
theorem Screen.geo_pos (screen : Screen) : 0 < screen.geo.size.w ∧ 0 < screen.geo.size.h := by
  obtain ⟨hw, hh⟩ := screen.size_pos
  unfold Screen.geo Placement.Output.geometry Placement.Output.size Size.toI32Ceil transformSize
  cases screen.output.transform <;>
    exact ⟨Int.ceil_pos.mpr (by assumption), Int.ceil_pos.mpr (by assumption)⟩

variable {screen : Screen} {event : Absolute}

theorem Screen.contains_finite {p : Point ℚ} :
    screen.contains (.finite p) ↔
      (screen.geo.loc.x ≤ p.x ∧ p.x < screen.geo.loc.x + screen.geo.size.w) ∧
        screen.geo.loc.y ≤ p.y ∧ p.y < screen.geo.loc.y + screen.geo.size.h := by
  simp only [Screen.contains, Location.finite, Rectangle.contains, toF64, Point.toF64, Size.toF64,
    Bool.and_eq_true, and_assoc]
  exact and_congr decide_eq_true_iff
    (and_congr decide_eq_true_iff (and_congr decide_eq_true_iff decide_eq_true_iff))

/-- Only a finite location is over an output. -/
theorem Screen.finite_of_contains {loc : Location} (h : screen.contains loc = true) :
    ∃ p, loc = .finite p := by
  obtain ⟨x, y⟩ := loc
  cases x with
  | finite x =>
    cases y with
    | finite y => exact ⟨⟨x, y⟩, rfl⟩
    | infinite negative => cases h
    | nan => cases h
  | infinite negative => cases h
  | nan => cases h

theorem center_mem (a : ℤ) {n : ℤ} (h : 0 < n) :
    (a : ℚ) ≤ ((a + n / 2 : ℤ) : ℚ) ∧ ((a + n / 2 : ℤ) : ℚ) < a + n := by
  constructor
  · exact_mod_cast (by omega : a ≤ a + n / 2)
  · exact_mod_cast (by omega : a + n / 2 < a + n)

/-- The output contains its center. -/
theorem Screen.contains_center (screen : Screen) :
    screen.contains (.finite (center screen.geo).toF64) = true := by
  obtain ⟨hw, hh⟩ := screen.geo_pos
  rw [Screen.contains_finite]
  exact ⟨center_mem screen.geo.loc.x hw, center_mem screen.geo.loc.y hh⟩

theorem clamp_mem (x : ℚ) (a : ℤ) {n : ℤ} (h : 0 < n) :
    (a : ℚ) ≤ clamp x a (a + n - 1 : ℤ) ∧ clamp x a (a + n - 1 : ℤ) < a + n := by
  have hle : (a : ℚ) ≤ (a + n - 1 : ℤ) := by exact_mod_cast (by omega : a ≤ a + n - 1)
  have hlt : ((a + n - 1 : ℤ) : ℚ) < a + n := by exact_mod_cast (by omega : a + n - 1 < a + n)
  exact ⟨le_max_left _ _, lt_of_le_of_lt (max_le hle (min_le_right _ _)) hlt⟩

/-- An output contains what is clipped against its boundaries. -/
theorem Screen.contains_clip (screen : Screen) (p : Point ℚ) :
    screen.contains (.finite
      ⟨clamp p.x screen.geo.loc.x (screen.geo.loc.x + screen.geo.size.w - 1 : ℤ),
        clamp p.y screen.geo.loc.y (screen.geo.loc.y + screen.geo.size.h - 1 : ℤ)⟩) = true := by
  obtain ⟨hw, hh⟩ := screen.geo_pos
  rw [Screen.contains_finite]
  exact ⟨clamp_mem p.x screen.geo.loc.x hw, clamp_mem p.y screen.geo.loc.y hh⟩

/-- An output contains what is constrained to it. -/
theorem Screen.contains_constrain (screen : Screen) (p : Point ℚ) :
    screen.contains (.finite (constrain (toF64 { screen.geo with
      size := ⟨screen.geo.size.w - 1, screen.geo.size.h - 1⟩ }) p)) = true := by
  obtain ⟨hw, hh⟩ := screen.geo_pos
  have hw' : (1 : ℚ) ≤ screen.geo.size.w := by exact_mod_cast hw
  have hh' : (1 : ℚ) ≤ screen.geo.size.h := by exact_mod_cast hh
  rw [Screen.contains_finite]
  unfold constrain toF64 Point.toF64 Size.toF64
  push_cast
  refine ⟨⟨le_min (le_max_right _ _) (by linarith), ?_⟩, le_min (le_max_right _ _) (by linarith), ?_⟩
  · exact lt_of_le_of_lt (min_le_right _ _) (by linarith)
  · exact lt_of_le_of_lt (min_le_right _ _) (by linarith)

namespace Seat

variable {seat seat' : Seat}

/-- What has a geometry is one of the outputs. -/
theorem exists_of_outputGeometry {output : Placement.Output} {geo : Rectangle ℤ}
    (h : seat.outputGeometry output = some geo) : ∃ screen ∈ seat.globalSpace, screen.geo = geo := by
  obtain ⟨screen, hfind, rfl⟩ := map_eq_some_iff.mp h
  exact ⟨screen, mem_of_find?_eq_some hfind, rfl⟩

/-! ## Relative motion -/

theorem goRound_finite (seat : Seat) (answers : MotionAnswers) (p : Point ℚ) :
    ∃ p', seat.goRound answers (.finite p) = .finite p' := by
  unfold goRound
  split
  · exact ⟨p, rfl⟩
  · split
    · exact ⟨p, rfl⟩
    · split
      · exact ⟨⟨_, _⟩, rfl⟩
      · exact ⟨⟨_, _⟩, rfl⟩

/-- Wherever the movement ends, it is clipped to an output. -/
theorem under_clip (hspace : seat.globalSpace ≠ []) (answers : MotionAnswers) (delta : Point ℚ) :
    seat.Under (seat.clip (seat.goRound answers (seat.location.add delta))) := by
  unfold clip
  split
  · rename_i hunder
    exact under_iff_isSome.mpr (isSome_of_eq_some hunder)
  · split
    · rename_i screen hunder
      have hmem : screen ∈ seat.globalSpace :=
        mem_reverse.mp (mem_of_find?_eq_some hunder)
      have hcontains := List.find?_some hunder
      obtain ⟨p, hp⟩ := Screen.finite_of_contains hcontains
      have hadd : seat.location.add delta = .finite ⟨p.x + delta.x, p.y + delta.y⟩ := by
        rw [hp]
        rfl
      obtain ⟨p', hp'⟩ := goRound_finite seat answers ⟨p.x + delta.x, p.y + delta.y⟩
      rw [hadd, hp']
      exact ⟨screen, hmem, screen.contains_clip p'⟩
    · split
      · rename_i hnil
        exact (hspace hnil).elim
      · rename_i screen rest hcons
        exact ⟨screen, hcons ▸ mem_cons_self, screen.contains_center⟩

/-- **A relative motion** leaves the pointer over an output, or where it was. -/
theorem over_pointerMotion (h : seat.Over) (delta : Point ℚ) (answers : MotionAnswers) :
    (seat.onPointerMotion delta answers).Over := by
  unfold onPointerMotion
  split
  · exact h
  · rename_i hspace
    simp only
    split
    · exact h
    · split
      · exact h
      · have hunder : Under { seat with tabletCursorLocation := none } _ :=
          under_clip hspace answers delta
        exact fun _ => under_iff_isSome.mp hunder

/-! ## Absolute motion -/

end Seat

/-- Where an absolute motion points, in parts of its area.  A virtual pointer without an extent
points nowhere. -/
def Absolute.fraction : Absolute → Option (Point ℚ)
  | .virtual x y xExtent yExtent =>
    if xExtent = 0 ∨ yExtent = 0 then none else some ⟨x / xExtent, y / yExtent⟩
  | .device x y => some ⟨x, y⟩

/-- The point of an area, as it is turned. -/
def pointOf (geo : Rectangle ℤ) (transform : Transform) (fraction : Point ℚ) : Point ℚ :=
  let turned := transformPointIn (fun a b => a - b) transform fraction ⟨1, 1⟩
  ⟨turned.x * geo.size.w + geo.loc.x, turned.y * geo.size.h + geo.loc.y⟩

namespace F64

/-- It is a finite number. -/
def isFinite : F64 → Bool
  | finite _ => true
  | infinite _ => false
  | nan => false

@[simp] theorem isFinite_add (x : F64) (q : ℚ) : (x.add q).isFinite = x.isFinite := by
  cases x <;> rfl

@[simp] theorem isFinite_subFrom (q : ℚ) (x : F64) : (subFrom q x).isFinite = x.isFinite := by
  cases x <;> rfl

theorem isFinite_ofQuotient (a : ℤ) (b : ℕ) : (ofQuotient a b).isFinite = decide (b ≠ 0) := by
  unfold ofQuotient
  split
  · rename_i hb
    split
    · simp [isFinite, hb]
    · simp [isFinite, hb]
  · rename_i hb
    simp [isFinite, hb]

end F64

/-- Both coordinates are finite numbers. -/
def Location.isFinite (loc : Location) : Bool := loc.x.isFinite && loc.y.isFinite

theorem Location.isFinite_transformPointIn (transform : Transform) (loc : Location)
    (area : Size ℚ) :
    Location.isFinite (transformPointIn F64.subFrom transform loc area) = loc.isFinite := by
  unfold transformPointIn Location.isFinite
  cases transform <;> simp [Bool.and_comm]

theorem Location.isFinite_add (loc : Location) (p : Point ℚ) :
    (loc.add p).isFinite = loc.isFinite := by
  simp [Location.add, Location.isFinite]

/-- A virtual pointer with extents has a finite position. -/
theorem Absolute.isFinite_positionTransformed (event : Absolute) (size : Size ℤ) :
    (event.positionTransformed size).isFinite = event.fraction.isSome := by
  cases event with
  | device x y => rfl
  | virtual x y xExtent yExtent =>
    unfold positionTransformed Location.isFinite fraction
    rw [F64.isFinite_ofQuotient, F64.isFinite_ofQuotient]
    by_cases hx : xExtent = 0
    · simp [hx]
    · by_cases hy : yExtent = 0
      · simp [hy]
      · simp [hx, hy]

variable {fraction : Point ℚ}

theorem Absolute.positionTransformed_of_fraction (h : event.fraction = some fraction)
    (size : Size ℤ) :
    event.positionTransformed size = .finite ⟨fraction.x * size.w, fraction.y * size.h⟩ := by
  cases event with
  | device x y =>
    obtain rfl := some.inj h
    rfl
  | virtual x y xExtent yExtent =>
    by_cases hextents : xExtent = 0 ∨ yExtent = 0
    · rw [Absolute.fraction, if_pos hextents] at h
      cases h
    · rw [Absolute.fraction, if_neg hextents] at h
      obtain ⟨hx, hy⟩ := not_or.mp hextents
      obtain rfl := some.inj h
      rw [positionTransformed, F64.ofQuotient, F64.ofQuotient, if_neg hx, if_neg hy,
        Location.finite]
      push_cast
      simp only [div_mul_eq_mul_div]

/-- The location of an absolute motion within an area. -/
def locationIn (event : Absolute) (geo : Rectangle ℤ) (transform : Transform) : Location :=
  Location.add (transformPointIn F64.subFrom transform
    (event.positionTransformed (transformSize transform geo.size))
    (transformSize transform geo.size).toF64) geo.loc.toF64

theorem locationIn_of_fraction (h : event.fraction = some fraction) (geo : Rectangle ℤ)
    (transform : Transform) :
    locationIn event geo transform = .finite (pointOf geo transform fraction) := by
  unfold locationIn
  rw [Absolute.positionTransformed_of_fraction h]
  unfold pointOf transformPointIn transformSize Location.add Location.finite Size.toF64 Point.toF64
  cases transform <;> simp [F64.add, F64.subFrom, sub_mul]

/-- It is over an output where the point is. -/
theorem contains_locationIn_iff {geo : Rectangle ℤ} {transform : Transform} :
    screen.contains (locationIn event geo transform) = true ↔
      ∃ fraction ∈ event.fraction,
        screen.contains (.finite (pointOf geo transform fraction)) = true := by
  cases hfraction : event.fraction with
  | some fraction =>
    rw [locationIn_of_fraction hfraction]
    simp
  | none =>
    constructor
    · intro h
      obtain ⟨p, hp⟩ := Screen.finite_of_contains h
      have hfinite : (locationIn event geo transform).isFinite = false := by
        unfold locationIn
        rw [Location.isFinite_add, Location.isFinite_transformPointIn,
          Absolute.isFinite_positionTransformed, hfraction]
        rfl
      rw [hp] at hfinite
      cases hfinite
    · rintro ⟨fraction, hsome, -⟩
      cases hsome

namespace Seat

variable {seat seat' : Seat}

/-- The area of an absolute motion: the output of the device, as it is turned, or the rectangle of
all outputs. -/
def absoluteArea (seat : Seat) (output : Option Placement.Output) :
    Option (Rectangle ℤ × Transform) :=
  (output.bind fun output => (seat.outputGeometry output).map fun geo =>
      (geo, output.transform)).or
    (seat.globalBoundingRectangle.map fun geo => (geo, .normal))

/-- The point that an absolute motion points at. -/
def pointsAt (seat : Seat) (event : Absolute) (output : Option Placement.Output) :
    Option (Point ℚ) :=
  (seat.absoluteArea output).bind fun (geo, transform) =>
    event.fraction.map fun fraction => pointOf geo transform fraction

theorem absolutePosition_eq (seat : Seat) (event : Absolute) (output : Option Placement.Output) :
    seat.absolutePosition event output =
      (seat.absoluteArea output).map fun (geo, transform) => locationIn event geo transform := by
  have hbounding : (seat.globalBoundingRectangle.map fun geo =>
      (event.positionTransformed geo.size).add geo.loc.toF64) =
      (seat.globalBoundingRectangle.map fun geo => (geo, Transform.normal)).map
        fun (geo, transform) => locationIn event geo transform := by
    rw [map_map]
    rfl
  unfold absolutePosition absoluteArea computeAbsoluteLocation
  cases output with
  | none => exact hbounding
  | some output =>
    rw [bind_some, bind_some]
    cases seat.outputGeometry output with
    | none => exact hbounding
    | some geo => rfl

theorem foldl_merge_isSome (acc : Option (Rectangle ℤ)) (screens : List Screen)
    (h : acc.isSome ∨ screens ≠ []) :
    (screens.foldl (fun acc screen =>
      some ((acc.map fun acc => merge acc screen.geo).getD screen.geo)) acc).isSome := by
  induction screens generalizing acc with
  | nil => exact h.resolve_right fun hne => hne rfl
  | cons screen screens ih => exact ih _ (.inl rfl)

/-- **An absolute motion** goes to an output exactly when the point that it points at is on one. -/
theorem absolutePosition_under_iff (hspace : seat.globalSpace ≠ []) (event : Absolute)
    (output : Option Placement.Output) :
    (∃ loc ∈ seat.absolutePosition event output, seat.Under loc) ↔
      ∃ p ∈ seat.pointsAt event output, seat.Under (.finite p) := by
  have harea : ∃ area, seat.absoluteArea output = some area := by
    have hsome : (seat.globalBoundingRectangle).isSome :=
      foldl_merge_isSome none seat.globalSpace (.inr hspace)
    rw [← isSome_iff_exists]
    unfold absoluteArea
    rw [isSome_or, isSome_map, hsome, Bool.or_true]
  obtain ⟨⟨geo, transform⟩, harea⟩ := harea
  rw [absolutePosition_eq, pointsAt, harea, map_some, bind_some]
  simp only [mem_def, some.injEq]
  constructor
  · rintro ⟨loc, rfl, screen, hmem, hcontains⟩
    obtain ⟨fraction, hfraction, hcontains⟩ := contains_locationIn_iff.mp hcontains
    exact ⟨_, map_eq_some_iff.mpr ⟨fraction, hfraction, rfl⟩, screen, hmem, hcontains⟩
  · rintro ⟨p, hp, screen, hmem, hcontains⟩
    obtain ⟨fraction, hfraction, rfl⟩ := map_eq_some_iff.mp hp
    exact ⟨_, rfl, screen, hmem, contains_locationIn_iff.mpr ⟨fraction, hfraction, hcontains⟩⟩


/-! ## Runs -/

/-- The event leaves the pointer over an output, if there are any: a place that it puts the pointer
to is on one, and so is the pointer when the outputs change. -/
def Lands (seat : Seat) : Event → Prop
  | .pointerMotion _ _ => True
  | .pointerMotionAbsolute event output =>
    seat.globalSpace ≠ [] → ∃ p ∈ seat.pointsAt event output, seat.Under (.finite p)
  | .tabletToolAxis _ _ => True
  | .tabletToolProximity event proximityIn =>
    proximityIn = false → (seat.computeTabletPosition event).isSome → seat.globalSpace ≠ [] →
      ∀ p ∈ seat.tabletCursorLocation, seat.Under (.finite p)
  | .pointerButton => True
  | .moveCursorToOutput _ => True
  | .moveCursorToFocusedTile output rect mode =>
    ∀ loc ∈ seat.tileTarget output rect mode, seat.Under loc
  | .cursorPositionHint origin location output =>
    output.bind seat.outputGeometry = none → seat.globalSpace ≠ [] →
      seat.Under (.finite (origin + location))
  | .outputs globalSpace =>
    globalSpace ≠ [] → ∃ screen ∈ globalSpace, screen.contains seat.location

theorem over_iff : seat.Over ↔ (seat.globalSpace ≠ [] → seat.Under seat.location) :=
  imp_congr_right fun _ => under_iff_isSome.symm

theorem over_pointerMotionAbsolute (h : seat.Over) (event : Absolute)
    (output : Option Placement.Output) :
    (seat.onPointerMotionAbsolute event output).Over ↔
      seat.Lands (.pointerMotionAbsolute event output) := by
  have hiff : ∀ hspace : seat.globalSpace ≠ [],
      (∃ loc ∈ seat.absolutePosition event output, seat.Under loc) ↔
        ∃ p ∈ seat.pointsAt event output, seat.Under (.finite p) :=
    fun hspace => absolutePosition_under_iff hspace event output
  rw [onPointerMotionAbsolute, Lands]
  cases hpos : seat.absolutePosition event output with
  | none =>
    have harea : seat.absoluteArea output = none := by
      rw [absolutePosition_eq, map_eq_none_iff] at hpos
      exact hpos
    have hnil : seat.globalSpace = [] := by
      by_contra hspace
      have hsome : (seat.globalBoundingRectangle).isSome :=
        foldl_merge_isSome none seat.globalSpace (.inr hspace)
      unfold absoluteArea at harea
      rw [or_eq_none_iff, map_eq_none_iff] at harea
      rw [harea.2] at hsome
      cases hsome
    exact ⟨fun _ hspace => (hspace hnil).elim, fun _ => h⟩
  | some pos =>
    rw [over_iff]
    refine forall_congr' fun hspace => ?_
    rw [← hiff hspace, hpos]
    constructor
    · exact fun hunder => ⟨pos, rfl, hunder⟩
    · rintro ⟨loc, hloc, hunder⟩
      exact some.inj hloc ▸ hunder

theorem over_tabletToolProximity (h : seat.Over) (event : TabletEvent) (proximityIn : Bool) :
    (seat.onTabletToolProximity event proximityIn).Over ↔
      seat.Lands (.tabletToolProximity event proximityIn) := by
  rw [onTabletToolProximity, Lands]
  cases hpos : seat.computeTabletPosition event with
  | none => exact ⟨fun _ _ hsome => (nomatch hsome), fun _ => h⟩
  | some pos =>
    cases proximityIn with
    | true => exact ⟨fun _ hfalse => (nomatch hfalse), fun _ => h⟩
    | false =>
      simp only [Bool.false_eq_true, if_false, true_implies, isSome_some]
      rw [over_iff]
      cases htablet : seat.tabletCursorLocation with
      | none => exact ⟨fun _ _ p hp => (nomatch hp), fun _ => over_iff.mp h⟩
      | some p =>
        refine forall_congr' fun _ => ?_
        constructor
        · intro hunder p' hp'
          exact some.inj hp' ▸ hunder
        · exact fun hunder => hunder p rfl

theorem over_tileTarget (h : seat.Over) (output : Placement.Output) (rect : Rectangle ℚ)
    (mode : CenterCoords) :
    Over { seat with location := (seat.tileTarget output rect mode).getD seat.location } ↔
      seat.Lands (.moveCursorToFocusedTile output rect mode) := by
  rw [over_iff, Lands]
  cases htarget : seat.tileTarget output rect mode with
  | none => exact ⟨fun _ loc hloc => (nomatch hloc), fun _ => over_iff.mp h⟩
  | some loc =>
    have hspace : seat.globalSpace ≠ [] := by
      unfold tileTarget at htarget
      split at htarget
      · cases htarget
      · obtain ⟨geo, hgeo, -⟩ := bind_eq_some_iff.mp htarget
        obtain ⟨screen, hmem, -⟩ := exists_of_outputGeometry hgeo
        exact ne_nil_of_mem hmem
    constructor
    · intro hunder loc' hloc'
      exact some.inj hloc' ▸ hunder hspace
    · exact fun hunder _ => hunder loc rfl

theorem over_cursorPositionHint (origin location : Point ℚ) (output : Option Placement.Output) :
    (seat.cursorPositionHint origin location output).Over ↔
      seat.Lands (.cursorPositionHint origin location output) := by
  rw [cursorPositionHint, Lands, over_iff]
  cases hgeo : output.bind seat.outputGeometry with
  | none => exact ⟨fun h _ => h, fun h => h rfl⟩
  | some geo =>
    obtain ⟨output', -, hgeo⟩ := bind_eq_some_iff.mp hgeo
    obtain ⟨screen, hmem, rfl⟩ := exists_of_outputGeometry hgeo
    exact ⟨fun _ hnone => (nomatch hnone),
      fun _ _ => ⟨screen, hmem, screen.contains_constrain (origin + location)⟩⟩

/-- One step. -/
theorem over_step_iff (h : seat.Over) {event : Event} (hstep : seat.step event = some seat') :
    seat'.Over ↔ seat.Lands event := by
  cases event with
  | pointerMotion delta answers =>
    obtain rfl := some.inj hstep
    exact ⟨fun _ => trivial, fun _ => over_pointerMotion h delta answers⟩
  | pointerMotionAbsolute event output =>
    obtain rfl := some.inj hstep
    exact over_pointerMotionAbsolute h event output
  | tabletToolAxis event known =>
    obtain rfl := some.inj hstep
    refine ⟨fun _ => trivial, fun _ => ?_⟩
    unfold onTabletToolAxis
    split
    · split
      · exact h
      · exact h
    · exact h
  | tabletToolProximity event proximityIn =>
    obtain rfl := some.inj hstep
    exact over_tabletToolProximity h event proximityIn
  | pointerButton =>
    obtain rfl := some.inj hstep
    exact ⟨fun _ => trivial, fun _ => h⟩
  | moveCursorToOutput output =>
    obtain ⟨geo, hgeo, rfl⟩ := map_eq_some_iff.mp hstep
    obtain ⟨screen, hmem, rfl⟩ := exists_of_outputGeometry hgeo
    exact ⟨fun _ => trivial, fun _ => over_iff.mpr fun _ => ⟨screen, hmem, screen.contains_center⟩⟩
  | moveCursorToFocusedTile output rect mode =>
    obtain rfl := some.inj hstep
    exact over_tileTarget h output rect mode
  | cursorPositionHint origin location output =>
    obtain rfl := some.inj hstep
    exact over_cursorPositionHint origin location output
  | outputs globalSpace =>
    obtain rfl := some.inj hstep
    exact over_iff

theorem over_start (globalSpace : List Screen) (focused : ℕ) : (start globalSpace focused).Over := by
  rw [over_iff]
  intro hspace
  unfold start
  cases hscreen : globalSpace[focused]?.or globalSpace.head? with
  | none =>
    rw [or_eq_none_iff, List.head?_eq_none_iff] at hscreen
    exact (hspace hscreen.2).elim
  | some screen =>
    have hmem : screen ∈ globalSpace := by
      rcases or_eq_some_iff.mp hscreen with hget | ⟨-, hhead⟩
      · exact mem_of_getElem? hget
      · exact mem_of_head? hhead
    exact ⟨screen, hmem, screen.contains_center⟩

/-- An output of 1920 by 1080 pixels. -/
def fullHd : Screen where
  output := ⟨⟨"DP-1", none, none, none⟩, 1, ⟨1920, 1080⟩, .normal⟩
  loc := ⟨0, 0⟩
  size_pos := by decide

end Seat

end Tiri.Input
