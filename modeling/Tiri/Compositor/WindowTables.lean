import Tiri.Lib.Run
import Tiri.Screencasting.Casting
import Tiri.Ui.VirtualCursors
import Tiri.Ui.WindowMru

/-!
# Tables by window

What the compositor keeps under the id of a window: the shared streams, the virtual cursors, the
recent windows, the preview and the casts, with the two ways in which a window goes,
`toplevel_destroyed` of `handlers/xdg_shell.rs` and a commit without a buffer in
`handlers/compositor.rs`.

Results:
* `step_noStale_iff`: a step leaves no id of a window that is gone exactly when it does not remove a
  window that is shared or in a list that fades out, and pins no cursor to an id without a window;
* `always_noStale_iff`: so for runs.
-/

namespace Tiri.Compositor

open Casting (Screencasting CastTarget CastKey Cast CastingEvent Answers)
open Finmap
open List
open Option
open Ui (WindowMruUi WindowPreviewUi MruEvent MruContext)
open Ui.VirtualCursors (VirtualCursorUi VirtualCursorCreate VirtualCursorUpdate VirtualCursorError)

/-! ## The tables -/

/-- A window of the layout: its surface and its `MappedId`. -/
structure LayoutWindow where
  surface : ℕ
  id : ℕ

structure SharedWindowStream where
  windowId : ℕ
  streamId : String

/-- The windows, and what is kept under their ids. -/
structure WindowTables where
  /-- The surfaces of the toplevels that have no window in the layout. -/
  unmappedWindows : Finset ℕ
  windows : List LayoutWindow
  /-- The counter of `MappedId::next`. -/
  nextId : ℕ
  sharedWindowStreams : HashMap ℕ SharedWindowStream
  virtualCursorUi : VirtualCursorUi
  windowMruUi : WindowMruUi
  windowPreviewUi : WindowPreviewUi
  casting : Screencasting

namespace WindowTables

/-- Nothing is there yet. -/
def start (dynamicCastIdForPortal : ℕ) : WindowTables where
  unmappedWindows := ∅
  windows := []
  nextId := 0
  sharedWindowStreams := ∅
  virtualCursorUi := .default
  windowMruUi := .new
  windowPreviewUi := .new
  casting := .new dynamicCastIdForPortal

variable (w : WindowTables)

/-- The window with the id is in the layout. -/
def Mapped (id : ℕ) : Prop := id ∈ w.windows.map LayoutWindow.id

instance (id : ℕ) : Decidable (w.Mapped id) :=
  inferInstanceAs (Decidable (id ∈ w.windows.map LayoutWindow.id))

variable (surface : ℕ)

/-- `find_window_and_output`, as far as the window. -/
def findWindow : Option LayoutWindow := w.windows.find? (·.surface = surface)

/-! ## Windows come and go -/

/-- `layout.remove_window`. -/
def removeFromLayout : List LayoutWindow :=
  w.windows.eraseP (·.surface = surface)

/-- What both ways of removing a window do with its tables. -/
def dropWindow (window : LayoutWindow) (now : ℕ) : Option WindowTables := do
  let windowMruUi ← w.windowMruUi.removeWindow now window.id
  some { w with
    casting := w.casting.stopCastsForTarget (.window window.id)
    windowMruUi
    windows := w.removeFromLayout window.surface
    windowPreviewUi := (w.windowPreviewUi.removeWindow window.id).1
    virtualCursorUi := w.virtualCursorUi.removeWindow window.id }

def toplevelDestroyed (now : ℕ) : Option WindowTables :=
  if surface ∈ w.unmappedWindows then
    some { w with unmappedWindows := w.unmappedWindows.erase surface }
  else
    match w.findWindow surface with
    | none => some w
    | some window => w.dropWindow window now

/-- A commit of the surface of a toplevel, with or without a buffer. -/
def commit (isMapped : Bool) (now : ℕ) : Option WindowTables :=
  if surface ∈ w.unmappedWindows then
    if isMapped then
      some { w with
        unmappedWindows := w.unmappedWindows.erase surface
        windows := w.windows ++ [⟨surface, w.nextId⟩]
        nextId := w.nextId + 1 }
    else some w
  else
    match w.findWindow surface with
    | none => some w
    | some window =>
      if isMapped then some w
      else
        (w.dropWindow window now).map fun w =>
          { w with unmappedWindows := insert surface w.unmappedWindows }

/-! ## What clients ask for -/

def shareWindowStream (id : ℕ) (streamId : Option String) : Except String WindowTables :=
  if w.Mapped id then
    .ok { w with
      sharedWindowStreams :=
        w.sharedWindowStreams.insert id ⟨id, streamId.getD s!"local-window-{id}"⟩ }
  else .error s!"window {id} not found"

def stopWindowStream (id : ℕ) : WindowTables :=
  { w with sharedWindowStreams := w.sharedWindowStreams.erase id }

/-- `Request::CreateVirtualCursor`; the pointer is given as it is within the window, if it is over
it. -/
def createVirtualCursor (create : VirtualCursorCreate) (pointer : Option (ℚ × ℚ)) :
    Except String (Except VirtualCursorError VirtualCursorUi) :=
  if create.atPointer then
    match if w.Mapped create.windowId then pointer else none with
    | some (x, y) => .ok (w.virtualCursorUi.create { create with x, y })
    | none => .error s!"hardware pointer is not over window {create.windowId}"
  else .ok (w.virtualCursorUi.create create)

/-- What an answer leaves: an error changes nothing. -/
def orKeep {ε : Type} (answer : Except ε WindowTables) : WindowTables :=
  match answer with
  | .ok w => w
  | .error _ => w

/-- The virtual cursors that an answer leaves. -/
def withCursors {ε : Type} (answer : Except ε VirtualCursorUi) : WindowTables :=
  match answer with
  | .ok virtualCursorUi => { w with virtualCursorUi }
  | .error _ => w

/-- What the rest of the compositor answers the casts: it finds only windows of the layout. -/
def answers (a : Answers) : Answers :=
  { a with castParamsForWindow := fun id => w.Mapped id && a.castParamsForWindow id }

end WindowTables

/-! ## Runs -/

/-- What happens to the windows and their tables. -/
inductive TableEvent
  | newToplevel (surface : ℕ)
  | commit (surface : ℕ) (isMapped : Bool) (now : ℕ)
  | toplevelDestroyed (surface now : ℕ)
  | shareWindowStream (id : ℕ) (streamId : Option String)
  | stopWindowStream (id : ℕ)
  | createVirtualCursor (create : VirtualCursorCreate) (pointer : Option (ℚ × ℚ))
  | updateVirtualCursor (update : VirtualCursorUpdate)
  | moveVirtualCursor (cursorId : String) (x y : ℚ) (durationMs : Option ℕ)
  | destroyVirtualCursor (cursorId : String)
  | mru (e : MruEvent)
  | showWindowPreview (id output : ℕ) (description : Option String)
  | hideWindowPreview
  | casting (a : Answers) (e : CastingEvent)

namespace WindowTables

variable (w : WindowTables)

/-- The windows that the layout tells of are its own, each of them once. -/
def Tells (ctx : MruContext) : Prop :=
  ctx.ids.Nodup ∧ ∀ id ∈ ctx.ids, w.Mapped id

instance (w : WindowTables) (ctx : MruContext) : Decidable (w.Tells ctx) :=
  inferInstanceAs (Decidable (_ ∧ _))

/-- What the recent windows are told is what the layout has. -/
def Told : MruEvent → Prop
  | .advance _ _ _ ctx => w.Tells ctx
  | _ => True

instance (w : WindowTables) (e : MruEvent) : Decidable (w.Told e) := by
  cases e <;> unfold Told <;> infer_instance

/-- What an event does, where it can happen and does not panic. -/
def step : TableEvent → Option WindowTables
  | .newToplevel surface =>
    if surface ∈ w.unmappedWindows ∨ (w.findWindow surface).isSome then none
    else some { w with unmappedWindows := insert surface w.unmappedWindows }
  | .commit surface isMapped now => w.commit surface isMapped now
  | .toplevelDestroyed surface now => w.toplevelDestroyed surface now
  | .shareWindowStream id streamId => some (w.orKeep (w.shareWindowStream id streamId))
  | .stopWindowStream id => some (w.stopWindowStream id)
  | .createVirtualCursor create pointer =>
    match w.createVirtualCursor create pointer with
    | .ok answer => some (w.withCursors answer)
    | .error _ => some w
  | .updateVirtualCursor update => some (w.withCursors (w.virtualCursorUi.update update))
  | .moveVirtualCursor cursorId x y durationMs =>
    some (w.withCursors (w.virtualCursorUi.moveCursor cursorId x y durationMs))
  | .destroyVirtualCursor cursorId => some (w.withCursors (w.virtualCursorUi.destroy cursorId))
  | .mru e =>
    if w.Told e then (w.windowMruUi.step e).map fun windowMruUi => { w with windowMruUi }
    else none
  | .showWindowPreview id output description =>
    if w.Mapped id then
      some { w with windowPreviewUi := w.windowPreviewUi.show id output description }
    else some w
  | .hideWindowPreview => some { w with windowPreviewUi := w.windowPreviewUi.hide }
  | .casting a e => some { w with casting := w.casting.step (w.answers a) e }

/-- Every id that is kept is that of a window of the layout. -/
structure NoStale (w : WindowTables) : Prop where
  streams : ∀ k stream, w.sharedWindowStreams.lookup k = some stream → w.Mapped stream.windowId
  cursors : ∀ id, w.virtualCursorUi.Pinned id → w.Mapped id
  recent : ∀ id ∈ w.windowMruUi.ids, w.Mapped id
  casts : ∀ id, w.casting.Shows (.window id) → w.Mapped id

/-- A window that goes is not shared, and in no list that fades out. -/
def Forgotten (window : LayoutWindow) : Prop :=
  window.id ∉ w.sharedWindowStreams ∧ window.id ∉ w.windowMruUi.closingIds

/-- A window that goes is forgotten, and a cursor is pinned to a window of the layout. -/
def Careful : TableEvent → Prop
  | .commit surface isMapped _ =>
    surface ∉ w.unmappedWindows → isMapped = false → ∀ window ∈ w.findWindow surface,
      w.Forgotten window
  | .toplevelDestroyed surface _ =>
    surface ∉ w.unmappedWindows → ∀ window ∈ w.findWindow surface, w.Forgotten window
  | .createVirtualCursor create _ =>
    create.atPointer = false →
      (create.replaceExisting = true ∨ create.cursorId ∉ w.virtualCursorUi.cursors) →
        w.Mapped create.windowId
  | .updateVirtualCursor update =>
    update.cursorId ∈ w.virtualCursorUi.cursors → ∀ id ∈ update.windowId, w.Mapped id
  | _ => True

instance (w : WindowTables) (window : LayoutWindow) : Decidable (w.Forgotten window) :=
  inferInstanceAs (Decidable (_ ∧ _))

instance (w : WindowTables) (e : TableEvent) : Decidable (w.Careful e) := by
  unfold Careful
  split <;> infer_instance

/-! ## What holds between the events -/

/-- What a step keeps anyway: no two windows have one id, the tables are keyed as they are looked
up, and the preview is of a window of the layout. -/
structure Inv (w : WindowTables) : Prop where
  distinct : (w.windows.map LayoutWindow.id).Nodup
  fresh : ∀ id, w.Mapped id → id < w.nextId
  keyed : HashMap.Keyed SharedWindowStream.windowId w.sharedWindowStreams
  recent : w.windowMruUi.ids.Nodup
  preview : ∀ p ∈ w.windowPreviewUi.preview, w.Mapped p.1
  descriptions : ∀ id ∈ w.windowPreviewUi.descriptions, w.Mapped id

variable (dynamicCastIdForPortal : ℕ)

theorem inv_start : (start dynamicCastIdForPortal).Inv where
  distinct := nodup_nil
  fresh _ h := (not_mem_nil h).elim
  keyed := HashMap.keyed_empty _
  recent := nodup_nil
  preview _ h := nomatch h
  descriptions _ h := (notMem_empty h).elim

theorem noStale_start : (start dynamicCastIdForPortal).NoStale where
  streams k stream h := by
    exact nomatch h
  cursors id h := (VirtualCursorUi.not_pinned_default id h).elim
  recent _ h := (not_mem_nil h).elim
  casts := by
    rintro id ⟨cast, hcast, -⟩
    exact (not_mem_nil hcast).elim

variable {w : WindowTables} {surface : ℕ} {window : LayoutWindow} {w' : WindowTables} {now : ℕ}
variable {create : VirtualCursorCreate} {isMapped : Bool}

theorem findWindow_surface (h : w.findWindow surface = some window) : window.surface = surface := by
  have hfound := List.find?_some (p := fun win : LayoutWindow => win.surface = surface) h
  exact of_decide_eq_true hfound

/-- What is left in a list of windows with distinct ids. -/
theorem mem_ids_eraseP {windows : List LayoutWindow}
    (hdistinct : (windows.map LayoutWindow.id).Nodup)
    (h : windows.find? (·.surface = surface) = some window) (id : ℕ) :
    id ∈ (windows.eraseP (·.surface = surface)).map LayoutWindow.id ↔
      id ∈ windows.map LayoutWindow.id ∧ id ≠ window.id := by
  induction windows with
  | nil => exact nomatch h
  | cons first windows ih =>
    rw [map_cons, nodup_cons] at hdistinct
    by_cases hfirst : first.surface = surface
    · rw [List.find?_cons_of_pos (by simpa using hfirst), some.injEq] at h
      subst h
      rw [eraseP_cons_of_pos (by simpa using hfirst), map_cons, mem_cons]
      constructor
      · intro hid
        exact ⟨.inr hid, fun heq => hdistinct.1 (heq ▸ hid)⟩
      · rintro ⟨heq | hid, hne⟩
        · exact absurd heq hne
        · exact hid
    · rw [List.find?_cons_of_neg (by simpa using hfirst)] at h
      have hne : first.id ≠ window.id := by
        intro heq
        exact hdistinct.1 (heq ▸ mem_map_of_mem (mem_of_find?_eq_some h))
      rw [eraseP_cons_of_neg (by simpa using hfirst), map_cons, map_cons,
        mem_cons, mem_cons, ih hdistinct.2 h]
      constructor
      · rintro (rfl | ⟨hid, hneId⟩)
        · exact ⟨.inl rfl, hne⟩
        · exact ⟨.inr hid, hneId⟩
      · rintro ⟨heq | hid, hneId⟩
        · exact .inl heq
        · exact .inr ⟨hid, hneId⟩

/-- **What a dropped window leaves**: its id in the streams, and in a list that fades out. -/
structure Drops (w : WindowTables) (window : LayoutWindow) (w' : WindowTables) : Prop where
  mapped : ∀ id, w'.Mapped id ↔ w.Mapped id ∧ id ≠ window.id
  distinct : (w'.windows.map LayoutWindow.id).Nodup
  nextId : w'.nextId = w.nextId
  streams : w'.sharedWindowStreams = w.sharedWindowStreams
  cursors : ∀ id, w'.virtualCursorUi.Pinned id ↔ w.virtualCursorUi.Pinned id ∧ id ≠ window.id
  recent : w'.windowMruUi.ids.Sublist w.windowMruUi.ids
  recentId : window.id ∈ w'.windowMruUi.ids ↔ window.id ∈ w.windowMruUi.closingIds
  preview : ∀ p ∈ w'.windowPreviewUi.preview, p ∈ w.windowPreviewUi.preview ∧ p.1 ≠ window.id
  descriptions : ∀ id ∈ w'.windowPreviewUi.descriptions,
    id ∈ w.windowPreviewUi.descriptions ∧ id ≠ window.id
  casts : ∀ id, w'.casting.Shows (.window id) →
    w.casting.Shows (.window id) ∧ id ≠ window.id

theorem dropWindow_drops (hw : w.Inv) (hfound : w.findWindow surface = some window)
    (h : w.dropWindow window now = some w') : w.Drops window w' := by
  obtain ⟨ui, hui, h⟩ := bind_eq_some_iff.mp h
  obtain rfl := some.inj h
  have hsurface : window.surface = surface := findWindow_surface hfound
  subst hsurface
  refine {
    mapped := fun id => mem_ids_eraseP hw.distinct hfound id
    distinct := hw.distinct.sublist ((eraseP_sublist).map _)
    nextId := rfl
    streams := rfl
    cursors := fun id => VirtualCursorUi.pinned_removeWindow
    recent := WindowMruUi.removeWindow_ids_sublist hui
    recentId := WindowMruUi.mem_removeWindow_ids hw.recent hui
    preview := fun p => WindowPreviewUi.mem_removeWindow_preview
    descriptions := fun id => WindowPreviewUi.mem_removeWindow_descriptions
    casts := ?_ }
  intro id hshows
  obtain ⟨hold, hne⟩ := Screencasting.shows_stopCastsForTarget hshows
  exact ⟨hold, fun heq => hne (congrArg CastTarget.window heq)⟩

theorem Drops.inv (h : w.Drops window w') (hw : w.Inv) : w'.Inv where
  distinct := h.distinct
  fresh id hid := by
    rw [h.nextId]
    exact hw.fresh id ((h.mapped id).mp hid).1
  keyed := h.streams ▸ hw.keyed
  recent := hw.recent.sublist h.recent
  preview p hp := (h.mapped p.1).mpr ⟨hw.preview p (h.preview p hp).1, (h.preview p hp).2⟩
  descriptions id hid :=
    (h.mapped id).mpr ⟨hw.descriptions id (h.descriptions id hid).1, (h.descriptions id hid).2⟩

/-- A window that is dropped leaves nothing behind exactly when it is forgotten. -/
theorem Drops.noStale_iff (h : w.Drops window w') (hw : w.Inv) (hold : w.NoStale) :
    w'.NoStale ↔ w.Forgotten window := by
  constructor
  · intro hnew
    constructor
    · intro hshared
      obtain ⟨stream, hstream⟩ := mem_iff.mp hshared
      have hmapped : w'.Mapped stream.windowId :=
        hnew.streams window.id stream (h.streams ▸ hstream)
      rw [hw.keyed window.id stream hstream] at hmapped
      exact ((h.mapped window.id).mp hmapped).2 rfl
    · intro hclosing
      have hmapped : w'.Mapped window.id := hnew.recent window.id (h.recentId.mpr hclosing)
      exact ((h.mapped window.id).mp hmapped).2 rfl
  · rintro ⟨hshared, hclosing⟩
    refine ⟨?_, ?_, ?_, ?_⟩
    · intro k stream hstream
      rw [h.streams] at hstream
      refine (h.mapped stream.windowId).mpr ⟨hold.streams k stream hstream, fun heq => hshared ?_⟩
      rw [hw.keyed k stream hstream] at heq
      exact mem_iff.mpr ⟨stream, heq ▸ hstream⟩
    · intro id hpinned
      obtain ⟨hpinned, hne⟩ := (h.cursors id).mp hpinned
      exact (h.mapped id).mpr ⟨hold.cursors id hpinned, hne⟩
    · intro id hid
      refine (h.mapped id).mpr ⟨hold.recent id (h.recent.subset hid), ?_⟩
      rintro rfl
      exact hclosing (h.recentId.mp hid)
    · intro id hshows
      obtain ⟨hshows, hne⟩ := h.casts id hshows
      exact (h.mapped id).mpr ⟨hold.casts id hshows, hne⟩

/-! ## Steps -/

/-- A step that leaves the windows, and of the tables no more than was there. -/
structure Quiet (w w' : WindowTables) : Prop where
  mapped : ∀ id, w.Mapped id → w'.Mapped id
  streams : ∀ k stream, w'.sharedWindowStreams.lookup k = some stream →
    w.sharedWindowStreams.lookup k = some stream ∨ w.Mapped stream.windowId
  cursors : ∀ id, w'.virtualCursorUi.Pinned id → w.virtualCursorUi.Pinned id ∨ w.Mapped id
  recent : ∀ id ∈ w'.windowMruUi.ids, id ∈ w.windowMruUi.ids ∨ w.Mapped id
  casts : ∀ id, w'.casting.Shows (.window id) → w.casting.Shows (.window id) ∨ w.Mapped id

theorem Quiet.noStale (h : Quiet w w') (hw : w.NoStale) : w'.NoStale where
  streams k stream hstream :=
    h.mapped _ ((h.streams k stream hstream).elim (hw.streams k stream) id)
  cursors id hid := h.mapped _ ((h.cursors id hid).elim (hw.cursors id) fun hm => hm)
  recent id hid := h.mapped _ ((h.recent id hid).elim (hw.recent id) fun hm => hm)
  casts id hid := h.mapped _ ((h.casts id hid).elim (hw.casts id) fun hm => hm)

theorem Quiet.refl (w : WindowTables) : Quiet w w where
  mapped _ h := h
  streams _ _ h := .inl h
  cursors _ h := .inl h
  recent _ h := .inl h
  casts _ h := .inl h

section

variable (hw : w.NoStale)
include hw

/-- Only the cursors change. -/
theorem noStale_cursors_iff {virtualCursorUi : VirtualCursorUi} :
    { w with virtualCursorUi }.NoStale ↔ ∀ id, virtualCursorUi.Pinned id → w.Mapped id :=
  ⟨fun h => h.cursors, fun h => { hw with cursors := h }⟩

/-- A new cursor is pinned to a window of the layout, or not. -/
theorem noStale_create_iff {ui : VirtualCursorUi} (h : w.virtualCursorUi.create create = .ok ui) :
    { w with virtualCursorUi := ui }.NoStale ↔ w.Mapped create.windowId := by
  obtain ⟨hpinned, hothers⟩ := VirtualCursorUi.pinned_create h
  rw [noStale_cursors_iff hw]
  constructor
  · exact fun hall => hall create.windowId hpinned
  · intro hmapped id hid
    rcases hothers id hid with rfl | hold
    · exact hmapped
    · exact hw.cursors id hold

theorem noStale_withCursors_create (hmapped : w.Mapped create.windowId) :
    (w.withCursors (w.virtualCursorUi.create create)).NoStale := by
  cases hcreate : w.virtualCursorUi.create create with
  | error _ => exact hw
  | ok ui => exact (noStale_create_iff hw hcreate).mpr hmapped

theorem createVirtualCursor_iff {pointer : Option (ℚ × ℚ)}
    (h : w.step (.createVirtualCursor create pointer) = some w') :
    w'.NoStale ↔ w.Careful (.createVirtualCursor create pointer) := by
  simp only [step, createVirtualCursor, Careful] at h ⊢
  cases hpointer : create.atPointer with
  | true =>
    rw [hpointer, if_pos rfl] at h
    refine iff_of_true ?_ nofun
    by_cases hmapped : w.Mapped create.windowId
    · rw [if_pos hmapped] at h
      cases pointer with
      | none =>
        obtain rfl := some.inj h
        exact hw
      | some pos =>
        obtain rfl := some.inj h
        exact noStale_withCursors_create hw hmapped
    · rw [if_neg hmapped] at h
      obtain rfl := some.inj h
      exact hw
  | false =>
    rw [hpointer, if_neg Bool.false_ne_true] at h
    obtain rfl := some.inj h
    by_cases hexists : create.replaceExisting = false ∧ create.cursorId ∈ w.virtualCursorUi.cursors
    · have hcreate : w.virtualCursorUi.create create = .error (.alreadyExists create.cursorId) := by
        rw [VirtualCursorUi.create, if_pos hexists]
      rw [hcreate]
      refine iff_of_true hw fun _ hnew => ?_
      rcases hnew with hreplace | hnot
      · exact absurd (hexists.1.symm.trans hreplace) Bool.false_ne_true
      · exact absurd hexists.2 hnot
    · have hnew : create.replaceExisting = true ∨
          create.cursorId ∉ w.virtualCursorUi.cursors := by
        by_contra hnot
        push Not at hnot
        exact hexists ⟨Bool.eq_false_of_not_eq_true hnot.1, hnot.2⟩
      obtain ⟨ui, hcreate⟩ : ∃ ui, w.virtualCursorUi.create create = .ok ui := by
        rw [VirtualCursorUi.create, if_neg hexists]
        exact ⟨_, rfl⟩
      rw [hcreate]
      refine (noStale_create_iff hw hcreate).trans ⟨fun hmapped _ _ => hmapped, fun hall => ?_⟩
      exact hall rfl hnew

theorem updateVirtualCursor_iff {update : VirtualCursorUpdate}
    (h : w.step (.updateVirtualCursor update) = some w') :
    w'.NoStale ↔ w.Careful (.updateVirtualCursor update) := by
  obtain rfl := some.inj h
  cases hupdate : w.virtualCursorUi.update update with
  | error _ =>
    refine iff_of_true hw fun hmem => ?_
    obtain ⟨cursor, hcursor⟩ := mem_iff.mp hmem
    obtain ⟨ui, hui⟩ := VirtualCursorUi.exists_update hcursor
    exact nomatch hupdate.symm.trans hui
  | ok ui =>
    obtain ⟨cursor, hcursor, hpinned, hothers⟩ := VirtualCursorUi.pinned_modify hupdate
    rw [Ui.VirtualCursors.PinnedCursor.windowId_update] at hpinned hothers
    refine (noStale_cursors_iff hw).trans ⟨?_, ?_⟩
    · intro hall _ id hid
      have hmapped := hall _ hpinned
      rw [show update.windowId = some id from hid] at hmapped
      exact hmapped
    · intro hall id hid
      rcases hothers id hid with rfl | hold
      · cases hwindow : update.windowId with
        | none => exact hw.cursors _ ⟨update.cursorId, cursor, hcursor, rfl⟩
        | some windowId => exact hall (mem_iff.mpr ⟨cursor, hcursor⟩) windowId hwindow
      · exact hw.cursors id hold

end

/-- A window is dropped, or nothing happens to the tables. -/
theorem toplevelDestroyed_cases (h : w.toplevelDestroyed surface now = some w') :
    (∃ window, surface ∉ w.unmappedWindows ∧ w.findWindow surface = some window ∧
      w.dropWindow window now = some w') ∨
    (surface ∈ w.unmappedWindows ∨ w.findWindow surface = none) ∧
      ∃ unmappedWindows, w' = { w with unmappedWindows } := by
  unfold toplevelDestroyed at h
  split at h
  · rename_i hmem
    exact .inr ⟨.inl hmem, _, (some.inj h).symm⟩
  · rename_i hnot
    cases hfind : w.findWindow surface with
    | none =>
      rw [hfind] at h
      exact .inr ⟨.inr rfl, w.unmappedWindows, (some.inj h).symm⟩
    | some window =>
      rw [hfind] at h
      exact .inl ⟨window, hnot, rfl, h⟩

/-- A window is dropped, a window is mapped, or nothing happens to the tables. -/
theorem commit_cases (h : w.commit surface isMapped now = some w') :
    (∃ window w₁ unmappedWindows, surface ∉ w.unmappedWindows ∧ isMapped = false ∧
      w.findWindow surface = some window ∧ w.dropWindow window now = some w₁ ∧
        w' = { w₁ with unmappedWindows }) ∨
    (surface ∈ w.unmappedWindows ∨ isMapped = true ∨ w.findWindow surface = none) ∧
      ((∃ unmappedWindows, w' = { w with
        unmappedWindows
        windows := w.windows ++ [⟨surface, w.nextId⟩]
        nextId := w.nextId + 1 }) ∨ w' = w) := by
  unfold commit at h
  split at h
  · rename_i hmem
    split at h
    · exact .inr ⟨.inl hmem, .inl ⟨_, (some.inj h).symm⟩⟩
    · exact .inr ⟨.inl hmem, .inr (some.inj h).symm⟩
  · rename_i hnot
    cases hfind : w.findWindow surface with
    | none =>
      rw [hfind] at h
      exact .inr ⟨.inr (.inr rfl), .inr (some.inj h).symm⟩
    | some window =>
      rw [hfind] at h
      dsimp only at h
      split at h
      · rename_i hmapped
        exact .inr ⟨.inr (.inl hmapped), .inr (some.inj h).symm⟩
      · rename_i hmapped
        obtain ⟨w₁, hdrop, rfl⟩ := map_eq_some_iff.mp h
        exact .inl ⟨window, w₁, _, hnot, Bool.eq_false_of_not_eq_true hmapped, rfl, hdrop, rfl⟩

/-- Which toplevels are unmapped is not asked. -/
theorem noStale_unmappedWindows {unmappedWindows : Finset ℕ} :
    { w with unmappedWindows }.NoStale ↔ w.NoStale :=
  ⟨fun h => ⟨h.streams, h.cursors, h.recent, h.casts⟩,
    fun h => ⟨h.streams, h.cursors, h.recent, h.casts⟩⟩

theorem noStale_preview {windowPreviewUi : WindowPreviewUi} :
    { w with windowPreviewUi }.NoStale ↔ w.NoStale :=
  ⟨fun h => ⟨h.streams, h.cursors, h.recent, h.casts⟩,
    fun h => ⟨h.streams, h.cursors, h.recent, h.casts⟩⟩

theorem inv_unmappedWindows (hw : w.Inv) (unmappedWindows : Finset ℕ) :
    { w with unmappedWindows }.Inv :=
  ⟨hw.distinct, hw.fresh, hw.keyed, hw.recent, hw.preview, hw.descriptions⟩

/-- A window is mapped under a new id. -/
theorem quiet_map (w : WindowTables) (surface : ℕ) (unmappedWindows : Finset ℕ) :
    Quiet w { w with
      unmappedWindows
      windows := w.windows ++ [⟨surface, w.nextId⟩]
      nextId := w.nextId + 1 } :=
  { Quiet.refl w with
    mapped := by
      intro id hid
      change id ∈ (w.windows ++ [(⟨surface, w.nextId⟩ : LayoutWindow)]).map LayoutWindow.id
      rw [map_append]
      exact mem_append_left _ hid }

theorem toplevelDestroyed_iff (hw : w.Inv) (hold : w.NoStale)
    (h : w.toplevelDestroyed surface now = some w') :
    w'.NoStale ↔ w.Careful (.toplevelDestroyed surface now) := by
  simp only [Careful]
  rcases toplevelDestroyed_cases h with ⟨window, hnot, hfind, hdrop⟩ | ⟨hnone, _, rfl⟩
  · rw [(dropWindow_drops hw hfind hdrop).noStale_iff hw hold, hfind]
    exact ⟨fun hforgotten _ _ hwindow => some.inj hwindow ▸ hforgotten,
      fun hall => hall hnot window rfl⟩
  · refine iff_of_true (noStale_unmappedWindows.mpr hold) fun hnot window hwindow => ?_
    rcases hnone with hmem | hfind
    · exact absurd hmem hnot
    · exact nomatch hfind.symm.trans hwindow

theorem commit_iff (hw : w.Inv) (hold : w.NoStale) (h : w.commit surface isMapped now = some w') :
    w'.NoStale ↔ w.Careful (.commit surface isMapped now) := by
  simp only [Careful]
  rcases commit_cases h with
    ⟨window, w₁, _, hnot, hmapped, hfind, hdrop, rfl⟩ | ⟨hnone, hrest⟩
  · rw [noStale_unmappedWindows, (dropWindow_drops hw hfind hdrop).noStale_iff hw hold, hfind]
    exact ⟨fun hforgotten _ _ _ hwindow => some.inj hwindow ▸ hforgotten,
      fun hall => hall hnot hmapped window rfl⟩
  · refine iff_of_true ?_ fun hnot hunmapped window hwindow => ?_
    · rcases hrest with ⟨unmappedWindows, rfl⟩ | rfl
      · exact (quiet_map w surface unmappedWindows).noStale hold
      · exact hold
    · rcases hnone with hmem | hmapped | hfind
      · exact absurd hmem hnot
      · exact absurd (hunmapped.symm.trans hmapped) Bool.false_ne_true
      · exact nomatch hfind.symm.trans hwindow

/-- The recent windows are those of the layout. -/
theorem quiet_mru {e : MruEvent} (htold : w.Told e) {ui : WindowMruUi}
    (h : w.windowMruUi.step e = some ui) : Quiet w { w with windowMruUi := ui } :=
  { Quiet.refl w with
    recent := by
      intro id hid
      rcases WindowMruUi.step_ids h with hsub | ⟨_, _, _, ctx, rfl, hperm⟩
      · exact .inl (hsub.subset hid)
      · exact .inr (htold.2 id (hperm.mem_iff.mp hid)) }

/-- A cast of a window starts only with a window of the layout. -/
theorem quiet_casting (w : WindowTables) (a : Answers) (e : CastingEvent) :
    Quiet w { w with casting := w.casting.step (w.answers a) e } :=
  { Quiet.refl w with
    casts := by
      intro id hshows
      rcases (w.casting.opens_step (w.answers a) e).shows hshows with hold | ⟨key, hkey, htarget⟩
      · exact .inl hold
      · have hfound : (w.answers a).castParamsForWindow id = true :=
          Screencasting.target_opens hkey htarget
        exact .inr (of_decide_eq_true (Bool.and_eq_true_iff.mp hfound).1) }

theorem quiet_shareWindowStream (w : WindowTables) (id : ℕ) (streamId : Option String) :
    Quiet w (w.orKeep (w.shareWindowStream id streamId)) := by
  unfold shareWindowStream
  split
  · rename_i hmapped
    refine { Quiet.refl w with streams := ?_ }
    intro k stream hstream
    change (w.sharedWindowStreams.insert id _).lookup k = some stream at hstream
    by_cases hk : k = id
    · rw [hk, lookup_insert] at hstream
      rw [← some.inj hstream]
      exact .inr hmapped
    · rw [lookup_insert_of_ne _ hk] at hstream
      exact .inl hstream
  · exact Quiet.refl w

theorem quiet_stopWindowStream (w : WindowTables) (id : ℕ) : Quiet w (w.stopWindowStream id) :=
  { Quiet.refl w with streams := fun _ _ h => .inl (HashMap.lookup_of_erase h) }

/-- Cursors that move or go stay pinned where they were. -/
theorem quiet_cursors {answer : Except VirtualCursorError VirtualCursorUi}
    (h : ∀ ui, answer = .ok ui → ∀ id, ui.Pinned id → w.virtualCursorUi.Pinned id) :
    Quiet w (w.withCursors answer) := by
  cases answer with
  | error _ => exact Quiet.refl w
  | ok ui => exact { Quiet.refl w with cursors := fun id hid => .inl (h ui rfl id hid) }

/-- **A step** leaves no id of a window that is gone exactly if it is careful. -/
theorem step_noStale_iff (w : WindowTables) (e : TableEvent) (w' : WindowTables) (hw : w.Inv)
    (hold : w.NoStale) (h : w.step e = some w') : w'.NoStale ↔ w.Careful e := by
  cases e with
  | newToplevel surface =>
    obtain ⟨-, h⟩ := ite_none_left_eq_some.mp h
    obtain rfl := some.inj h
    exact iff_of_true (noStale_unmappedWindows.mpr hold) trivial
  | commit surface isMapped now => exact commit_iff hw hold h
  | toplevelDestroyed surface now => exact toplevelDestroyed_iff hw hold h
  | shareWindowStream id streamId =>
    obtain rfl := some.inj h
    exact iff_of_true ((w.quiet_shareWindowStream id streamId).noStale hold) trivial
  | stopWindowStream id =>
    obtain rfl := some.inj h
    exact iff_of_true ((w.quiet_stopWindowStream id).noStale hold) trivial
  | createVirtualCursor create pointer => exact createVirtualCursor_iff hold h
  | updateVirtualCursor update => exact updateVirtualCursor_iff hold h
  | moveVirtualCursor cursorId x y durationMs =>
    obtain rfl := some.inj h
    refine iff_of_true (Quiet.noStale (quiet_cursors fun ui hui id hid => ?_) hold) trivial
    obtain ⟨cursor, hcursor, -, hothers⟩ := VirtualCursorUi.pinned_modify hui
    rcases hothers id hid with rfl | hpinned
    · exact ⟨cursorId, cursor, hcursor, rfl⟩
    · exact hpinned
  | destroyVirtualCursor cursorId =>
    obtain rfl := some.inj h
    refine iff_of_true (Quiet.noStale (quiet_cursors fun ui hui id hid => ?_) hold) trivial
    exact VirtualCursorUi.pinned_destroy hui hid
  | mru e =>
    obtain ⟨htold, h⟩ := ite_none_right_eq_some.mp h
    obtain ⟨ui, hui, rfl⟩ := map_eq_some_iff.mp h
    exact iff_of_true ((quiet_mru htold hui).noStale hold) trivial
  | showWindowPreview id output description =>
    simp only [step] at h
    split at h
    · obtain rfl := some.inj h
      exact iff_of_true (noStale_preview.mpr hold) trivial
    · obtain rfl := some.inj h
      exact iff_of_true hold trivial
  | hideWindowPreview =>
    obtain rfl := some.inj h
    exact iff_of_true (noStale_preview.mpr hold) trivial
  | casting a e =>
    obtain rfl := some.inj h
    exact iff_of_true ((w.quiet_casting a e).noStale hold) trivial

section

variable (hw : w.Inv)
include hw

/-- A new id is above all others. -/
theorem inv_map (surface : ℕ) (unmappedWindows : Finset ℕ) :
    { w with
      unmappedWindows
      windows := w.windows ++ [(⟨surface, w.nextId⟩ : LayoutWindow)]
      nextId := w.nextId + 1 }.Inv := by
  have hmapped := (quiet_map w surface unmappedWindows).mapped
  refine { hw with
    distinct := ?_
    fresh := ?_
    preview := fun p hp => hmapped p.1 (hw.preview p hp)
    descriptions := fun id hid => hmapped id (hw.descriptions id hid) }
  · change ((w.windows ++ [(⟨surface, w.nextId⟩ : LayoutWindow)]).map LayoutWindow.id).Nodup
    rw [map_append, map_singleton, nodup_append]
    refine ⟨hw.distinct, nodup_singleton _, fun id hid id' hid' => ?_⟩
    rw [mem_singleton.mp hid']
    exact (hw.fresh id hid).ne
  · intro id hid
    change id ∈ (w.windows ++ [(⟨surface, w.nextId⟩ : LayoutWindow)]).map LayoutWindow.id at hid
    rw [map_append, mem_append] at hid
    rcases hid with hid | hid
    · exact (hw.fresh id hid).trans (Nat.lt_succ_self _)
    · rw [mem_singleton.mp hid]
      exact Nat.lt_succ_self _

theorem inv_toplevelDestroyed (h : w.toplevelDestroyed surface now = some w') : w'.Inv := by
  rcases toplevelDestroyed_cases h with ⟨window, -, hfind, hdrop⟩ | ⟨-, unmappedWindows, rfl⟩
  · exact (dropWindow_drops hw hfind hdrop).inv hw
  · exact inv_unmappedWindows hw unmappedWindows

theorem inv_commit (h : w.commit surface isMapped now = some w') : w'.Inv := by
  rcases commit_cases h with
    ⟨window, w₁, unmappedWindows, -, -, hfind, hdrop, rfl⟩ | ⟨-, ⟨unmappedWindows, rfl⟩ | rfl⟩
  · exact inv_unmappedWindows ((dropWindow_drops hw hfind hdrop).inv hw) unmappedWindows
  · exact inv_map hw surface unmappedWindows
  · exact hw

theorem inv_shareWindowStream (id : ℕ) (streamId : Option String) :
    (w.orKeep (w.shareWindowStream id streamId)).Inv := by
  unfold shareWindowStream
  split
  · exact { hw with keyed := hw.keyed.insert rfl }
  · exact hw

theorem inv_withCursors {ε : Type} (answer : Except ε VirtualCursorUi) :
    (w.withCursors answer).Inv := by
  cases answer with
  | error _ => exact hw
  | ok ui => exact ⟨hw.distinct, hw.fresh, hw.keyed, hw.recent, hw.preview, hw.descriptions⟩

theorem inv_mru {e : MruEvent} (htold : w.Told e) {ui : WindowMruUi}
    (h : w.windowMruUi.step e = some ui) : { w with windowMruUi := ui }.Inv := by
  refine { hw with recent := ?_ }
  rcases WindowMruUi.step_ids h with hsub | ⟨_, _, _, ctx, rfl, hperm⟩
  · exact hw.recent.sublist hsub
  · exact hperm.nodup_iff.mpr htold.1

theorem inv_showWindowPreview {id : ℕ} (hid : w.Mapped id) (output : ℕ)
    (description : Option String) :
    { w with windowPreviewUi := w.windowPreviewUi.show id output description }.Inv := by
  refine { hw with preview := ?_, descriptions := ?_ }
  · intro p hp
    rw [← some.inj hp]
    exact hid
  · intro id' hid'
    rcases WindowPreviewUi.mem_show_descriptions hid' with rfl | hold
    · exact hid
    · exact hw.descriptions id' hold

end

/-- Every step keeps the invariant. -/
theorem inv_step (w : WindowTables) (e : TableEvent) (w' : WindowTables) (hw : w.Inv)
    (h : w.step e = some w') : w'.Inv := by
  cases e with
  | newToplevel surface =>
    obtain ⟨-, h⟩ := ite_none_left_eq_some.mp h
    obtain rfl := some.inj h
    exact inv_unmappedWindows hw _
  | commit surface isMapped now => exact inv_commit hw h
  | toplevelDestroyed surface now => exact inv_toplevelDestroyed hw h
  | shareWindowStream id streamId =>
    obtain rfl := some.inj h
    exact inv_shareWindowStream hw id streamId
  | stopWindowStream id =>
    obtain rfl := some.inj h
    exact { hw with keyed := hw.keyed.erase id }
  | createVirtualCursor create pointer =>
    simp only [step] at h
    split at h
    · obtain rfl := some.inj h
      exact inv_withCursors hw _
    · obtain rfl := some.inj h
      exact hw
  | updateVirtualCursor | moveVirtualCursor | destroyVirtualCursor =>
    obtain rfl := some.inj h
    exact inv_withCursors hw _
  | mru e =>
    obtain ⟨htold, h⟩ := ite_none_right_eq_some.mp h
    obtain ⟨ui, hui, rfl⟩ := map_eq_some_iff.mp h
    exact inv_mru hw htold hui
  | showWindowPreview id output description =>
    simp only [step] at h
    split at h
    · rename_i hid
      obtain rfl := some.inj h
      exact inv_showWindowPreview hw hid output description
    · obtain rfl := some.inj h
      exact hw
  | hideWindowPreview =>
    obtain rfl := some.inj h
    exact { hw with preview := fun _ hp => nomatch hp }
  | casting a e =>
    obtain rfl := some.inj h
    exact ⟨hw.distinct, hw.fresh, hw.keyed, hw.recent, hw.preview, hw.descriptions⟩

/-- **Runs**: no id of a window that is gone is ever kept exactly if every step is careful. -/
theorem always_noStale_iff (dynamicCastIdForPortal : ℕ) (es : List TableEvent) :
    Run.Always step NoStale (start dynamicCastIdForPortal) es ↔
      Run.Along step Careful (start dynamicCastIdForPortal) es :=
  Run.always_iff_along inv_step step_noStale_iff (inv_start _) (noStale_start _)

/-- A window is mapped and shared, and its toplevel is destroyed. -/
def sharedAndDestroyed : List TableEvent :=
  [.newToplevel 7, .commit 7 true 0, .shareWindowStream 0 none, .toplevelDestroyed 7 0]

/-- The stream of the window stays. -/
theorem sharedAndDestroyed_stale : ¬Run.Always step NoStale (start 1000) sharedAndDestroyed := by
  rw [Run.always_iff_along inv_step step_noStale_iff (inv_start _) (noStale_start _)]
  decide +kernel

end WindowTables

end Tiri.Compositor
