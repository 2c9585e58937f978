import Tiri.Ipc.State
import Tiri.Lib.Fold

/-!
# The windows of the event stream

`State::ipc_refresh_windows` (`ipc/server.rs`, lines 915–1016) compares what the server has told
its clients with the windows of the layout.  It sends one event for each change of a window,
then all changed positions in one event, then the closed windows, and last that no window is
focused any more.

Results:
* `refreshWindows_exact`: applied in order, the events lead from what an earlier refresh has
  left to exactly the snapshot of the windows, no event finds its window missing, and at no
  point are two windows focused.
-/

namespace Tiri.Ipc

open Option HashMap
open List hiding map_map
open Finmap hiding mem_singleton

/-! ## What the refresh reads -/

/-- A window of the compositor. -/
structure Mapped where
  id : ℕ
  title : Option String
  appId : Option String
  pid : Option ℤ
  isFocused : Bool
  isFloating : Bool
  isUrgent : Bool
  focusTimestamp : Option Timestamp

/-- What `layout.with_windows()` passes to its callback. -/
structure WindowEntry where
  mapped : Mapped
  workspaceId : Option ℕ
  layout : WindowLayout

/-- `make_ipc_window` (`ipc/server.rs`, lines 742–759). -/
def makeIpcWindow (entry : WindowEntry) : Window where
  id := entry.mapped.id
  title := entry.mapped.title
  appId := entry.mapped.appId
  pid := entry.mapped.pid
  workspaceId := entry.workspaceId
  isFocused := entry.mapped.isFocused
  isFloating := entry.mapped.isFloating
  isUrgent := entry.mapped.isUrgent
  layout := entry.layout
  focusTimestamp := entry.mapped.focusTimestamp

/-! ## The refresh -/

/-- The properties that only `WindowOpenedOrChanged` can change. -/
def windowChanged (ipcWin : Window) (entry : WindowEntry) : Bool :=
  ipcWin.workspaceId ≠ entry.workspaceId || ipcWin.isFloating ≠ entry.mapped.isFloating ||
    ipcWin.title ≠ entry.mapped.title || ipcWin.appId ≠ entry.mapped.appId

/-- The body of the callback: the events it pushes. -/
def diffWindow (state : WindowsState) (entry : WindowEntry) : List Event :=
  let id := entry.mapped.id
  match state.windows.lookup id with
  | none => [.windowOpenedOrChanged (makeIpcWindow entry)]
  | some ipcWin =>
    if windowChanged ipcWin entry then [.windowOpenedOrChanged (makeIpcWindow entry)]
    else
      let focus :=
        if entry.mapped.isFocused ∧ ¬ipcWin.isFocused then [.windowFocusChanged (some id)] else []
      let timestamp :=
        if entry.mapped.focusTimestamp ≠ ipcWin.focusTimestamp then
          [.windowFocusTimestampChanged id entry.mapped.focusTimestamp]
        else []
      let urgency :=
        if entry.mapped.isUrgent ≠ ipcWin.isUrgent then
          [.windowUrgencyChanged id entry.mapped.isUrgent]
        else []
      focus ++ timestamp ++ urgency

/-- What the callback adds to `batch_change_layouts`. -/
def diffLayout (state : WindowsState) (entry : WindowEntry) : List (ℕ × WindowLayout) :=
  match state.windows.lookup entry.mapped.id with
  | none => []
  | some ipcWin =>
    if windowChanged ipcWin entry then []
    else if ipcWin.layout ≠ entry.layout then [(entry.mapped.id, entry.layout)] else []

variable (layout : List WindowEntry)

/-- `focused_id`: the last window that says it is focused. -/
def focusedId : Option ℕ :=
  layout.foldl (fun id entry => if entry.mapped.isFocused then some entry.mapped.id else id) none

/-- `ipc_refresh_windows`: the events it emits; `order` is the order in which the map of the
windows is iterated. -/
def refreshWindows (state : WindowsState) (order : List ℕ) (layout : List WindowEntry) :
    List Event :=
  let batchChangeLayouts := layout.flatMap (diffLayout state)
  let seen := layout.map (·.mapped.id)
  layout.flatMap (diffWindow state) ++
    (if batchChangeLayouts = [] then [] else [.windowLayoutsChanged batchChangeLayouts]) ++
    (order.filter (· ∉ seen)).map .windowClosed ++
    (if (focusedId layout).isNone ∧ (HashMap.values state.windows order).any Window.isFocused then
        [.windowFocusChanged none]
      else [])

namespace WindowsState

/-- A client that keeps the windows only. -/
def applyAll (self : WindowsState) (events : List Event) : Option WindowsState :=
  applyEvents apply self events

/-- No two windows are focused. -/
def OneFocused (self : WindowsState) : Prop :=
  ∀ i j v w, self.windows.lookup i = some v → self.windows.lookup j = some w →
    v.isFocused = true → w.isFocused = true → i = j

end WindowsState

/-! ## What an event does at one key -/

/-- A change of a layout, at the key `k`. -/
def changeAt (k : ℕ) (win : Option Window) (change : ℕ × WindowLayout) : Option Window :=
  if change.1 = k then win.map fun win => { win with layout := change.2 } else win

/-- What an event does to what is stored under `k`. -/
def Event.windowAt (k : ℕ) (win : Option Window) : Event → Option Window
  | .windowOpenedOrChanged window =>
    if window.id = k then some window
    else if window.isFocused then win.map fun win => { win with isFocused := false }
    else win
  | .windowClosed id => if id = k then none else win
  | .windowFocusChanged id => win.map fun win => { win with isFocused := some k = id }
  | .windowFocusTimestampChanged id focusTimestamp =>
    if k = id then win.map fun win => { win with focusTimestamp := focusTimestamp } else win
  | .windowUrgencyChanged id urgent =>
    if k = id then win.map fun win => { win with isUrgent := urgent } else win
  | .windowLayoutsChanged changes => changes.foldl (changeAt k) win
  | _ => win

/-- The windows an event expects to be there. -/
def Event.needs : Event → List ℕ
  | .windowClosed id => [id]
  | .windowLayoutsChanged changes => changes.map Prod.fst
  | _ => []

/-- The events of this part, but for the one that replaces everything. -/
def Event.isWindowChange : Event → Bool
  | .windowOpenedOrChanged _ | .windowClosed _ | .windowFocusChanged _
  | .windowFocusTimestampChanged _ _ | .windowUrgencyChanged _ _ | .windowLayoutsChanged _ => true
  | _ => false

namespace WindowsState

theorem changeLayouts_at {windows : HashMap ℕ Window} {changes : List (ℕ × WindowLayout)}
    (hneeds : ∀ id ∈ changes.map Prod.fst, id ∈ windows) :
    ∃ windows', changeLayouts windows changes = some windows' ∧ ∀ k,
      windows'.lookup k = changes.foldl (changeAt k) (windows.lookup k) := by
  induction changes generalizing windows with
  | nil => exact ⟨windows, rfl, fun k => rfl⟩
  | cons change changes ih =>
    obtain ⟨id, update⟩ := change
    obtain ⟨win, hwin⟩ := mem_iff.mp (hneeds id (by simp))
    obtain ⟨windows', hchange, hlookup⟩ := @ih (windows.insert id
      { win with layout := update }) fun id' hid' =>
        mem_insert.mpr (.inr (hneeds id' (mem_cons_of_mem _ hid')))
    refine ⟨windows', ?_, fun k => ?_⟩
    · simp only [changeLayouts, hwin, bind_eq_bind, bind_some]
      exact hchange
    · rw [hlookup, foldl_cons]
      congr 1
      by_cases hk : id = k
      · subst hk
        rw [lookup_insert, hwin, changeAt, if_pos rfl, map_some]
      · rw [lookup_insert_of_ne _ (Ne.symm hk), changeAt, if_neg hk]

variable {self : WindowsState} {event : Event}

/-- An event whose windows are there acts on each key by itself. -/
theorem apply_at (hkeyed : HashMap.Keyed Window.id self.windows)
    (hkind : event.isWindowChange = true) (hneeds : ∀ id ∈ event.needs, id ∈ self.windows) :
    ∃ self', self.apply event = some (self', none) ∧ ∀ k,
      self'.windows.lookup k = event.windowAt k (self.windows.lookup k) := by
  cases event with
  | windowOpenedOrChanged window =>
    refine ⟨_, rfl, fun k => ?_⟩
    simp only [Event.windowAt]
    by_cases hk : window.id = k
    · subst hk
      rw [if_pos rfl]
      split_ifs
      · rw [lookup_mapValues, lookup_insert, map_some, if_neg (by simp)]
      · rw [lookup_insert]
    · split_ifs
      · rw [lookup_mapValues, lookup_insert_of_ne _ (Ne.symm hk)]
        cases hw : self.windows.lookup k with
        | none => rfl
        | some win =>
          rw [map_some, map_some, if_pos]
          rw [hkeyed k win hw]
          exact Ne.symm hk
      · rw [lookup_insert_of_ne _ (Ne.symm hk)]
  | windowClosed id =>
    obtain ⟨win, hwin⟩ := mem_iff.mp (hneeds id (by simp [Event.needs]))
    refine ⟨⟨self.windows.erase id⟩, ?_, fun k => ?_⟩
    · simp only [apply, hwin, bind_eq_bind, bind_some]
      rfl
    · simp only [Event.windowAt]
      split_ifs with hk
      · rw [hk, lookup_erase]
      · rw [lookup_erase_ne (Ne.symm hk)]
  | windowFocusChanged id =>
    refine ⟨_, rfl, fun k => ?_⟩
    rw [lookup_mapValues, Event.windowAt]
    cases hw : self.windows.lookup k with
    | none => rfl
    | some win => rw [map_some, map_some, hkeyed k win hw]
  | windowFocusTimestampChanged | windowUrgencyChanged =>
    refine ⟨_, rfl, fun k => ?_⟩
    rw [lookup_mapValues, Event.windowAt]
    cases hw : self.windows.lookup k with
    | none => simp
    | some win =>
      rw [map_some, map_some, hkeyed k win hw]
      split_ifs <;> rfl
  | windowLayoutsChanged changes =>
    obtain ⟨windows', hchange, hlookup⟩ := changeLayouts_at hneeds
    refine ⟨⟨windows'⟩, ?_, hlookup⟩
    simp only [apply, hchange, bind_eq_bind, bind_some]
    rfl
  | _ => cases hkind

variable {win : Option Window} {k : ℕ}

/-- A window that is not closed stays. -/
theorem isSome_windowAt (hnot : event ≠ .windowClosed k) (hwin : win.isSome = true) :
    (event.windowAt k win).isSome = true := by
  cases event with
  | windowOpenedOrChanged window =>
    simp only [Event.windowAt]
    split_ifs
    · rfl
    · simpa using hwin
    · exact hwin
  | windowClosed id =>
    simp only [Event.windowAt]
    rw [if_neg fun hid => hnot (by rw [hid])]
    exact hwin
  | windowFocusChanged id => simpa [Event.windowAt] using hwin
  | windowFocusTimestampChanged | windowUrgencyChanged =>
    simp only [Event.windowAt]
    split_ifs
    · simpa using hwin
    · exact hwin
  | windowLayoutsChanged changes =>
    refine Fold.foldl_invariant (I := fun win : Option Window => win.isSome = true) ?_ hwin
    intro change _ win hwin
    unfold changeAt
    split_ifs
    · simpa using hwin
    · exact hwin
  | _ => exact hwin

/-- Window by window, and event by event: a window an event needs is there from the start and
has not been closed before. -/
theorem applyAll_at (hkeyed : HashMap.Keyed Window.id self.windows) {events : List Event}
    (hkind : ∀ event ∈ events, event.isWindowChange = true)
    (hneeds : ∀ event ∈ events, ∀ id ∈ event.needs, id ∈ self.windows)
    (hopen : events.Pairwise fun before event => ∀ id ∈ event.needs, before ≠ .windowClosed id) :
    ∃ final, self.applyAll events = some final ∧ ∀ k, final.windows.lookup k =
        events.foldl (fun win event => event.windowAt k win) (self.windows.lookup k) := by
  induction events generalizing self with
  | nil => exact ⟨self, rfl, fun k => rfl⟩
  | cons event events ih =>
    obtain ⟨self', happly, hlookup⟩ := apply_at hkeyed (hkind event (by simp))
      (hneeds event (by simp))
    rw [pairwise_cons] at hopen
    have hneeds' : ∀ e ∈ events, ∀ id ∈ e.needs, id ∈ self'.windows := by
      intro e he id hid
      have hmem := hneeds e (mem_cons_of_mem _ he) id hid
      rw [← lookup_isSome, hlookup]
      exact isSome_windowAt (hopen.1 e he id hid) (lookup_isSome.mpr hmem)
    obtain ⟨final, hfinal, hlast⟩ := ih (apply_keyed hkeyed happly)
      (fun e he => hkind e (mem_cons_of_mem _ he)) hneeds' hopen.2
    refine ⟨final, ?_, fun k => ?_⟩
    · rw [applyAll, applyEvents, happly]
      exact hfinal
    · rw [hlast, hlookup, foldl_cons]

/-! ## At most one window is focused -/

theorem foldl_changeAt_isFocused (k : ℕ) (changes : List (ℕ × WindowLayout))
    (win : Option Window) :
    (changes.foldl (changeAt k) win).map Window.isFocused = win.map Window.isFocused := by
  refine Fold.foldl_invariant (I := fun w : Option Window =>
    w.map Window.isFocused = win.map Window.isFocused) ?_ rfl
  intro change _ w hw
  unfold changeAt
  split_ifs
  · rw [← hw, map_map]
    rfl
  · exact hw

/-- Where a window is focused after an event, it was so before, or the event says so and no
other window is focused. -/
theorem focused_windowAt {w : Window} (h : event.windowAt k win = some w)
    (hw : w.isFocused = true) :
    ((∃ v, win = some v ∧ v.isFocused = true) ∧
      (∀ window, event = .windowOpenedOrChanged window → window.isFocused = false) ∧
      ∀ id, event ≠ .windowFocusChanged id) ∨
    (∃ window, event = .windowOpenedOrChanged window ∧ window.isFocused = true ∧ window.id = k) ∨
    event = .windowFocusChanged (some k) := by
  cases event with
  | windowOpenedOrChanged window =>
    simp only [Event.windowAt] at h
    split_ifs at h with hk hf
    · obtain rfl := some.inj h
      exact .inr (.inl ⟨window, rfl, hw, hk⟩)
    · obtain ⟨v, -, rfl⟩ := map_eq_some_iff.mp h
      cases hw
    · refine .inl ⟨⟨w, h, hw⟩, fun window' heq => ?_, fun id heq => by cases heq⟩
      cases heq
      simpa using hf
  | windowClosed id =>
    simp only [Event.windowAt] at h
    split_ifs at h
    exact .inl ⟨⟨w, h, hw⟩, (fun _ heq => by cases heq), (fun _ heq => by cases heq)⟩
  | windowFocusChanged id =>
    obtain ⟨v, -, rfl⟩ := map_eq_some_iff.mp h
    rw [← of_decide_eq_true hw]
    exact .inr (.inr rfl)
  | windowFocusTimestampChanged | windowUrgencyChanged =>
    simp only [Event.windowAt] at h
    split_ifs at h
    · obtain ⟨v, hv, rfl⟩ := map_eq_some_iff.mp h
      exact .inl ⟨⟨v, hv, hw⟩, (fun _ heq => by cases heq), (fun _ heq => by cases heq)⟩
    · exact .inl ⟨⟨w, h, hw⟩, (fun _ heq => by cases heq), (fun _ heq => by cases heq)⟩
  | windowLayoutsChanged changes =>
    have hfold := foldl_changeAt_isFocused k changes win
    rw [show changes.foldl (changeAt k) win = some w from h, map_some] at hfold
    obtain ⟨v, hv, hvw⟩ := map_eq_some_iff.mp hfold.symm
    exact .inl ⟨⟨v, hv, hvw.trans hw⟩, (fun _ heq => by cases heq), (fun _ heq => by cases heq)⟩
  | _ => exact .inl ⟨⟨w, h, hw⟩, (fun _ heq => by cases heq), (fun _ heq => by cases heq)⟩

theorem OneFocused.step {self' : WindowsState} (h : self.OneFocused)
    (hlookup : ∀ k, self'.windows.lookup k = event.windowAt k (self.windows.lookup k)) :
    self'.OneFocused := by
  intro i j v w hv hw hvf hwf
  rw [hlookup] at hv hw
  rcases focused_windowAt hv hvf with ⟨⟨v', hv', hvf'⟩, hopened, hfocus⟩ | ⟨x, rfl, hx, rfl⟩ | rfl
  · rcases focused_windowAt hw hwf with ⟨⟨w', hw', hwf'⟩, -, -⟩ | ⟨x, rfl, hx, -⟩ | rfl
    · exact h i j v' w' hv' hw' hvf' hwf'
    · rw [hopened x rfl] at hx
      cases hx
    · exact absurd rfl (hfocus _)
  · rcases focused_windowAt hw hwf with ⟨-, hopened, -⟩ | ⟨y, hy, -, rfl⟩ | hy
    · rw [hopened x rfl] at hx
      cases hx
    · cases hy
      rfl
    · cases hy
  · rcases focused_windowAt hw hwf with ⟨-, -, hfocus⟩ | ⟨y, hy, -, -⟩ | hy
    · exact absurd rfl (hfocus _)
    · cases hy
    · cases hy
      rfl

end WindowsState

/-! ## Layouts the refresh is called on -/

/-- Window ids are unique, at most one window is focused, and a window keeps its client, whose
process is determined by the window. -/
structure WindowsWF (pid : ℕ → Option ℤ) (layout : List WindowEntry) : Prop where
  ids : (layout.map (·.mapped.id)).Nodup
  focused : ∀ a ∈ layout, ∀ b ∈ layout, a.mapped.isFocused = true → b.mapped.isFocused = true →
    a.mapped.id = b.mapped.id
  pid : ∀ entry ∈ layout, entry.mapped.pid = pid entry.mapped.id

/-- What a client should see. -/
def windowsSnapshot : WindowsState :=
  ⟨HashMap.collect (layout.map fun entry => (entry.mapped.id, makeIpcWindow entry))⟩

variable {pid : ℕ → Option ℤ} {state : WindowsState} {order : List ℕ}
  {layout : List WindowEntry}

theorem WindowsWF.eq_of_id (h : WindowsWF pid layout) {a b : WindowEntry} (ha : a ∈ layout)
    (hb : b ∈ layout) (hid : a.mapped.id = b.mapped.id) : a = b :=
  inj_on_of_nodup_map h.ids ha hb hid

variable {entry : WindowEntry} {event : Event}

theorem WindowsWF.lookup_snapshot (h : WindowsWF pid layout) (hentry : entry ∈ layout) :
    (windowsSnapshot layout).windows.lookup entry.mapped.id = some (makeIpcWindow entry) := by
  refine lookup_collect ?_ (mem_map_of_mem (f := fun entry : WindowEntry =>
    (entry.mapped.id, makeIpcWindow entry)) hentry)
  rw [List.map_map]
  exact h.ids

theorem lookup_windowsSnapshot_of_notMem {id : ℕ} (hid : id ∉ layout.map (·.mapped.id)) :
    (windowsSnapshot layout).windows.lookup id = none := by
  refine lookup_collect_of_notMem ?_
  rw [List.map_map]
  exact hid

/-- The shape of a mirrored state. -/
structure WindowsState.Coherent (pid : ℕ → Option ℤ) (state : WindowsState) : Prop where
  keyed : HashMap.Keyed Window.id state.windows
  focused : state.OneFocused
  pid : ∀ id win, state.windows.lookup id = some win → win.pid = pid id

theorem windowsCoherent_default : WindowsState.default.Coherent pid := by
  refine ⟨keyed_empty _, fun i j v w hv => ?_, fun i v hv => ?_⟩ <;>
  · cases hv

theorem WindowsWF.coherent (h : WindowsWF pid layout) :
    (windowsSnapshot layout).Coherent pid := by
  have hmem : ∀ id win, (windowsSnapshot layout).windows.lookup id = some win →
      ∃ entry ∈ layout, entry.mapped.id = id ∧ win = makeIpcWindow entry := by
    intro id win hwin
    by_cases hid : id ∈ layout.map (·.mapped.id)
    · obtain ⟨entry, hentry, rfl⟩ := List.mem_map.mp hid
      rw [h.lookup_snapshot hentry] at hwin
      exact ⟨entry, hentry, rfl, (some.inj hwin).symm⟩
    · rw [lookup_windowsSnapshot_of_notMem hid] at hwin
      cases hwin
  refine ⟨fun id win hwin => ?_, fun i j v w hv hw hvf hwf => ?_, fun id win hwin => ?_⟩
  · obtain ⟨entry, -, rfl, rfl⟩ := hmem id win hwin
    rfl
  · obtain ⟨a, ha, rfl, rfl⟩ := hmem i v hv
    obtain ⟨b, hb, rfl, rfl⟩ := hmem j w hw
    exact h.focused a ha b hb hvf hwf
  · obtain ⟨entry, hentry, rfl, rfl⟩ := hmem id win hwin
    exact h.pid entry hentry

theorem focusedId_eq_none :
    focusedId layout = none ↔ ∀ entry ∈ layout, entry.mapped.isFocused = false := by
  unfold focusedId
  have key : ∀ acc : Option ℕ, layout.foldl
      (fun id entry => if entry.mapped.isFocused then some entry.mapped.id else id) acc = none ↔
        acc = none ∧ ∀ entry ∈ layout, entry.mapped.isFocused = false := by
    induction layout with
    | nil => simp
    | cons entry layout ih =>
      intro acc
      rw [foldl_cons, ih]
      cases hf : entry.mapped.isFocused <;> simp [hf]
  rw [key]
  simp

/-! ## The events of a refresh -/

/-- The events the callback pushes for a window that needs no `WindowOpenedOrChanged`. -/
inductive SmallChange (entry : WindowEntry) (old : Window) : Event → Prop
  | focus : entry.mapped.isFocused = true → old.isFocused = false →
      SmallChange entry old (.windowFocusChanged (some entry.mapped.id))
  | timestamp : entry.mapped.focusTimestamp ≠ old.focusTimestamp →
      SmallChange entry old
        (.windowFocusTimestampChanged entry.mapped.id entry.mapped.focusTimestamp)
  | urgency : entry.mapped.isUrgent ≠ old.isUrgent →
      SmallChange entry old (.windowUrgencyChanged entry.mapped.id entry.mapped.isUrgent)

/-- The window is sent as a whole: it is new, or has changed in a way no other event tells. -/
def Reopened (state : WindowsState) (entry : WindowEntry) : Prop :=
  ∀ old, state.windows.lookup entry.mapped.id = some old → windowChanged old entry = true

theorem mem_diffWindow :
    event ∈ diffWindow state entry ↔
      (Reopened state entry ∧ event = .windowOpenedOrChanged (makeIpcWindow entry)) ∨
      ∃ old, state.windows.lookup entry.mapped.id = some old ∧
        windowChanged old entry = false ∧ SmallChange entry old event := by
  cases hold : state.windows.lookup entry.mapped.id with
  | none => simp [diffWindow, Reopened, hold]
  | some old =>
    cases hchanged : windowChanged old entry with
    | true => simp [diffWindow, Reopened, hold, hchanged]
    | false =>
      simp only [diffWindow, Reopened, hold, Bool.false_eq_true, if_false, mem_append,
        some.injEq, forall_eq', hchanged, false_and, false_or, exists_eq_left', true_and]
      constructor
      · rintro ((hmem | hmem) | hmem)
        · split_ifs at hmem with hc
          · obtain rfl := mem_singleton.mp hmem
            exact .focus hc.1 (by simpa using hc.2)
          · cases hmem
        · split_ifs at hmem with hc
          · obtain rfl := mem_singleton.mp hmem
            exact .timestamp hc
          · cases hmem
        · split_ifs at hmem with hc
          · obtain rfl := mem_singleton.mp hmem
            exact .urgency hc
          · cases hmem
      · intro hsmall
        cases hsmall with
        | focus hf ho => exact .inl (.inl (by rw [if_pos ⟨hf, by simp [ho]⟩]; simp))
        | timestamp hc => exact .inl (.inr (by rw [if_pos hc]; simp))
        | urgency hc => exact .inr (by rw [if_pos hc]; simp)

theorem mem_diffLayout {change : ℕ × WindowLayout} :
    change ∈ diffLayout state entry ↔ change = (entry.mapped.id, entry.layout) ∧
      ∃ old, state.windows.lookup entry.mapped.id = some old ∧
        windowChanged old entry = false ∧ old.layout ≠ entry.layout := by
  cases hold : state.windows.lookup entry.mapped.id with
  | none => simp [diffLayout, hold]
  | some old =>
    simp only [diffLayout, hold]
    split_ifs with hchanged hlayout
    · simp [hchanged]
    · simp [hchanged, hlayout]
    · simp [hchanged, hlayout]

/-- Every event of a refresh. -/
theorem mem_refreshWindows :
    event ∈ refreshWindows state order layout ↔
      (∃ entry ∈ layout, event ∈ diffWindow state entry) ∨
      (layout.flatMap (diffLayout state) ≠ [] ∧
        event = .windowLayoutsChanged (layout.flatMap (diffLayout state))) ∨
      (∃ id ∈ order, id ∉ layout.map (·.mapped.id) ∧ event = .windowClosed id) ∨
      (focusedId layout = none ∧ (HashMap.values state.windows order).any Window.isFocused = true ∧
        event = .windowFocusChanged none) := by
  unfold refreshWindows
  simp only [mem_append, mem_flatMap, List.mem_map, mem_filter, decide_not,
    Bool.not_eq_true', decide_eq_false_iff_not, isNone_iff_eq_none]
  constructor
  · rintro (((h | h) | ⟨id, ⟨hid, hnot⟩, rfl⟩) | h)
    · exact .inl h
    · split_ifs at h with hc
      · cases h
      · exact .inr (.inl ⟨hc, mem_singleton.mp h⟩)
    · exact .inr (.inr (.inl ⟨id, hid, hnot, rfl⟩))
    · split_ifs at h with hc
      · exact .inr (.inr (.inr ⟨hc.1, hc.2, mem_singleton.mp h⟩))
      · cases h
  · rintro (h | ⟨hc, rfl⟩ | ⟨id, hid, hnot, rfl⟩ | ⟨hn, hany, rfl⟩)
    · exact .inl (.inl (.inl h))
    · exact .inl (.inl (.inr (by rw [if_neg hc]; simp)))
    · exact .inl (.inr ⟨id, ⟨hid, hnot⟩, rfl⟩)
    · exact .inr (by rw [if_pos ⟨hn, hany⟩]; simp)

/-- The events need windows that are there, and no window that was closed before. -/
theorem refreshWindows_needs (layout : List WindowEntry)
    (horder : HashMap.Enumerates order state.windows) :
    (∀ event ∈ refreshWindows state order layout, event.isWindowChange = true ∧
      ∀ id ∈ event.needs, id ∈ state.windows) ∧
    (refreshWindows state order layout).Pairwise fun before event =>
      ∀ id ∈ event.needs, before ≠ .windowClosed id := by
  have hsmall : ∀ event, (∃ entry ∈ layout, event ∈ diffWindow state entry) →
      event.isWindowChange = true ∧ event.needs = [] ∧ ∀ id, event ≠ .windowClosed id := by
    rintro event ⟨entry, -, hmem⟩
    rcases mem_diffWindow.mp hmem with ⟨-, rfl⟩ | ⟨old, -, -, hsmall⟩
    · exact ⟨rfl, rfl, fun id heq => by cases heq⟩
    · cases hsmall <;> exact ⟨rfl, rfl, fun id heq => by cases heq⟩
  have hbatch : ∀ id ∈ (layout.flatMap (diffLayout state)).map Prod.fst, id ∈ state.windows := by
    intro id hid
    obtain ⟨change, hchange, rfl⟩ := List.mem_map.mp hid
    obtain ⟨entry, -, hmem⟩ := mem_flatMap.mp hchange
    obtain ⟨rfl, old, hold, -, -⟩ := mem_diffLayout.mp hmem
    exact mem_iff.mpr ⟨old, hold⟩
  refine ⟨?_, ?_⟩
  · intro event hevent
    rcases mem_refreshWindows.mp hevent with h | ⟨-, rfl⟩ | ⟨id, hid, -, rfl⟩ | ⟨-, -, rfl⟩
    · obtain ⟨h1, h2, -⟩ := hsmall event h
      refine ⟨h1, fun id hid => ?_⟩
      rw [h2] at hid
      cases hid
    · exact ⟨rfl, hbatch⟩
    · refine ⟨rfl, fun id' hid' => ?_⟩
      obtain rfl := mem_singleton.mp hid'
      exact (horder.mem_iff id').mp hid
    · exact ⟨rfl, fun id hid => by cases hid⟩
  · have hfirst : ∀ event ∈ layout.flatMap (diffWindow state),
        event.needs = [] ∧ ∀ id, event ≠ .windowClosed id :=
      fun event hevent => (hsmall event (mem_flatMap.mp hevent)).2
    have hsecond : ∀ event ∈ (if layout.flatMap (diffLayout state) = [] then [] else
        [Event.windowLayoutsChanged (layout.flatMap (diffLayout state))]),
        ∀ id, event ≠ .windowClosed id := by
      intro event hevent id heq
      split_ifs at hevent
      · cases hevent
      · rw [mem_singleton.mp hevent] at heq
        cases heq
    refine pairwise_append.mpr ⟨pairwise_append.mpr ⟨pairwise_append.mpr
      ⟨?_, ?_, ?_⟩, ?_, ?_⟩, ?_, ?_⟩
    · refine pairwise_of_forall_mem_list fun a ha b hb id hid => ?_
      rw [(hfirst b hb).1] at hid
      cases hid
    · split_ifs
      · exact List.Pairwise.nil
      · exact pairwise_singleton _ _
    · exact fun a ha b hb id _ => (hfirst a ha).2 id
    · -- Each closed window is listed once.
      rw [pairwise_map]
      refine List.Pairwise.imp (fun {a b} hne id hid heq => ?_)
        (nodup_iff_pairwise_ne.mp (horder.nodup.filter _))
      obtain rfl := mem_singleton.mp hid
      exact hne (by injection heq)
    · intro a ha b hb id _
      rcases mem_append.mp ha with ha | ha
      · exact (hfirst a ha).2 id
      · exact hsecond a ha id
    · split_ifs
      · exact pairwise_singleton _ _
      · exact List.Pairwise.nil
    · intro a _ b hb id hid
      split_ifs at hb
      · rw [mem_singleton.mp hb] at hid
        cases hid
      · cases hb

/-! ## Every window ends as the layout has it -/

/-- Each field stays as it is or becomes the one of the target. -/
structure Toward (target w w' : Window) : Prop where
  id : w'.id = w.id ∨ w'.id = target.id
  title : w'.title = w.title ∨ w'.title = target.title
  appId : w'.appId = w.appId ∨ w'.appId = target.appId
  pid : w'.pid = w.pid ∨ w'.pid = target.pid
  workspaceId : w'.workspaceId = w.workspaceId ∨ w'.workspaceId = target.workspaceId
  isFocused : w'.isFocused = w.isFocused ∨ w'.isFocused = target.isFocused
  isFloating : w'.isFloating = w.isFloating ∨ w'.isFloating = target.isFloating
  isUrgent : w'.isUrgent = w.isUrgent ∨ w'.isUrgent = target.isUrgent
  layout : w'.layout = w.layout ∨ w'.layout = target.layout
  focusTimestamp : w'.focusTimestamp = w.focusTimestamp ∨ w'.focusTimestamp = target.focusTimestamp

namespace Toward

variable {target w w' w'' : Window}

theorem refl (target w : Window) : Toward target w w :=
  ⟨.inl rfl, .inl rfl, .inl rfl, .inl rfl, .inl rfl, .inl rfl, .inl rfl, .inl rfl, .inl rfl,
    .inl rfl⟩

theorem reach (target w : Window) : Toward target w target :=
  ⟨.inr rfl, .inr rfl, .inr rfl, .inr rfl, .inr rfl, .inr rfl, .inr rfl, .inr rfl, .inr rfl,
    .inr rfl⟩

theorem field {α : Type} {a b c t : α} (h : b = a ∨ b = t) (h' : c = b ∨ c = t) :
    c = a ∨ c = t := by
  rcases h' with rfl | rfl
  · exact h
  · exact .inr rfl

theorem trans (h : Toward target w w') (h' : Toward target w' w'') : Toward target w w'' :=
  ⟨field h.id h'.id, field h.title h'.title, field h.appId h'.appId, field h.pid h'.pid,
    field h.workspaceId h'.workspaceId, field h.isFocused h'.isFocused,
    field h.isFloating h'.isFloating, field h.isUrgent h'.isUrgent, field h.layout h'.layout,
    field h.focusTimestamp h'.focusTimestamp⟩

theorem setFocused {b : Bool} (hb : b = target.isFocused) (w : Window) :
    Toward target w { w with isFocused := b } :=
  { refl target w with isFocused := .inr hb }

theorem setUrgent {b : Bool} (hb : b = target.isUrgent) (w : Window) :
    Toward target w { w with isUrgent := b } :=
  { refl target w with isUrgent := .inr hb }

theorem setLayout {l : WindowLayout} (hl : l = target.layout) (w : Window) :
    Toward target w { w with layout := l } :=
  { refl target w with layout := .inr hl }

theorem setFocusTimestamp {t : Option Timestamp} (ht : t = target.focusTimestamp) (w : Window) :
    Toward target w { w with focusTimestamp := t } :=
  { refl target w with focusTimestamp := .inr ht }

end Toward

theorem windowAt_opened (k : ℕ) (win : Option Window) (entry : WindowEntry) :
    Event.windowAt k win (.windowOpenedOrChanged (makeIpcWindow entry)) =
      if entry.mapped.id = k then some (makeIpcWindow entry)
      else if entry.mapped.isFocused then win.map fun win => { win with isFocused := false }
      else win := rfl

section

variable (hlayout : WindowsWF pid layout)
include hlayout

theorem foldl_batch_toward (hentry : entry ∈ layout) (w : Window) :
    ∃ w', (layout.flatMap (diffLayout state)).foldl (changeAt entry.mapped.id) (some w) = some w' ∧
      Toward (makeIpcWindow entry) w w' := by
  refine Fold.foldl_invariant (f := changeAt entry.mapped.id) (I := fun o : Option Window =>
    ∃ w', o = some w' ∧ Toward (makeIpcWindow entry) w w') ?_ ⟨w, rfl, .refl _ w⟩
  rintro change hchange o ⟨w', rfl, hw'⟩
  obtain ⟨other, hother, hmem⟩ := mem_flatMap.mp hchange
  obtain ⟨rfl, -⟩ := mem_diffLayout.mp hmem
  unfold changeAt
  split_ifs with hid
  · rw [hlayout.eq_of_id hother hentry hid]
    exact ⟨_, rfl, hw'.trans (.setLayout rfl w')⟩
  · exact ⟨w', rfl, hw'⟩

/-- A focus that goes to `other` is not the one of another window. -/
theorem isFocused_of_other {other : WindowEntry} (hentry : entry ∈ layout) (hother : other ∈ layout)
    (hf : other.mapped.isFocused = true) :
    decide (some entry.mapped.id = some other.mapped.id) = entry.mapped.isFocused := by
  by_cases hid : entry.mapped.id = other.mapped.id
  · rw [hlayout.eq_of_id hentry hother hid, hf]
    simp
  · rw [decide_eq_false (by simpa using hid)]
    by_contra hne
    exact hid (hlayout.focused entry hentry other hother (by simpa using Ne.symm hne) hf)

/-- **No event leads away** from what the layout has. -/
theorem windowAt_toward (hentry : entry ∈ layout)
    (hevent : event ∈ refreshWindows state order layout) (w : Window) :
    ∃ w', event.windowAt entry.mapped.id (some w) = some w' ∧
      Toward (makeIpcWindow entry) w w' := by
  rcases mem_refreshWindows.mp hevent with ⟨other, hother, hmem⟩ | ⟨-, rfl⟩ | ⟨id, -, hid, rfl⟩ |
    ⟨hnone, -, rfl⟩
  · rcases mem_diffWindow.mp hmem with ⟨-, rfl⟩ | ⟨old, -, -, hsmall⟩
    · rw [windowAt_opened]
      split_ifs with hid hf
      · rw [hlayout.eq_of_id hother hentry hid]
        exact ⟨_, rfl, .reach _ w⟩
      · refine ⟨_, rfl, .setFocused ?_ w⟩
        by_contra hne
        exact hid (hlayout.focused other hother entry hentry hf
          (by simpa [makeIpcWindow] using Ne.symm hne))
      · exact ⟨w, rfl, .refl _ w⟩
    · cases hsmall with
      | focus hf _ =>
        exact ⟨_, rfl, .setFocused (isFocused_of_other hlayout hentry hother hf) w⟩
      | timestamp _ =>
        simp only [Event.windowAt]
        split_ifs with hid
        · rw [← hlayout.eq_of_id hentry hother hid]
          exact ⟨_, rfl, .setFocusTimestamp rfl w⟩
        · exact ⟨w, rfl, .refl _ w⟩
      | urgency _ =>
        simp only [Event.windowAt]
        split_ifs with hid
        · rw [← hlayout.eq_of_id hentry hother hid]
          exact ⟨_, rfl, .setUrgent rfl w⟩
        · exact ⟨w, rfl, .refl _ w⟩
  · exact foldl_batch_toward hlayout hentry w
  · simp only [Event.windowAt]
    rw [if_neg fun heq => hid (List.mem_map.mpr ⟨entry, hentry, heq.symm⟩)]
    exact ⟨w, rfl, .refl _ w⟩
  · refine ⟨_, rfl, .setFocused ?_ w⟩
    rw [show (makeIpcWindow entry).isFocused = entry.mapped.isFocused from rfl,
      focusedId_eq_none.mp hnone entry hentry]
    simp

end

/-- A field that differs from the layout's is set by some event, so that it ends as the
layout's. -/
theorem field_foldl (state : WindowsState) (order : List ℕ) (hlayout : WindowsWF pid layout)
    (hentry : entry ∈ layout) {β : Type} {p : Window → β}
    (hp : ∀ w w', Toward (makeIpcWindow entry) w w' → p w' = p w ∨ p w' = p (makeIpcWindow entry))
    (old : Window)
    (hset : p old ≠ p (makeIpcWindow entry) → ∃ event ∈ refreshWindows state order layout,
      ∀ w, (event.windowAt entry.mapped.id (some w)).map p = some (p (makeIpcWindow entry))) :
    ((refreshWindows state order layout).foldl
      (fun win event => event.windowAt entry.mapped.id win) (some old)).map p =
        some (p (makeIpcWindow entry)) := by
  refine Fold.foldl_field (f := fun (win : Option Window) (event : Event) =>
    event.windowAt entry.mapped.id win) (I := fun o => ∃ w, o = some w) (p := Option.map p)
    ?_ ?_ ⟨old, rfl⟩ ?_
  · rintro event hevent o ⟨w, rfl⟩
    obtain ⟨w', hw', -⟩ := windowAt_toward hlayout hentry hevent w
    exact ⟨w', hw'⟩
  · rintro event hevent o ⟨w, rfl⟩
    obtain ⟨w', hw', htoward⟩ := windowAt_toward hlayout hentry hevent w
    rw [hw']
    rcases hp w w' htoward with heq | heq
    · exact .inl (by rw [map_some, heq]; rfl)
    · exact .inr (by rw [map_some, heq])
  · by_cases heq : p old = p (makeIpcWindow entry)
    · exact .inl (by rw [map_some, heq])
    · obtain ⟨event, hevent, hall⟩ := hset heq
      refine .inr ⟨event, hevent, ?_⟩
      rintro o ⟨w, rfl⟩
      exact hall w

/-- A window that is not sent as a whole ends as the layout has it, field by field. -/
theorem foldl_of_unchanged (hstate : state.Coherent pid) (hlayout : WindowsWF pid layout)
    (horder : HashMap.Enumerates order state.windows) (hentry : entry ∈ layout) {old : Window}
    (hold : state.windows.lookup entry.mapped.id = some old)
    (hunchanged : windowChanged old entry = false) :
    (refreshWindows state order layout).foldl
      (fun win event => event.windowAt entry.mapped.id win) (some old) =
        some (makeIpcWindow entry) := by
  have small : ∀ event, SmallChange entry old event → event ∈ refreshWindows state order layout :=
    fun event hsmall => mem_refreshWindows.mpr
      (.inl ⟨entry, hentry, mem_diffWindow.mpr (.inr ⟨old, hold, hunchanged, hsmall⟩)⟩)
  have hurgent := field_foldl state order hlayout hentry
    (p := Window.isUrgent) (fun _ _ h => h.isUrgent) old fun hne =>
      ⟨_, small _ (.urgency (Ne.symm hne)), fun w => by
        simp only [Event.windowAt, if_true, map_some]
        rfl⟩
  have htimestamp := field_foldl state order hlayout hentry
    (p := Window.focusTimestamp) (fun _ _ h => h.focusTimestamp) old fun hne =>
      ⟨_, small _ (.timestamp (Ne.symm hne)), fun w => by
        simp only [Event.windowAt, if_true, map_some]
        rfl⟩
  have hpos := field_foldl state order hlayout hentry
    (p := Window.layout) (fun _ _ h => h.layout) old fun hne => by
      -- The window is in the batch.
      have hchange : (entry.mapped.id, entry.layout) ∈ layout.flatMap (diffLayout state) :=
        mem_flatMap.mpr ⟨entry, hentry, mem_diffLayout.mpr ⟨rfl, old, hold, hunchanged, hne⟩⟩
      refine ⟨_, mem_refreshWindows.mpr (.inr (.inl ⟨ne_nil_of_mem hchange, rfl⟩)), fun w => ?_⟩
      refine Fold.foldl_field (f := changeAt entry.mapped.id) (I := fun o => ∃ w, o = some w)
        (p := Option.map Window.layout) ?_ ?_ ⟨w, rfl⟩ (.inr ⟨_, hchange, ?_⟩)
      · rintro change _ o ⟨w, rfl⟩
        unfold changeAt
        split_ifs
        · exact ⟨_, rfl⟩
        · exact ⟨w, rfl⟩
      · rintro change hmem o ⟨w, rfl⟩
        obtain ⟨other, hother, hdiff⟩ := mem_flatMap.mp hmem
        obtain ⟨rfl, -⟩ := mem_diffLayout.mp hdiff
        unfold changeAt
        split_ifs with hid
        · rw [hlayout.eq_of_id hother hentry hid]
          exact .inr rfl
        · exact .inl rfl
      · rintro o ⟨w, rfl⟩
        rw [changeAt, if_pos rfl]
        rfl
  have hfocused := field_foldl state order hlayout hentry
    (p := Window.isFocused) (fun _ _ h => h.isFocused) old fun hne => by
      cases hf : entry.mapped.isFocused with
      | true =>
        have hno : old.isFocused = false := by
          by_contra hyes
          exact hne ((by simpa using hyes : old.isFocused = true).trans hf.symm)
        exact ⟨_, small _ (.focus hf hno), fun w => by
          simp only [Event.windowAt, decide_true, map_some]
          exact congrArg some hf.symm⟩
      | false =>
        have hyes : old.isFocused = true := by
          by_contra hno
          exact hne ((by simpa using hno : old.isFocused = false).trans hf.symm)
        have hgoal : (makeIpcWindow entry).isFocused = false := hf
        rw [hgoal]
        by_cases hnone : focusedId layout = none
        · -- Nothing is focused any more.
          refine ⟨_, mem_refreshWindows.mpr (.inr (.inr (.inr ⟨hnone, ?_, rfl⟩))), fun w => rfl⟩
          rw [List.any_eq_true]
          exact ⟨old, mem_filterMap.mpr ⟨entry.mapped.id, (horder.mem_iff _).mpr
            (mem_iff.mpr ⟨old, hold⟩), hold⟩, hyes⟩
        · -- Another window took the focus.
          rw [focusedId_eq_none] at hnone
          simp only [not_forall, Bool.not_eq_false] at hnone
          obtain ⟨other, hother, hof⟩ := hnone
          have hid : other.mapped.id ≠ entry.mapped.id := by
            intro heq
            rw [hlayout.eq_of_id hother hentry heq, hf] at hof
            cases hof
          by_cases hre : Reopened state other
          · refine ⟨_, mem_refreshWindows.mpr (.inl ⟨other, hother, mem_diffWindow.mpr
              (.inl ⟨hre, rfl⟩)⟩), fun w => ?_⟩
            rw [windowAt_opened, if_neg hid, if_pos hof]
            rfl
          · unfold Reopened at hre
            simp only [not_forall, Bool.not_eq_true] at hre
            obtain ⟨oldOther, hoo, hou⟩ := hre
            have hno : oldOther.isFocused = false := by
              by_contra hyes'
              exact hid (hstate.focused _ _ _ _ hoo hold (by simpa using hyes') hyes)
            refine ⟨_, mem_refreshWindows.mpr (.inl ⟨other, hother, mem_diffWindow.mpr
              (.inr ⟨oldOther, hoo, hou, .focus hof hno⟩)⟩), fun w => ?_⟩
            simp only [Event.windowAt, map_some, some.injEq, decide_eq_false_iff_not]
            exact Ne.symm hid
  -- The other fields were those of the layout from the start.
  obtain ⟨w, hw, htoward⟩ := Fold.foldl_invariant (f := fun (win : Option Window) (event : Event) =>
    event.windowAt entry.mapped.id win)
    (I := fun o => ∃ w, o = some w ∧ Toward (makeIpcWindow entry) old w) (by
      intro event hevent o ho
      obtain ⟨w, rfl, hw⟩ := ho
      obtain ⟨w', hw', htoward⟩ := windowAt_toward hlayout hentry hevent w
      exact ⟨w', hw', hw.trans htoward⟩) ⟨old, rfl, .refl _ old⟩
  rw [hw] at hurgent htimestamp hpos hfocused ⊢
  simp only [windowChanged, Bool.or_eq_false_iff, decide_eq_false_iff_not, not_not] at hunchanged
  obtain ⟨⟨⟨hws, hfloat⟩, htitle⟩, hap⟩ := hunchanged
  have hpid : old.pid = entry.mapped.pid :=
    (hstate.pid _ _ hold).trans (hlayout.pid entry hentry).symm
  have hid : old.id = entry.mapped.id := hstate.keyed _ _ hold
  have start : ∀ {α : Type} {a b t : α}, b = a ∨ b = t → a = t → b = t := by
    rintro α a b t (rfl | rfl) heq
    · exact heq
    · rfl
  have h1 := start htoward.id hid
  have h2 := start htoward.title htitle
  have h3 := start htoward.appId hap
  have h4 := start htoward.pid hpid
  have h5 := start htoward.workspaceId hws
  have h6 := start htoward.isFloating hfloat
  simp only [map_some, some.injEq] at hurgent htimestamp hpos hfocused
  obtain ⟨id, title, appId, pid, workspaceId, isFocused, isFloating, isUrgent, layout,
    focusTimestamp⟩ := w
  dsimp only at h1 h2 h3 h4 h5 h6 hurgent htimestamp hpos hfocused
  rw [h1, h2, h3, h4, h5, h6, hurgent, htimestamp, hpos, hfocused]

/-- **Every key** ends with what the layout has there. -/
theorem foldl_windowAt (hstate : state.Coherent pid) (hlayout : WindowsWF pid layout)
    (horder : HashMap.Enumerates order state.windows) (k : ℕ) :
    (refreshWindows state order layout).foldl (fun win event => event.windowAt k win)
      (state.windows.lookup k) = (windowsSnapshot layout).windows.lookup k := by
  by_cases hk : k ∈ layout.map (·.mapped.id)
  · obtain ⟨entry, hentry, rfl⟩ := List.mem_map.mp hk
    rw [hlayout.lookup_snapshot hentry]
    by_cases hre : Reopened state entry
    · -- The window is sent as a whole, and nothing leads away from it.
      refine Fold.foldl_reset (f := fun (win : Option Window) (event : Event) =>
        event.windowAt entry.mapped.id win) ?_ ⟨_, mem_refreshWindows.mpr (.inl ⟨entry, hentry,
          mem_diffWindow.mpr (.inl ⟨hre, rfl⟩)⟩), fun o => ?_⟩ _
      · intro event hevent
        obtain ⟨w', hw', htoward⟩ := windowAt_toward hlayout hentry hevent (makeIpcWindow entry)
        rw [hw', some.injEq]
        have self : ∀ {α : Type} {a b : α}, b = a ∨ b = a → b = a := fun h => h.elim id id
        obtain ⟨id, title, appId, pid, workspaceId, isFocused, isFloating, isUrgent, layout,
          focusTimestamp⟩ := w'
        have h1 := self htoward.id
        have h2 := self htoward.title
        have h3 := self htoward.appId
        have h4 := self htoward.pid
        have h5 := self htoward.workspaceId
        have h6 := self htoward.isFocused
        have h7 := self htoward.isFloating
        have h8 := self htoward.isUrgent
        have h9 := self htoward.layout
        have h10 := self htoward.focusTimestamp
        dsimp only at h1 h2 h3 h4 h5 h6 h7 h8 h9 h10
        rw [h1, h2, h3, h4, h5, h6, h7, h8, h9, h10]
      · rw [windowAt_opened, if_pos rfl]
    · unfold Reopened at hre
      simp only [not_forall, Bool.not_eq_true] at hre
      obtain ⟨old, hold, hunchanged⟩ := hre
      rw [hold]
      exact foldl_of_unchanged hstate hlayout horder hentry hold hunchanged
  · rw [lookup_windowsSnapshot_of_notMem hk]
    have hkeep : ∀ event ∈ refreshWindows state order layout, event.windowAt k none = none := by
      intro event hevent
      rcases mem_refreshWindows.mp hevent with ⟨other, hother, hmem⟩ | ⟨-, rfl⟩ |
        ⟨id, -, hid, rfl⟩ | ⟨hnone, -, rfl⟩
      · have hother' : other.mapped.id ≠ k := fun heq => hk (heq ▸ mem_map_of_mem hother)
        rcases mem_diffWindow.mp hmem with ⟨-, rfl⟩ | ⟨old, -, -, hsmall⟩
        · rw [windowAt_opened, if_neg hother']
          simp
        · cases hsmall <;> simp [Event.windowAt]
      · refine Fold.foldl_invariant (f := changeAt k) (I := (· = none)) ?_ rfl
        simp [changeAt]
      · simp [Event.windowAt]
      · rfl
    cases hold : state.windows.lookup k with
    | none =>
      refine Fold.foldl_invariant (f := fun (win : Option Window) (event : Event) =>
        event.windowAt k win) (I := (· = none)) ?_ rfl
      rintro event hevent o rfl
      exact hkeep event hevent
    | some old =>
      refine Fold.foldl_reset (f := fun (win : Option Window) (event : Event) =>
        event.windowAt k win) hkeep ⟨.windowClosed k, mem_refreshWindows.mpr (.inr (.inr (.inl
          ⟨k, (horder.mem_iff k).mpr (mem_iff.mpr ⟨old, hold⟩), hk, rfl⟩))), fun o => ?_⟩ _
      simp [Event.windowAt]

/-! ## The mirror is exact -/

theorem refreshWindows_applyAll (hstate : state.Coherent pid) (hlayout : WindowsWF pid layout)
    (horder : HashMap.Enumerates order state.windows) :
    state.applyAll (refreshWindows state order layout) = some (windowsSnapshot layout) := by
  obtain ⟨hkind, hopen⟩ := refreshWindows_needs layout horder
  obtain ⟨final, hfinal, hlookup⟩ := WindowsState.applyAll_at hstate.keyed
    (fun event hevent => (hkind event hevent).1) (fun event hevent => (hkind event hevent).2) hopen
  rw [hfinal, some.injEq]
  refine congrArg WindowsState.mk (ext_lookup fun k => ?_)
  show _ = (windowsSnapshot layout).windows.lookup k
  rw [hlookup, foldl_windowAt hstate hlayout horder]

/-- At no point are two windows focused. -/
theorem applyAll_oneFocused {self : WindowsState}
    (hkeyed : HashMap.Keyed Window.id self.windows) (hfocused : self.OneFocused)
    {events : List Event} (hkind : ∀ event ∈ events, event.isWindowChange = true)
    (hneeds : ∀ event ∈ events, ∀ id ∈ event.needs, id ∈ self.windows)
    (hopen : events.Pairwise fun before event => ∀ id ∈ event.needs, before ≠ .windowClosed id)
    {before : List Event} (hbefore : before <+: events) :
    ∃ mid, self.applyAll before = some mid ∧ mid.OneFocused := by
  induction before generalizing self events with
  | nil => exact ⟨self, rfl, hfocused⟩
  | cons event before ih =>
    obtain ⟨after, rfl⟩ := hbefore
    rw [cons_append, pairwise_cons] at hopen
    obtain ⟨self', happly, hlookup⟩ := WindowsState.apply_at hkeyed (hkind event (by simp))
      (hneeds event (by simp))
    have hmem : ∀ e ∈ before ++ after, e ∈ event :: before ++ after := fun e he =>
      mem_cons_of_mem _ he
    obtain ⟨mid, hmid, hone⟩ := ih (WindowsState.apply_keyed hkeyed happly)
      (hfocused.step hlookup) (fun e he => hkind e (hmem e he)) (fun e he id hid => by
        rw [← lookup_isSome, hlookup]
        exact WindowsState.isSome_windowAt (hopen.1 e he id hid)
          (lookup_isSome.mpr (hneeds e (hmem e he) id hid))) hopen.2 ⟨after, rfl⟩
    refine ⟨mid, ?_, hone⟩
    rw [WindowsState.applyAll, applyEvents, happly]
    exact hmid

/-- The states that refreshes leave behind, one after the other. -/
inductive WindowsMirrored (pid : ℕ → Option ℤ) : WindowsState → Prop
  | default : WindowsMirrored pid .default
  | refresh {state state' : WindowsState} {order : List ℕ} {layout : List WindowEntry} :
      WindowsMirrored pid state → WindowsWF pid layout → HashMap.Enumerates order state.windows →
      state.applyAll (refreshWindows state order layout) = some state' →
      WindowsMirrored pid state'

theorem WindowsMirrored.coherent (h : WindowsMirrored pid state) : state.Coherent pid := by
  induction h with
  | default => exact windowsCoherent_default
  | refresh _ hlayout horder happly ih =>
    rw [refreshWindows_applyAll ih hlayout horder] at happly
    obtain rfl := some.inj happly
    exact hlayout.coherent

/-- **The mirror is exact.**  Whatever earlier refreshes have left, the events of the next one
lead to the snapshot of the windows; applying them finds every window it expects, and at no
point are two windows focused. -/
theorem refreshWindows_exact (hstate : WindowsMirrored pid state)
    (hlayout : WindowsWF pid layout) (horder : HashMap.Enumerates order state.windows) :
    (∃ state', state.applyAll (refreshWindows state order layout) = some state' ∧
      (∀ entry ∈ layout, state'.windows.lookup entry.mapped.id = some (makeIpcWindow entry)) ∧
      ∀ id, id ∉ layout.map (·.mapped.id) → id ∉ state'.windows) ∧
    ∀ before, before <+: refreshWindows state order layout →
      ∃ mid, state.applyAll before = some mid ∧ mid.OneFocused := by
  obtain ⟨hkind, hopen⟩ := refreshWindows_needs layout horder
  refine ⟨⟨_, refreshWindows_applyAll hstate.coherent hlayout horder,
    fun entry hentry => hlayout.lookup_snapshot hentry, fun id hid =>
      lookup_eq_none.mp (lookup_windowsSnapshot_of_notMem hid)⟩, fun before hbefore => ?_⟩
  exact applyAll_oneFocused hstate.coherent.keyed hstate.coherent.focused
    (fun event hevent => (hkind event hevent).1) (fun event hevent => (hkind event hevent).2)
    hopen hbefore

/-- A focused terminal, and a browser that opens and takes the focus. -/
def terminal (focused : Bool) : WindowEntry where
  mapped := ⟨1, some "term", some "foot", some 100, focused, false, false, none⟩
  workspaceId := some 1
  layout := ⟨some (1, 1), (800, 600), (796, 596), none, (2, 2)⟩

def browser : WindowEntry where
  mapped := ⟨2, some "web", none, none, true, false, false, some ⟨5, 0⟩⟩
  workspaceId := some 1
  layout := ⟨some (2, 1), (800, 600), (796, 596), none, (2, 2)⟩

/-- The processes of the two clients. -/
def clientPid (id : ℕ) : Option ℤ := if id = 1 then some 100 else none

theorem terminal_wf : WindowsWF clientPid [terminal true] := by
  refine ⟨by decide, ?_, ?_⟩ <;> simp [terminal, clientPid]

theorem browser_wf : WindowsWF clientPid [terminal false, browser] := by
  refine ⟨by decide, ?_, ?_⟩ <;> simp [terminal, browser, clientPid]

theorem refreshWindows_exact_browser :
    (∃ state', (windowsSnapshot [terminal true]).applyAll
        (refreshWindows (windowsSnapshot [terminal true]) [1] [terminal false, browser]) =
          some state' ∧
      (∀ entry ∈ [terminal false, browser],
        state'.windows.lookup entry.mapped.id = some (makeIpcWindow entry)) ∧
      ∀ id, id ∉ [terminal false, browser].map (·.mapped.id) → id ∉ state'.windows) ∧
    ∀ before, before <+: refreshWindows (windowsSnapshot [terminal true]) [1]
        [terminal false, browser] →
      ∃ mid, (windowsSnapshot [terminal true]).applyAll before = some mid ∧ mid.OneFocused := by
  have hempty : HashMap.Enumerates [] WindowsState.default.windows :=
    ⟨nodup_nil, fun k => by simp [WindowsState.default, notMem_empty]⟩
  refine refreshWindows_exact (.refresh .default terminal_wf hempty
    (refreshWindows_applyAll windowsCoherent_default terminal_wf hempty)) browser_wf
    ⟨by decide, fun k => ?_⟩
  rw [← lookup_isSome, mem_singleton]
  by_cases hk : k = 1
  · rw [hk]
    decide
  · rw [lookup_windowsSnapshot_of_notMem (by simpa [terminal] using hk)]
    simpa using hk

end Tiri.Ipc
