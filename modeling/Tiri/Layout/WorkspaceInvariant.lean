import Tiri.Layout.FloatingInvariant
import Tiri.Layout.ScrollingSteps
import Tiri.Layout.Workspace

/-!
# The invariant of a workspace

A workspace keeps the invariants of its two spaces, and a window is in one of them only.  An
operation inside a workspace moves windows about, also between the two spaces, but brings none
and takes none away; and it leaves alone what identifies the workspace.

Results:
* `addTile_inv`, `removeTile_inv`, `removeActiveTile_inv`, `addColumn_inv`: windows come and go;
* `toggleWindowFloating_keeps`, `setFullscreen_keeps`, `setMaximized_keeps`: between the spaces;
* `Op.run_lays`: an operation that does not move the focus leaves each space its windows;
* `Op.run_keeps`: every operation inside a workspace.
-/

namespace Tiri.Layout

open List Ensures FloatingSpace
open ScrollingSpace hiding ids_eq_stamps

variable {Id : Type}

theorem ScrollingSpace.Frame.ids {s s' : ScrollingSpace Id} (h : s.Frame s') :
    s'.ids.Perm s.ids := by
  rw [ScrollingSpace.ids_eq_stamps, ScrollingSpace.ids_eq_stamps]
  exact h.stamps.map _

theorem FloatingSpace.Frame.ids {s s' : FloatingSpace Id} (h : s.Frame s') :
    s'.ids.Perm s.ids := by
  rw [ids_eq_stamps, ids_eq_stamps]
  exact h.stamps.map _

namespace Workspace

/-- The invariant of a workspace. -/
structure Inv (w : Workspace Id) : Prop where
  scrolling : w.scrolling.Inv False
  floating : w.floating.Inv
  nodup : w.ids.Nodup

/-- What identifies a workspace, and where it belongs. -/
structure SameIdentity (w w' : Workspace Id) : Prop where
  id : w'.id = w.id
  name : w'.name = w.name
  originalOutput : w'.originalOutput = w.originalOutput
  output : w'.output = w.output

/-- The same workspace with the same windows. -/
structure Frame (w w' : Workspace Id) : Prop extends SameIdentity w w' where
  ids : w'.ids.Perm w.ids

/-- The operation keeps the invariant and the windows. -/
def Keeps (f : Workspace Id → Option (Workspace Id)) : Prop :=
  ∀ w : Workspace Id, w.Inv → Ensures (f w) fun w' => w'.Inv ∧ w.Frame w'

variable (f : Workspace Id → Option (Workspace Id × Bool))

/-- The same, for an operation that answers whether it did anything. -/
def KeepsAnd : Prop :=
  ∀ w : Workspace Id, w.Inv → Ensures (f w) fun p => p.1.Inv ∧ w.Frame p.1

/-- Both spaces keep their windows, and the same one of them is active. -/
structure SameLayers (w w' : Workspace Id) : Prop extends SameIdentity w w' where
  scrolling : w'.scrolling.ids.Perm w.scrolling.ids
  floating : w'.floating.ids.Perm w.floating.ids
  active : w'.floatingIsActive = w.floatingIsActive

/-- The operation keeps the invariant, and the windows of each space. -/
def Lays (f : Workspace Id → Option (Workspace Id)) : Prop :=
  ∀ w : Workspace Id, w.Inv → Ensures (f w) fun w' => w'.Inv ∧ w.SameLayers w'

/-- The same, for an operation that answers whether it did anything. -/
def LaysAnd : Prop :=
  ∀ w : Workspace Id, w.Inv → Ensures (f w) fun p => p.1.Inv ∧ w.SameLayers p.1

theorem SameIdentity.refl (w : Workspace Id) : w.SameIdentity w := ⟨rfl, rfl, rfl, rfl⟩

variable {w w' w'' : Workspace Id} {f : FloatingSpace Id → Option (FloatingSpace Id)}
variable {g : ScrollingSpace Id → Option (ScrollingSpace Id)}

theorem SameIdentity.trans (h : w.SameIdentity w') (h' : w'.SameIdentity w'') :
    w.SameIdentity w'' :=
  ⟨h'.id.trans h.id, h'.name.trans h.name, h'.originalOutput.trans h.originalOutput,
    h'.output.trans h.output⟩

theorem Frame.refl (w : Workspace Id) : w.Frame w := ⟨.refl w, .refl _⟩

theorem Frame.trans (h : w.Frame w') (h' : w'.Frame w'') : w.Frame w'' :=
  ⟨h.toSameIdentity.trans h'.toSameIdentity, h'.ids.trans h.ids⟩

theorem ids_eq_map (w : Workspace Id) : w.ids = w.tiles.map Tile.id := by
  rw [tiles, map_append, ScrollingSpace.tiles, map_flatMap]
  rfl

theorem hasWindows_eq (w : Workspace Id) : w.hasWindows = !w.ids.isEmpty := by
  rw [hasWindows, ids_eq_map]
  cases w.tiles <;> rfl

theorem hasWindow_iff [DecidableEq Id] {window : Id} :
    w.hasWindow window = true ↔ window ∈ w.ids := by
  rw [ids_eq_map]
  simp [hasWindow]

theorem hasWindowsOrName_congr (hids : w'.ids.Perm w.ids) (hname : w'.name = w.name) :
    w'.hasWindowsOrName = w.hasWindowsOrName := by
  rw [hasWindowsOrName, hasWindowsOrName, hasWindows_eq, hasWindows_eq, hname, hids.isEmpty_eq]

theorem Frame.hasWindowsOrName (h : w.Frame w') : w'.hasWindowsOrName = w.hasWindowsOrName :=
  hasWindowsOrName_congr h.ids h.name

/-! ## New workspaces -/

theorem newEmpty_inv (id : WorkspaceId) (originalOutput : OutputId) (output : Option Output)
    (geometry : OutputGeometry) (config : Option WorkspaceConfig) (baseOptions : Options) :
    (newEmpty id originalOutput output geometry config baseOptions : Workspace Id).Inv :=
  ⟨new_inv _ _ _ _, new_inv _ _ _ _, nodup_nil⟩

/-! ## Changes that keep the windows -/

theorem SameLayers.refl (w : Workspace Id) : w.SameLayers w :=
  ⟨SameIdentity.refl w, .refl _, .refl _, rfl⟩

theorem SameLayers.trans (h : w.SameLayers w') (h' : w'.SameLayers w'') : w.SameLayers w'' :=
  ⟨h.toSameIdentity.trans h'.toSameIdentity, h'.scrolling.trans h.scrolling,
    h'.floating.trans h.floating, h'.active.trans h.active⟩

theorem SameLayers.frame (h : w.SameLayers w') : w.Frame w' :=
  ⟨h.toSameIdentity, h.scrolling.append h.floating⟩

theorem Lays.keeps {f : Workspace Id → Option (Workspace Id)} (hf : Lays f) : Keeps f :=
  fun w h => (hf w h).mono fun _ h' => ⟨h'.1, h'.2.frame⟩

/-- Both spaces may have changed, each keeping its windows. -/
theorem Inv.ofLayers (h : w.Inv) (hs : w'.scrolling.Inv False) (hf : w'.floating.Inv)
    (hlayers : w.SameLayers w') : w'.Inv ∧ w.SameLayers w' :=
  ⟨⟨hs, hf, hlayers.frame.ids.nodup_iff.mpr h.nodup⟩, hlayers⟩

variable {s : ScrollingSpace Id}

/-- The scrolling space has changed. -/
theorem Inv.setScrolling (h : w.Inv) (hs : s.Inv False) (hids : s.ids.Perm w.scrolling.ids) :
    ({ w with scrolling := s } : Workspace Id).Inv ∧ w.SameLayers { w with scrolling := s } :=
  h.ofLayers hs h.floating ⟨⟨rfl, rfl, rfl, rfl⟩, hids, .refl _, rfl⟩

/-- The floating space has changed. -/
theorem Inv.setFloating (h : w.Inv) {s : FloatingSpace Id} (hs : s.Inv)
    (hids : s.ids.Perm w.floating.ids) :
    ({ w with floating := s } : Workspace Id).Inv ∧ w.SameLayers { w with floating := s } :=
  h.ofLayers h.scrolling hs ⟨⟨rfl, rfl, rfl, rfl⟩, .refl _, hids, rfl⟩

theorem onScrolling_lays {f : ScrollingSpace Id → Option (ScrollingSpace Id)}
    (hf : ScrollingSpace.Keeps False f) : Lays fun w : Workspace Id => w.onScrolling f :=
  fun w h => (hf w.scrolling h.scrolling).bind fun _ hs => of_pure
    (h.setScrolling hs.1 hs.2.ids)

theorem onFloating_lays (hf : FloatingSpace.Keeps f) :
    Lays fun w : Workspace Id => w.onFloating f :=
  fun w h => (hf w.floating h.floating).bind fun _ hs => of_pure
    (h.setFloating hs.1 hs.2.ids)

theorem onActive_lays (hf : FloatingSpace.Keeps f) (hg : ScrollingSpace.Keeps False g) :
    Lays fun w : Workspace Id => w.onActive f g :=
  fun w h => Ensures.ite (fun _ => onFloating_lays hf w h) fun _ => onScrolling_lays hg w h

theorem onActiveAnd_lays {f : FloatingSpace Id → Option (FloatingSpace Id × Bool)}
    {g : ScrollingSpace Id → Option (ScrollingSpace Id × Bool)} (hf : FloatingSpace.KeepsAnd f)
    (hg : ScrollingSpace.KeepsAnd False g) :
    LaysAnd fun w : Workspace Id => w.onActiveAnd f g := by
  intro w h
  refine Ensures.ite (fun _ => (hf w.floating h.floating).bind fun p hp => of_pure ?_)
    fun _ => (hg w.scrolling h.scrolling).bind fun p hp => of_pure ?_
  · exact h.setFloating hp.1 hp.2.ids
  · exact h.setScrolling hp.1 hp.2.ids

theorem floatingSome_keeps : FloatingSpace.Keeps fun s : FloatingSpace Id => some s :=
  fun s h => of_some ⟨h, FloatingSpace.Frame.refl s⟩

theorem onTiling_lays (hg : ScrollingSpace.Keeps False g) :
    Lays fun w : Workspace Id => w.onTiling g :=
  onActive_lays floatingSome_keeps hg

theorem onTarget_lays [DecidableEq Id] (window : Option Id) (hf : FloatingSpace.Keeps f)
    (hg : ScrollingSpace.Keeps False g) : Lays fun w : Workspace Id => w.onTarget window f g :=
  fun w h => Ensures.ite (fun _ => onFloating_lays hf w h) fun _ => onScrolling_lays hg w h

theorem reporting_keeps (hf : FloatingSpace.Keeps f) : FloatingSpace.KeepsAnd (reporting f) := by
  intro s h p hp
  obtain ⟨s', hs', rfl⟩ := Option.map_eq_some_iff.mp hp
  exact hf s h s' hs'

theorem KeepsAnd.quietly {f : Workspace Id → Option (Workspace Id × Bool)} (hf : KeepsAnd f) :
    Keeps (Workspace.quietly f) := by
  intro w h w' hw'
  obtain ⟨p, hp, rfl⟩ := Option.map_eq_some_iff.mp hw'
  exact hf w h p hp

theorem LaysAnd.quietly {f : Workspace Id → Option (Workspace Id × Bool)} (hf : LaysAnd f) :
    Lays (Workspace.quietly f) := by
  intro w h w' hw'
  obtain ⟨p, hp, rfl⟩ := Option.map_eq_some_iff.mp hw'
  exact hf w h p hp

theorem focusOr_lays {f : Workspace Id → Option (Workspace Id × Bool)}
    {g : Workspace Id → Option (Workspace Id)} (hf : LaysAnd f) (hg : Lays g) :
    Lays fun w : Workspace Id => w.focusOr f g := by
  intro w h
  refine (hf w h).bind fun p hp => Ensures.ite (fun _ => of_pure hp) fun _ => ?_
  exact (hg p.1 hp.1).mono fun _ h' => ⟨h'.1, hp.2.trans h'.2⟩

/-- Only the focus moves to the other space. -/
theorem focus_frame (h : w.Inv) (active : FloatingActive) :
    ({ w with floatingIsActive := active } : Workspace Id).Inv ∧
      w.Frame { w with floatingIsActive := active } :=
  ⟨⟨h.scrolling, h.floating, h.nodup⟩, ⟨rfl, rfl, rfl, rfl⟩, .refl _⟩

/-- The same, after a change of one of them. -/
theorem focus_after (h : w'.Inv ∧ w.SameLayers w') (active : FloatingActive) :
    ({ w' with floatingIsActive := active } : Workspace Id).Inv ∧
      w.Frame { w' with floatingIsActive := active } :=
  ⟨(focus_frame h.1 active).1, h.2.frame.trans (focus_frame h.1 active).2⟩

theorem switchFocusFloatingTiling_frame (h : w.Inv) :
    w.switchFocusFloatingTiling.Inv ∧ w.Frame w.switchFocusFloatingTiling := by
  unfold switchFocusFloatingTiling
  split_ifs
  · exact ⟨h, Frame.refl w⟩
  · exact ⟨h, Frame.refl w⟩
  · exact focus_frame h _
  · exact focus_frame h _

theorem focusFloating_frame (h : w.Inv) : w.focusFloating.Inv ∧ w.Frame w.focusFloating := by
  unfold focusFloating
  split_ifs
  · exact ⟨h, Frame.refl w⟩
  · exact switchFocusFloatingTiling_frame h

theorem focusTiling_frame (h : w.Inv) : w.focusTiling.Inv ∧ w.Frame w.focusTiling := by
  unfold focusTiling
  split_ifs
  · exact switchFocusFloatingTiling_frame h
  · exact ⟨h, Frame.refl w⟩

theorem focusColumn_keeps (index : ℕ) : Keeps fun w : Workspace Id => w.focusColumn index := by
  intro w h
  obtain ⟨h', hframe⟩ := focusTiling_frame h
  exact ((onScrolling_lays (ScrollingSpace.focusColumn_keeps index)).keeps _ h').mono
    fun _ h'' => ⟨h''.1, hframe.trans h''.2⟩

/-! ## Configuration and output -/

theorem updateSpaces_lays (options : Options) :
    Lays fun w : Workspace Id => w.updateSpaces options := by
  intro w h
  refine (updateConfig_inv h.scrolling _ _ _ _ (fun hs => hs.elim)).bind
    fun s hs => of_pure ?_
  obtain ⟨hf, hst⟩ := updateConfig_inv h.floating w.viewSize w.workingArea w.scale
    options
  refine h.ofLayers hs.1 hf ⟨⟨rfl, rfl, rfl, rfl⟩, .of_eq ?_, .of_eq ?_, rfl⟩
  · rw [ScrollingSpace.ids_eq_stamps, ScrollingSpace.ids_eq_stamps, hs.2.1]
  · rw [ids_eq_stamps, ids_eq_stamps, hst]

/-- Fields that the invariant does not look at. -/
theorem Inv.same (h : w.Inv) (w' : Workspace Id) (hs : w'.scrolling = w.scrolling)
    (hf : w'.floating = w.floating) (hactive : w'.floatingIsActive = w.floatingIsActive)
    (hid : w.SameIdentity w') : w'.Inv ∧ w.SameLayers w' := by
  refine h.ofLayers ?_ ?_ ⟨hid, ?_, ?_, hactive⟩
  · rw [hs]
    exact h.scrolling
  · rw [hf]
    exact h.floating
  · rw [hs]
  · rw [hf]

theorem updateConfig_lays (baseOptions : Options) :
    Lays fun w : Workspace Id => w.updateConfig baseOptions := by
  intro w h
  refine (updateSpaces_lays _ w h).bind fun w' hw' => of_pure ?_
  obtain ⟨h', hlayers⟩ := hw'.1.same { w' with
    baseOptions := baseOptions
    options := resolveOptions baseOptions w.layoutConfig w.scale } rfl rfl rfl ⟨rfl, rfl, rfl, rfl⟩
  exact ⟨h', hw'.2.trans hlayers⟩

/-- An operation after a change of fields that the invariant does not look at. -/
theorem Lays.after {f : Workspace Id → Option (Workspace Id)} (hf : Lays f) (h : w.Inv)
    (w' : Workspace Id) (hs : w'.scrolling = w.scrolling) (hfl : w'.floating = w.floating)
    (hactive : w'.floatingIsActive = w.floatingIsActive) (hid : w.SameIdentity w') :
    Ensures (f w') fun w'' => w''.Inv ∧ w.SameLayers w'' := by
  obtain ⟨h', hlayers⟩ := h.same w' hs hfl hactive hid
  exact (hf w' h').mono fun _ h'' => ⟨h''.1, hlayers.trans h''.2⟩

theorem updateLayoutConfig_lays (layoutConfig : Option LayoutPart) :
    Lays fun w : Workspace Id => w.updateLayoutConfig layoutConfig := by
  intro w h
  refine Ensures.ite (fun _ => of_some ⟨h, SameLayers.refl w⟩) fun _ => ?_
  exact (updateConfig_lays w.baseOptions).after h _ rfl rfl rfl ⟨rfl, rfl, rfl, rfl⟩

theorem setViewSize_lays (geometry : OutputGeometry) :
    Lays fun w : Workspace Id => w.setViewSize geometry := by
  intro w h
  refine Ensures.ite (fun _ => of_some ⟨h, SameLayers.refl w⟩) fun _ =>
    Ensures.ite (fun _ => ?_) fun _ => ?_
  · exact (updateConfig_lays w.baseOptions).after h _ rfl rfl rfl ⟨rfl, rfl, rfl, rfl⟩
  · exact (updateSpaces_lays w.options).after h _ rfl rfl rfl ⟨rfl, rfl, rfl, rfl⟩

variable (geometry : Output → OutputGeometry)

theorem updateOutputSize_lays : Lays fun w : Workspace Id => w.updateOutputSize geometry :=
  fun w h => Ensures.self.bind fun output _ => setViewSize_lays (geometry output) w h

/-- What `set_output` leaves as it was, and what it makes of the original output. -/
structure Rehomed (w : Workspace Id) (output : Option Output) (w' : Workspace Id) : Prop where
  inv : w'.Inv
  ids : w'.ids.Perm w.ids
  id : w'.id = w.id
  name : w'.name = w.name
  current : w'.output = output
  original : w'.originalOutput = w.originalOutput ∨
    ∃ o, output = some o ∧ w.originalOutput.matchesOutput o = true ∧
      w'.originalOutput = OutputId.new o

theorem setOutput_rehomed (output : Option Output) (h : w.Inv) :
    Ensures (w.setOutput geometry output) (w.Rehomed output) := by
  refine Ensures.ite (fun hsame => of_some ?_) fun _ => ?_
  · exact ⟨h, .refl _, rfl, rfl, hsame, .inl rfl⟩
  cases output with
  | none =>
    refine of_some ⟨⟨h.scrolling, h.floating, h.nodup⟩, .refl _, rfl, rfl, rfl, .inl rfl⟩
  | some o =>
    refine Ensures.mono ((updateOutputSize_lays geometry).keeps _ ⟨h.scrolling, h.floating, h.nodup⟩)
      fun w' hw' => ?_
    refine ⟨hw'.1, hw'.2.ids, hw'.2.id, hw'.2.name, hw'.2.output, ?_⟩
    rw [hw'.2.originalOutput]
    by_cases hm : w.originalOutput.matchesOutput o = true
    · exact .inr ⟨o, rfl, hm, if_pos hm⟩
    · exact .inl (if_neg hm)

/-! ## Windows come and go -/

/-- A window comes, and nothing else changes. -/
structure Added (w : Workspace Id) (ids : List Id) (w' : Workspace Id) : Prop
    extends SameIdentity w w' where
  inv : w'.Inv
  ids : w'.ids.Perm (ids ++ w.ids)

theorem addToScrolling_added (h : w.Inv) (activate : Bool) {x : Option (ScrollingSpace Id)}
    {stamps : List (Id × Bool)}
    (hx : Ensures x fun s => s.Inv False ∧ s.stamps.Perm (stamps ++ w.scrolling.stamps))
    (hnodup : (stamps.map Prod.fst ++ w.ids).Nodup) :
    Ensures (w.addToScrolling activate x) (w.Added (stamps.map Prod.fst)) := by
  refine hx.bind fun s hs => of_pure ?_
  have hperm : (s.ids ++ w.floating.ids).Perm (stamps.map Prod.fst ++ w.ids) := by
    rw [ids, ← append_assoc]
    refine List.Perm.append_right _ ?_
    rw [ScrollingSpace.ids_eq_stamps, ScrollingSpace.ids_eq_stamps, ← map_append]
    exact hs.2.map _
  exact ⟨⟨rfl, rfl, rfl, rfl⟩, ⟨hs.1, h.floating, hperm.nodup_iff.mpr hnodup⟩, hperm⟩

variable {stamp : Id × Bool}

theorem addToFloating_added (h : w.Inv) (activate : Bool) {x : Option (FloatingSpace Id)}
    (hx : Ensures x fun s => s.Inv ∧ s.stamps.Perm (stamp :: w.floating.stamps))
    (hnodup : ([stamp.1] ++ w.ids).Nodup) :
    Ensures (w.addToFloating activate x) (w.Added [stamp.1]) := by
  refine hx.bind fun s hs => of_pure ?_
  have hperm : (w.scrolling.ids ++ s.ids).Perm ([stamp.1] ++ w.ids) := by
    have hids : s.ids.Perm (stamp.1 :: w.floating.ids) := by
      rw [ids_eq_stamps, ids_eq_stamps]
      exact hs.2.map Prod.fst
    exact (hids.append_left _).trans perm_middle
  exact ⟨⟨rfl, rfl, rfl, rfl⟩, ⟨h.scrolling, hs.1, hperm.nodup_iff.mpr hnodup⟩, hperm⟩

theorem nodup_scrolling (stamps : List (Id × Bool)) (hnodup : (stamps.map Prod.fst ++ w.ids).Nodup) :
    ((stamps ++ w.scrolling.stamps).map Prod.fst).Nodup := by
  rw [ids, ← append_assoc, ScrollingSpace.ids_eq_stamps, ← map_append] at hnodup
  exact (nodup_append.mp hnodup).1

theorem not_mem_floating {id : Id} (hfresh : id ∉ w.ids) : id ∉ w.floating.ids :=
  fun hid => hfresh (mem_append_right _ hid)

/-- Windows go, and nothing else changes. -/
structure Removed (w : Workspace Id) (ids : List Id) (w' : Workspace Id) : Prop
    extends SameIdentity w w' where
  inv : w'.Inv
  ids : w.ids.Perm (ids ++ w'.ids)

theorem updateFocus_removed {ids : List Id} (h : w.Removed ids w') (fromFloating : Bool) :
    w.Removed ids (w'.updateFocusFloatingTilingAfterRemoving fromFloating) := by
  have key : ∀ active, w.Removed ids { w' with floatingIsActive := active } := by
    intro active
    obtain ⟨h', hframe⟩ := focus_frame h.inv active
    exact ⟨h.toSameIdentity.trans hframe.toSameIdentity, h', h.ids.trans (hframe.ids.symm.append_left _)⟩
  unfold updateFocusFloatingTilingAfterRemoving
  split_ifs
  · exact key _
  · exact h
  · exact key _
  · exact h

theorem removed_scrolling (h : w.Inv) (removed : List (Id × Bool)) (hs : s.Inv False)
    (hst : w.scrolling.stamps.Perm (removed ++ s.stamps)) :
    w.Removed (removed.map Prod.fst) { w with scrolling := s } := by
  have hperm : w.ids.Perm (removed.map Prod.fst ++ (s.ids ++ w.floating.ids)) := by
    rw [ids, ← append_assoc, ScrollingSpace.ids_eq_stamps, ScrollingSpace.ids_eq_stamps,
      ← map_append]
    exact (hst.map _).append_right _
  have hnodup := (nodup_append.mp (hperm.nodup_iff.mp h.nodup)).2.1
  exact ⟨⟨rfl, rfl, rfl, rfl⟩, ⟨hs, h.floating, hnodup⟩, hperm⟩

theorem removed_floating (h : w.Inv) {s : FloatingSpace Id} (hs : s.Inv)
    (hst : w.floating.stamps.Perm (stamp :: s.stamps)) :
    w.Removed [stamp.1] { w with floating := s } := by
  have hperm : w.ids.Perm ([stamp.1] ++ (w.scrolling.ids ++ s.ids)) := by
    have hids : w.floating.ids.Perm (stamp.1 :: s.ids) := by
      rw [ids_eq_stamps, ids_eq_stamps]
      exact hst.map Prod.fst
    exact (hids.append_left _).trans perm_middle
  have hnodup := (nodup_append.mp (hperm.nodup_iff.mp h.nodup)).2.1
  exact ⟨⟨rfl, rfl, rfl, rfl⟩, ⟨h.scrolling, hs, hnodup⟩, hperm⟩

theorem addTileToColumn_inv (h : w.Inv) (colIdx : ℕ) (tileIdx : Option ℕ) (tile : Tile Id)
    (activate : Bool) (hfresh : tile.id ∉ w.ids) :
    Ensures (w.addTileToColumn colIdx tileIdx tile activate) (w.Added [tile.id]) := by
  have hnodup : ([tile.stamp].map Prod.fst ++ w.ids).Nodup := nodup_cons.mpr ⟨hfresh, h.nodup⟩
  refine addToScrolling_added h activate ?_ hnodup
  exact (ScrollingSpace.addTileToColumn_inv h.scrolling colIdx tileIdx tile activate
    (nodup_scrolling _ hnodup)).mono fun _ hs => ⟨hs.1, hs.2.1⟩

theorem addColumn_inv (h : w.Inv) {column : Column Id} (activate : Bool)
    (hcolumn : column.Inv False) (hnodup : (column.ids ++ w.ids).Nodup) :
    Ensures (w.addColumn column activate) (w.Added column.ids) := by
  rw [Column.ids_eq_stamps] at hnodup ⊢
  refine addToScrolling_added h activate ?_ hnodup
  exact (ScrollingSpace.addColumn_inv h.scrolling none activate hcolumn (fun hs => hs.elim)
    (nodup_scrolling _ hnodup)).mono fun _ hs => ⟨hs.1, hs.2.1⟩

variable [DecidableEq Id]

/-- A tile with this stamp has been added to one of the spaces. -/
inductive Lands (w : Workspace Id) (stamp : Id × Bool) (w' : Workspace Id) : Prop
  | scrolling (activate : Bool) (x : Option (ScrollingSpace Id))
      (added : Ensures x fun s => s.Inv False ∧ s.stamps.Perm ([stamp] ++ w.scrolling.stamps))
      (after : w.addToScrolling activate x = some w')
  | floating (activate : Bool) (x : Option (FloatingSpace Id))
      (added : Ensures x fun s => s.Inv ∧ s.stamps.Perm (stamp :: w.floating.stamps))
      (after : w.addToFloating activate x = some w')

/-- **`add_tile`** adds the tile to one of the spaces. -/
theorem addTile_lands (h : w.Inv) (tile : Tile Id) (target : WorkspaceAddWindowTarget Id)
    (activate : ActivateWindow) (width : ColumnWidth) (isFullWidth isFloating : Bool)
    (hfresh : tile.id ∉ w.ids) :
    Ensures (w.addTile tile target activate width isFullWidth isFloating)
      (w.Lands (tile.id, isFloating)) := by
  have hnodup : ([tile.id] ++ w.ids).Nodup := nodup_cons.mpr ⟨hfresh, h.nodup⟩
  have hscrolling : ∀ (colIdx : Option ℕ) (act : Bool), Ensures
      (w.scrolling.addTile colIdx { tile with restoreToFloating := isFloating } act width
        isFullWidth)
      fun s => s.Inv False ∧ s.stamps.Perm ([(tile.id, isFloating)] ++ w.scrolling.stamps) :=
    fun colIdx act => Ensures.mono (ScrollingSpace.addTile_inv h.scrolling colIdx act width
      isFullWidth (fun hs => hs.elim) (nodup_scrolling [(tile.id, isFloating)] hnodup))
        fun _ hs => ⟨hs.1, hs.2.1⟩
  have hfloating : ∀ (idx : ℕ) (act : Bool), Ensures
      (w.floating.addTileAt idx { tile with restoreToFloating := isFloating } act)
      fun s => s.Inv ∧ s.stamps.Perm ((tile.id, isFloating) :: w.floating.stamps) :=
    fun idx act => Ensures.mono (addTileAt_inv h.floating idx act
      (not_mem_floating hfresh)) fun _ hs => ⟨hs.1, hs.2.1⟩
  cases target with
  | auto =>
    refine Ensures.ite (fun _ => ?_) fun _ => ?_
    · exact fun _ hw' => .floating _ _ (hfloating 0 _) hw'
    · exact fun _ hw' => .scrolling _ _ (hscrolling none _) hw'
  | newColumnAt colIdx => exact fun _ hw' => .scrolling _ _ (hscrolling (some colIdx) _) hw'
  | nextTo nextTo =>
    refine Ensures.self.bind fun act _ => Ensures.ite (fun _ => ?_) fun _ => ?_
    · refine Ensures.ite (fun _ => ?_) fun _ => Ensures.self.bind fun _ _ => ?_
      · exact fun _ hw' => .floating _ _ (Ensures.self.bind fun _ _ => hfloating _ _) hw'
      · exact fun _ hw' => .floating _ _ (hfloating 0 _) hw'
    · refine Ensures.ite (fun _ => ?_) fun _ => ?_
      · exact fun _ hw' => .scrolling _ _ (hscrolling none _) hw'
      · exact fun _ hw' => .scrolling _ _ (Ensures.self.bind fun _ _ => hscrolling _ _) hw'

/-- The window is there, in one of the spaces. -/
theorem addTile_inv (h : w.Inv) (tile : Tile Id) (target : WorkspaceAddWindowTarget Id)
    (activate : ActivateWindow) (width : ColumnWidth) (isFullWidth isFloating : Bool)
    (hfresh : tile.id ∉ w.ids) :
    Ensures (w.addTile tile target activate width isFullWidth isFloating)
      (w.Added [tile.id]) := by
  have hnodup : ([tile.id] ++ w.ids).Nodup := nodup_cons.mpr ⟨hfresh, h.nodup⟩
  refine (addTile_lands h tile target activate width isFullWidth isFloating hfresh).mono
    fun w' hlands => ?_
  cases hlands with
  | scrolling act x hx hw' => exact addToScrolling_added h act hx hnodup w' hw'
  | floating act x hx hw' => exact addToFloating_added h act hx hnodup w' hw'

/-- **`remove_tile`**: the window is gone, from the space it was in. -/
theorem removeTile_inv (h : w.Inv) (id : Id) (expected : Option ISize) :
    Ensures (w.removeTile id expected) fun p => w.Removed [p.1.tile.id] p.2 := by
  refine Ensures.ite (fun _ => ?_) fun _ => ?_
  · refine (FloatingSpace.removeTile_inv h.floating id expected).bind fun p hp =>
      of_pure ?_
    exact updateFocus_removed (removed_floating h hp.1.inv hp.1.stamps) true
  · refine (ScrollingSpace.removeTile_inv h.scrolling id).bind fun p hp => of_pure ?_
    exact updateFocus_removed
      (removed_scrolling h [p.1.tile.stamp] hp.inv hp.stamps) false

/-- **`remove_active_tile`**: the active window is gone, if there was one. -/
theorem removeActiveTile_inv (h : w.Inv) (expected : Option ISize) :
    Ensures (w.removeActiveTile expected) fun p =>
      (∃ removed, p.1 = some removed ∧ w.Removed [removed.tile.id] p.2) ∨
        (p.1 = none ∧ p.2 = w) := by
  refine Ensures.ite (fun _ => ?_) fun _ => ?_
  · refine (FloatingSpace.removeActiveTile_inv h.floating expected).bind fun q hq => ?_
    obtain ⟨o, s⟩ := q
    rcases hq with ⟨removed, hq1, hr⟩ | ⟨hq1, -⟩
    · obtain rfl : o = some removed := hq1
      exact of_pure
        (.inl ⟨removed, rfl, updateFocus_removed (removed_floating h hr.inv hr.stamps) true⟩)
    · obtain rfl : o = none := hq1
      exact of_pure (.inr ⟨rfl, rfl⟩)
  · refine (ScrollingSpace.removeActiveTile_inv h.scrolling).bind fun q hq => ?_
    obtain ⟨o, s⟩ := q
    rcases hq with ⟨removed, hq1, hr⟩ | ⟨hq1, -⟩
    · obtain rfl : o = some removed := hq1
      exact of_pure (.inl ⟨removed, rfl,
        updateFocus_removed (removed_scrolling h [removed.tile.stamp] hr.inv hr.stamps) false⟩)
    · obtain rfl : o = none := hq1
      exact of_pure (.inr ⟨rfl, rfl⟩)

/-- **`remove_active_column`**: the windows of the active column are gone, if there was one. -/
theorem removeActiveColumn_inv (h : w.Inv) :
    Ensures w.removeActiveColumn fun p =>
      (∃ column, p.1 = some column ∧ column.Inv False ∧ w.Removed column.ids p.2) ∨
        (p.1 = none ∧ p.2 = w) := by
  refine Ensures.ite (fun _ => of_some (.inr ⟨rfl, rfl⟩)) fun _ => ?_
  refine (ScrollingSpace.removeActiveColumn_inv h.scrolling).bind fun q hq => ?_
  obtain ⟨o, s⟩ := q
  rcases hq with ⟨column, hq1, hs, hcolumn, hst, -⟩ | ⟨hq1, -⟩
  · obtain rfl : o = some column := hq1
    refine of_pure (.inl ⟨column, rfl, hcolumn, ?_⟩)
    rw [Column.ids_eq_stamps]
    exact updateFocus_removed (removed_scrolling h column.stamps hs hst) false
  · obtain rfl : o = none := hq1
    exact of_pure (.inr ⟨rfl, rfl⟩)

/-! ## Between the spaces -/

variable (id : Option Id)

/-- **`toggle_window_floating`** moves a window to the other space. -/
theorem toggleWindowFloating_keeps (expected : Option ISize) :
    Keeps fun w : Workspace Id => w.toggleWindowFloating id expected := by
  intro w h
  show Ensures (w.toggleWindowFloating id expected) _
  unfold toggleWindowFloating
  dsimp only
  cases id.or (w.activeWindow.map Window.id) with
  | none => exact of_some ⟨h, Frame.refl w⟩
  | some id =>
    refine Ensures.self.bind fun _ _ => Ensures.ite (fun _ => ?_) fun _ => ?_
    · refine (FloatingSpace.removeTile_inv h.floating id expected).bind fun p hp => ?_
      have hr := removed_floating h hp.1.inv hp.1.stamps
      have hnodup := hr.ids.nodup_iff.mp h.nodup
      refine (ScrollingSpace.addTile_inv h.scrolling none _ _ _ (fun hs => hs.elim)
        (@nodup_scrolling Id { w with floating := p.2 } [p.1.tile.stamp] hnodup)).bind
          fun s hs => of_pure ?_
      have hperm : (s.ids ++ p.2.ids).Perm w.ids := by
        have hids : s.ids.Perm (p.1.tile.id :: w.scrolling.ids) := by
          rw [ScrollingSpace.ids_eq_stamps, ScrollingSpace.ids_eq_stamps]
          exact hs.2.1.map Prod.fst
        exact (hids.append_right _).trans hr.ids.symm
      exact ⟨⟨hs.1, hp.1.inv, hperm.nodup_iff.mpr h.nodup⟩, ⟨rfl, rfl, rfl, rfl⟩, hperm⟩
    · refine (ScrollingSpace.removeTile_inv h.scrolling id).bind fun p hp => ?_
      have hr := removed_scrolling h [p.1.tile.stamp] hp.inv hp.stamps
      have hnodup := hr.ids.nodup_iff.mp h.nodup
      have hfresh : p.1.tile.id ∉ w.floating.ids := fun hid =>
        (nodup_cons.mp hnodup).1 (mem_append_right p.2.ids hid)
      refine (FloatingSpace.addTile_inv h.floating _ hfresh).bind fun s hs => of_pure ?_
      have hperm : (p.2.ids ++ s.ids).Perm w.ids := by
        have hids : s.ids.Perm (p.1.tile.id :: w.floating.ids) := by
          rw [ids_eq_stamps, ids_eq_stamps]
          exact hs.2.1.map Prod.fst
        exact ((hids.append_left _).trans perm_middle).trans hr.ids.symm
      exact ⟨⟨hp.inv, hs.1, hperm.nodup_iff.mpr h.nodup⟩, ⟨rfl, rfl, rfl, rfl⟩, hperm⟩

theorem setWindowFloating_keeps (floating : Bool) (expected : Option ISize) :
    Keeps fun w : Workspace Id => w.setWindowFloating id floating expected :=
  fun w h => Ensures.ite (fun _ => of_some ⟨h, Frame.refl w⟩) fun _ =>
    toggleWindowFloating_keeps id expected w h

theorem setMode_lays {set : ScrollingSpace Id → Option (ScrollingSpace Id × Bool)}
    (hset : ScrollingSpace.KeepsAnd False set) (window : Id) (restoreToFloating : Bool) :
    Lays fun w : Workspace Id => w.setMode set window restoreToFloating := by
  intro w h
  refine Ensures.self.bind fun _ _ => (hset w.scrolling h.scrolling).bind fun p hp =>
    Ensures.self.bind fun _ _ => ?_
  have hmode := h.setScrolling hp.1 hp.2.ids
  refine Ensures.ite (fun _ => ?_) fun _ => of_pure hmode
  refine (setRestoreToFloating_inv hp.1 window restoreToFloating).bind
    fun s hs => of_pure (h.setScrolling hs.1 ?_)
  rw [hs.2]
  exact hp.2.ids

omit [DecidableEq Id] in
theorem Keeps.trans {f g : Workspace Id → Option (Workspace Id)} (hf : Keeps f) (hg : Keeps g) :
    Keeps fun w => f w >>= g :=
  fun w h => (hf w h).bind fun w' hw' => (hg w' hw'.1).mono
    fun _ h'' => ⟨h''.1, hw'.2.trans h''.2⟩

variable (window : Id)

theorem setFullscreen_keeps (isFullscreen : Bool) (expected : Option ISize) :
    Keeps fun w : Workspace Id => w.setFullscreen window isFullscreen expected := by
  have set : ∀ b, ScrollingSpace.KeepsAnd False
      fun s : ScrollingSpace Id => s.setFullscreen window b :=
    fun b => ScrollingSpace.setFullscreen_keeps window b
  intro w h
  refine Ensures.ite (fun _ => Ensures.ite (fun _ => ?_) fun _ =>
    of_pure ⟨h, Frame.refl w⟩) fun _ => Ensures.ite (fun _ => ?_) fun _ => ?_
  · exact (toggleWindowFloating_keeps (some window) expected).trans
      (setMode_lays (set true) window true).keeps w h
  · exact (setMode_lays (set true) window false).keeps w h
  · refine Ensures.self.bind fun _ _ => Ensures.self.bind fun _ _ => Ensures.self.bind fun _ _ => ?_
    exact Ensures.ite (fun _ => toggleWindowFloating_keeps (some window) expected w h)
      fun _ => (setMode_lays (set false) window false).keeps w h

variable (expected : Option ISize)

theorem toggleFullscreen_keeps : Keeps fun w : Workspace Id => w.toggleFullscreen window expected :=
  fun w h => Ensures.self.bind fun _ _ => setFullscreen_keeps window _ expected w h

theorem setMaximized_keeps (maximize : Bool) (expected : Option ISize) :
    Keeps fun w : Workspace Id => w.setMaximized window maximize expected := by
  have set : ∀ b, ScrollingSpace.KeepsAnd False
      fun s : ScrollingSpace Id => s.setMaximized window b :=
    fun b => ScrollingSpace.setMaximized_keeps window b
  intro w h
  refine Ensures.ite (fun _ => Ensures.ite (fun _ => ?_) fun _ =>
    of_pure ⟨h, Frame.refl w⟩) fun _ => Ensures.ite (fun _ => ?_) fun _ => ?_
  · exact (toggleWindowFloating_keeps (some window) expected).trans
      (setMode_lays (set true) window true).keeps w h
  · exact (setMode_lays (set true) window false).keeps w h
  · refine Ensures.self.bind fun _ _ => ?_
    exact Ensures.ite (fun _ => toggleWindowFloating_keeps (some window) expected w h)
      fun _ => (setMode_lays (set false) window false).keeps w h

theorem toggleMaximized_keeps : Keeps fun w : Workspace Id => w.toggleMaximized window expected :=
  fun w h => setMaximized_keeps window _ expected w h

/-! ## Focus, commits, gestures and resizes -/

theorem activateWindow_keeps : KeepsAnd fun w : Workspace Id => w.activateWindow window := by
  intro w h
  refine (FloatingSpace.activateWindow_keeps window w.floating h.floating).bind fun p hp =>
    Ensures.ite (fun _ => of_pure ?_) fun _ => ?_
  · exact focus_after (h.setFloating hp.1 hp.2.ids) .yes
  · refine (activateWindow_inv window w.scrolling h.scrolling).bind fun q hq =>
      Ensures.ite (fun _ => of_pure ?_) fun _ => of_pure ⟨h, Frame.refl w⟩
    exact focus_after (h.setScrolling hq.1 hq.2.ids) .no

theorem activateWindowWithoutRaising_keeps :
    KeepsAnd fun w : Workspace Id => w.activateWindowWithoutRaising window := by
  intro w h
  obtain ⟨hf, hframe⟩ := activateWindowWithoutRaising_inv h.floating window
  refine Ensures.ite (fun _ => of_pure ?_) fun _ => ?_
  · exact focus_after (h.setFloating hf hframe.ids) .yes
  · refine (activateWindow_inv window w.scrolling h.scrolling).bind fun q hq =>
      Ensures.ite (fun _ => of_pure ?_) fun _ => of_pure ⟨h, Frame.refl w⟩
    exact focus_after (h.setScrolling hq.1 hq.2.ids) _

theorem updateWindow_lays (state : WindowState) :
    Lays fun w : Workspace Id => w.updateWindow window state := by
  intro w h
  refine (updateWindow_keeps window state w.floating h.floating).bind fun p hp =>
    Ensures.ite (fun _ => of_pure ?_) fun _ => ?_
  · exact h.setFloating hp.1 hp.2.ids
  · exact onScrolling_lays (updateWindow_keeps window state) w h

theorem descendantsAdded_lays : LaysAnd fun w : Workspace Id => w.descendantsAdded window :=
  fun w h => (descendantsAdded_keeps window w.floating h.floating).bind
    fun _ hp => of_pure (h.setFloating hp.1 hp.2.ids)

theorem moveFloatingWindow_lays (window : Option Id) :
    Lays fun w : Workspace Id => w.moveFloatingWindow window := by
  refine onTarget_lays window (moveWindow_keeps window) ?_
  intro s h
  cases window with
  | none => exact of_some ⟨h, ScrollingSpace.Frame.refl s⟩
  | some id => exact Ensures.self.bind fun _ _ => of_pure ⟨h, ScrollingSpace.Frame.refl s⟩

omit [DecidableEq Id] in
theorem dndScrollGestureBegin_layers (h : w.Inv) (ongoing : Bool) :
    (w.dndScrollGestureBegin ongoing).Inv ∧ w.SameLayers (w.dndScrollGestureBegin ongoing) := by
  obtain ⟨hs, hframe⟩ := dndScrollGestureBegin_inv h.scrolling ongoing
  exact h.setScrolling hs hframe.ids

theorem interactiveResizeEnd_layers (h : w.Inv) (window : Option Id) :
    (w.interactiveResizeEnd window).Inv ∧ w.SameLayers (w.interactiveResizeEnd window) := by
  have hs := fun x => interactiveResizeEnd_inv h.scrolling x
  have hf := fun x => interactiveResizeEnd_inv h.floating x
  unfold interactiveResizeEnd
  cases window with
  | none =>
    exact h.ofLayers (hs none).1 (hf none).1
      ⟨⟨rfl, rfl, rfl, rfl⟩, (hs none).2.ids, (hf none).2.ids, rfl⟩
  | some window =>
    dsimp only
    split_ifs
    · exact h.setFloating (hf _).1 (hf _).2.ids
    · exact h.setScrolling (hs _).1 (hs _).2.ids

omit [DecidableEq Id] in
theorem quietly_floating {f : FloatingSpace Id → Option (FloatingSpace Id × Bool)}
    (hf : FloatingSpace.KeepsAnd f) : FloatingSpace.Keeps (quietly f) := hf.fst

omit [DecidableEq Id] in
theorem quietly_scrolling {f : ScrollingSpace Id → Option (ScrollingSpace Id × Bool)}
    (hf : ScrollingSpace.KeepsAnd False f) : ScrollingSpace.Keeps False (quietly f) := hf.fst

/-! ## Every operation inside a workspace -/

variable (nearest : Option Id)

theorem focusLeft_lays : LaysAnd fun w : Workspace Id => w.focusLeft nearest :=
  onActiveAnd_lays (focusDirectional_keeps nearest) focusLeft_keeps

theorem focusRight_lays : LaysAnd fun w : Workspace Id => w.focusRight nearest :=
  onActiveAnd_lays (focusDirectional_keeps nearest) focusRight_keeps

theorem focusDown_lays : LaysAnd fun w : Workspace Id => w.focusDown nearest :=
  onActiveAnd_lays (focusDirectional_keeps nearest) focusDown_keeps

theorem focusUp_lays : LaysAnd fun w : Workspace Id => w.focusUp nearest :=
  onActiveAnd_lays (focusDirectional_keeps nearest) focusUp_keeps

variable (outermost : Option Id)

theorem focusColumnFirst_lays : Lays fun w : Workspace Id => w.focusColumnFirst outermost :=
  onActive_lays (focusOutermost_keeps outermost)
    focusColumnFirst_keeps

theorem focusColumnLast_lays : Lays fun w : Workspace Id => w.focusColumnLast outermost :=
  onActive_lays (focusOutermost_keeps outermost)
    focusColumnLast_keeps

theorem focusWindowTop_lays : Lays fun w : Workspace Id => w.focusWindowTop outermost :=
  onActive_lays (focusOutermost_keeps outermost) focusTop_keeps

theorem focusWindowBottom_lays : Lays fun w : Workspace Id => w.focusWindowBottom outermost :=
  onActive_lays (focusOutermost_keeps outermost) focusBottom_keeps

theorem moveLeft_lays : LaysAnd (moveLeft : Workspace Id → _) :=
  onActiveAnd_lays (reporting_keeps (moveWindow_keeps none))
    moveLeft_keeps

theorem moveRight_lays : LaysAnd (moveRight : Workspace Id → _) :=
  onActiveAnd_lays (reporting_keeps (moveWindow_keeps none))
    moveRight_keeps

theorem moveDown_lays : LaysAnd (moveDown : Workspace Id → _) :=
  onActiveAnd_lays (reporting_keeps (moveWindow_keeps none))
    moveDown_keeps

theorem moveUp_lays : LaysAnd (moveUp : Workspace Id → _) :=
  onActiveAnd_lays (reporting_keeps (moveWindow_keeps none))
    moveUp_keeps

/-- The operations that may give the focus to the other space. -/
def Op.movesFocus : Op Id → Bool
  | .switchFocusFloatingTiling | .focusFloating | .focusTiling | .focusColumn _
  | .activateWindow _ | .activateWindowWithoutRaising _ | .toggleWindowFloating _ _
  | .setWindowFloating _ _ _ | .setFullscreen _ _ _ | .toggleFullscreen _ _
  | .setMaximized _ _ _ | .toggleMaximized _ _ => true
  | _ => false

variable (op : Op Id)

/-- The other operations keep the windows of each space. -/
theorem Op.run_lays (h : op.movesFocus = false) : Lays fun w : Workspace Id => op.run w := by
  have directional := fun x => quietly_floating (@FloatingSpace.focusDirectional_keeps Id _ x)
  cases op with
  | focusLeft nearest => exact (focusLeft_lays nearest).quietly
  | focusRight nearest => exact (focusRight_lays nearest).quietly
  | focusDown nearest => exact (focusDown_lays nearest).quietly
  | focusUp nearest => exact (focusUp_lays nearest).quietly
  | focusColumnFirst outermost => exact focusColumnFirst_lays outermost
  | focusColumnLast outermost => exact focusColumnLast_lays outermost
  | focusWindowTop outermost => exact focusWindowTop_lays outermost
  | focusWindowBottom outermost => exact focusWindowBottom_lays outermost
  | focusColumnRightOrFirst nearest outermost =>
    exact focusOr_lays (focusRight_lays nearest) (focusColumnFirst_lays outermost)
  | focusColumnLeftOrLast nearest outermost =>
    exact focusOr_lays (focusLeft_lays nearest) (focusColumnLast_lays outermost)
  | focusWindowDownOrTop nearest outermost =>
    exact focusOr_lays (focusDown_lays nearest) (focusWindowTop_lays outermost)
  | focusWindowUpOrBottom nearest outermost =>
    exact focusOr_lays (focusUp_lays nearest) (focusWindowBottom_lays outermost)
  | focusDownOrLeft nearest =>
    exact onActive_lays (directional nearest)
      (focusOr_keeps (fun _ => Column.focusDown_inv) focusLeft_keeps)
  | focusDownOrRight nearest =>
    exact onActive_lays (directional nearest)
      (focusOr_keeps (fun _ => Column.focusDown_inv) focusRight_keeps)
  | focusUpOrLeft nearest =>
    exact onActive_lays (directional nearest)
      (focusOr_keeps (fun _ => Column.focusUp_inv) focusLeft_keeps)
  | focusUpOrRight nearest =>
    exact onActive_lays (directional nearest)
      (focusOr_keeps (fun _ => Column.focusUp_inv) focusRight_keeps)
  | focusWindowInColumn index =>
    exact onTiling_lays (focusWindowInColumn_keeps index)
  | moveLeft => exact moveLeft_lays.quietly
  | moveRight => exact moveRight_lays.quietly
  | moveDown => exact moveDown_lays.quietly
  | moveUp => exact moveUp_lays.quietly
  | moveColumnToFirst => exact onTiling_lays moveColumnToFirst_keeps
  | moveColumnToLast => exact onTiling_lays moveColumnToLast_keeps
  | moveColumnToIndex index => exact onTiling_lays (moveColumnToIndex_keeps index)
  | consumeOrExpelWindowLeft window =>
    exact onTarget_lays window floatingSome_keeps
      (consumeOrExpelWindowLeft_keeps window)
  | consumeOrExpelWindowRight window =>
    exact onTarget_lays window floatingSome_keeps
      (consumeOrExpelWindowRight_keeps window)
  | consumeIntoColumn => exact onTiling_lays consumeIntoColumn_keeps
  | expelFromColumn => exact onTiling_lays expelFromColumn_keeps
  | swapWindowInDirection direction =>
    exact onTiling_lays (swapWindowInDirection_keeps direction)
  | toggleColumnTabbedDisplay => exact onTiling_lays toggleColumnTabbedDisplay_keeps
  | setColumnDisplay display => exact onTiling_lays (setColumnDisplay_keeps display)
  | centerColumn =>
    exact onActive_lays (moveWindow_keeps none) centerColumn_keeps
  | centerWindow window =>
    exact onTarget_lays window (moveWindow_keeps window)
      (centerWindow_keeps window)
  | alignVisibleColumns activeVisible =>
    exact onTiling_lays (alignVisibleColumns_keeps activeVisible)
  | moveFloatingWindow window => exact moveFloatingWindow_lays window
  | toggleWidth forwards expected =>
    exact onActive_lays (toggleWindowSize_keeps none)
      (toggleWidth_keeps forwards expected)
  | toggleFullWidth => exact onTiling_lays toggleFullWidth_keeps
  | setColumnWidth change =>
    exact onActive_lays (setWindowSize_keeps none)
      (setWindowWidth_keeps none change)
  | setWindowWidth window change =>
    exact onTarget_lays window (setWindowSize_keeps window)
      (setWindowWidth_keeps window change)
  | setWindowHeight window change =>
    exact onTarget_lays window (setWindowSize_keeps window)
      (setWindowHeight_keeps window change)
  | resetWindowHeight window =>
    exact onTarget_lays window floatingSome_keeps (resetWindowHeight_keeps window)
  | toggleWindowWidth window forwards expected =>
    exact onTarget_lays window (toggleWindowSize_keeps window)
      (toggleWindowWidth_keeps window forwards expected)
  | toggleWindowHeight window forwards =>
    exact onTarget_lays window (toggleWindowSize_keeps window)
      (toggleWindowHeight_keeps window forwards)
  | expandColumnToAvailableWidth view =>
    exact onTiling_lays (expandColumnToAvailableWidth_keeps view)
  | updateWindow window state => exact updateWindow_lays window state
  | descendantsAdded window => exact (descendantsAdded_lays window).quietly
  | viewOffsetGestureEnd newColIdx =>
    exact onScrolling_lays (viewOffsetGestureEnd_keeps newColIdx)
  | dndScrollGestureBegin ongoing =>
    exact fun w h => of_some (dndScrollGestureBegin_layers h ongoing)
  | interactiveResizeBegin window edges =>
    exact onTarget_lays (some window)
      (quietly_floating (interactiveResizeBegin_keeps window edges))
      (quietly_scrolling (interactiveResizeBegin_keeps window edges))
  | interactiveResizeUpdate window dx dy =>
    exact onTarget_lays (some window)
      (quietly_floating (interactiveResizeUpdate_keeps window))
      (quietly_scrolling (interactiveResizeUpdate_keeps window dx dy))
  | interactiveResizeEnd window =>
    exact fun w h => of_some (interactiveResizeEnd_layers h window)
  | updateConfig baseOptions => exact updateConfig_lays baseOptions
  | updateLayoutConfig layoutConfig => exact updateLayoutConfig_lays layoutConfig
  | updateOutputSize geometry => exact updateOutputSize_lays geometry
  | switchFocusFloatingTiling | focusFloating | focusTiling | focusColumn | activateWindow
  | activateWindowWithoutRaising | toggleWindowFloating | setWindowFloating | setFullscreen
  | toggleFullscreen | setMaximized | toggleMaximized => exact Bool.noConfusion h

/-- **Every operation inside a workspace** keeps the invariant, the windows and the identity of
the workspace. -/
theorem Op.run_keeps : Keeps fun w : Workspace Id => op.run w := by
  cases hfocus : op.movesFocus with
  | false => exact (op.run_lays hfocus).keeps
  | true =>
    cases op with
    | switchFocusFloatingTiling =>
      exact fun w h => of_some (switchFocusFloatingTiling_frame h)
    | focusFloating => exact fun w h => of_some (focusFloating_frame h)
    | focusTiling => exact fun w h => of_some (focusTiling_frame h)
    | focusColumn index => exact focusColumn_keeps index
    | activateWindow window => exact (activateWindow_keeps window).quietly
    | activateWindowWithoutRaising window =>
      exact (activateWindowWithoutRaising_keeps window).quietly
    | toggleWindowFloating window expected => exact toggleWindowFloating_keeps window expected
    | setWindowFloating window floating expected =>
      exact setWindowFloating_keeps window floating expected
    | setFullscreen window isFullscreen expected =>
      exact setFullscreen_keeps window isFullscreen expected
    | toggleFullscreen window expected => exact toggleFullscreen_keeps window expected
    | setMaximized window maximize expected => exact setMaximized_keeps window maximize expected
    | toggleMaximized window expected => exact toggleMaximized_keeps window expected
    | _ => exact Bool.noConfusion hfocus

end Workspace

end Tiri.Layout
