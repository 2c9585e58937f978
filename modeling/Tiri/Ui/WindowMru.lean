import Tiri.Config.RecentWindows
import Tiri.Lib.HashMap
import Tiri.Lib.Sort

/-!
# The recent windows

`WindowMru` and `WindowMruUi` of `src/ui/mru.rs`: the windows in the order they were focused, the
one that is selected, and the user interface that shows them.

A function that panics has no value.  The time is in milliseconds; what is drawn is left out.

Results:
* `step_ids`: a step adds no window to the list, but for a list of the windows of the layout;
* `mem_removeWindow_ids`: a removed window stays only in a list that fades out.
-/

namespace Tiri.Ui

open NiriConfig (MruDirection MruScope MruFilter)
open List
open Option

/-! ## The traversal -/

/-- A window of the layout, as `Thumbnail::from_mapped` reads it. -/
structure RecentWindow where
  id : ℕ
  focusTimestamp : Option ℕ
  appId : Option String

/-- A workspace of the layout: the output of its monitor, whether it is the active one there, and
its windows. -/
structure WorkspaceWindows where
  output : ℕ
  isActive : Bool
  windows : List RecentWindow

structure Thumbnail where
  id : ℕ
  timestamp : Option ℕ
  onCurrentWorkspace : Bool
  onCurrentOutput : Bool
  appId : Option String

/-- `Thumbnail::from_mapped`, on the given workspace. -/
def Thumbnail.fromMapped (window : RecentWindow) (onCurrentOutput onCurrentWorkspace : Bool) :
    Thumbnail where
  id := window.id
  timestamp := window.focusTimestamp
  onCurrentWorkspace
  onCurrentOutput
  appId := window.appId

structure WindowMru where
  /-- Windows in MRU order. -/
  thumbnails : List Thumbnail
  currentId : Option ℕ
  scope : MruScope
  appIdFilter : Option String

def Thumbnail.matches (scope : MruScope) (appIdFilter : Option String) (t : Thumbnail) : Bool :=
  let x :=
    match scope with
    | .all => true
    | .output => t.onCurrentOutput
    | .workspace => t.onCurrentWorkspace
  x && match appIdFilter with
    | some appId => t.appId = some appId
    | none => true

namespace WindowMru

/-- `WindowMru::new`, of the active output and the workspaces of the layout. -/
def new (activeOutput : Option ℕ) (workspaces : List WorkspaceWindows) : WindowMru :=
  match activeOutput with
  | none => ⟨[], none, .all, none⟩
  | some output =>
    let thumbnails := workspaces.flatMap fun ws =>
      let onCurrentOutput := ws.output = output
      let onCurrentWorkspace := onCurrentOutput && ws.isActive
      ws.windows.map fun window => Thumbnail.fromMapped window onCurrentOutput onCurrentWorkspace
    let thumbnails := sortBy (fun t t' => compare t'.timestamp t.timestamp) thumbnails
    ⟨thumbnails, thumbnails.head?.map Thumbnail.id, .all, none⟩

variable (m : WindowMru)

def isEmpty : Bool := m.thumbnails.isEmpty

/-- `thumbnails()`. -/
def filtered : List Thumbnail := m.thumbnails.filter (Thumbnail.matches m.scope m.appIdFilter)

def thumbnailsWithIdx : List (Thumbnail × ℕ) :=
  m.thumbnails.zipIdx.filter fun t => t.1.matches m.scope m.appIdFilter

/-- The next thumbnail of those in the given order, or else the first one. -/
def advanceIn (thumbnails : List Thumbnail) : Option WindowMru :=
  match m.currentId with
  | none => some m
  | some id =>
    let next := (thumbnails.dropWhile (·.id ≠ id))[1]?
    -- the first one is there, or the source panics
    (next.or thumbnails.head?).map fun next => { m with currentId := some next.id }

def forward : Option WindowMru := m.advanceIn m.filtered

def backward : Option WindowMru := m.advanceIn m.filtered.reverse

variable (id : ℕ)

def setCurrent : WindowMru :=
  if m.filtered.any (·.id = id) then { m with currentId := some id } else m

def firstId : Option ℕ := m.filtered.head?.map Thumbnail.id

def first : WindowMru := { m with currentId := m.firstId }

def last : WindowMru := { m with currentId := m.filtered.getLast?.map Thumbnail.id }

/-- Select the same, or the first thumbnail to the left.  Failing that, select the first one to
the right. -/
def reselect (currentIdx : ℕ) : WindowMru :=
  let before := m.thumbnailsWithIdx.takeWhile fun t => t.2 ≤ currentIdx
  { m with currentId := before.foldl (fun _ t => some t.1.id) m.firstId }

/-- The current thumbnail with its index. -/
def current : Option (Thumbnail × ℕ) := m.thumbnailsWithIdx.find? (·.1.id = id)

/-- `set_scope`, with the scope that was there, if it changes. -/
def setScope (scope : MruScope) : Option (Option MruScope × WindowMru) :=
  if m.scope = scope then some (none, m)
  else
    match m.currentId with
    | some id => (m.current id).map fun t => (some m.scope, { m with scope }.reselect t.2)
    | none => some (some m.scope, { m with scope }.first)

/-- `set_filter`, with the filter that was there, if it changes. -/
def setFilter (filter : MruFilter) : Option (Option (Option String) × WindowMru) :=
  if m.appIdFilter.isSome = (filter = .appId) then some (none, m)
  else
    match m.currentId with
    | some id =>
      (m.current id).map fun t =>
        match filter with
        | .all => (some m.appIdFilter, { m with appIdFilter := none }.reselect t.2)
        | .appId =>
          match t.1.appId with
          -- if the current thumbnail is missing an app id, we can't set the filter
          | none => (none, m)
          | some appId => (some none, { m with appIdFilter := some appId }.reselect t.2)
    | none =>
      match filter with
      | .all => some (some m.appIdFilter, { m with appIdFilter := none }.first)
      -- we don't have a current window to set the app id filter
      | .appId => some (none, m)

/-- `set_filter`, where one is given. -/
def filterWith : Option MruFilter → Option WindowMru
  | none => some m
  | some filter => (m.setFilter filter).map Prod.snd

/-- `forward` or `backward`. -/
def move : MruDirection → Option WindowMru
  | .forward => m.forward
  | .backward => m.backward

def idxOf : Option ℕ := m.thumbnails.findIdx? (·.id = id)

/-- Try to pick a different window when removing the current one. -/
def leave : Option WindowMru := if m.currentId = some id then m.forward else some m

def removeByIdx (idx : ℕ) : Option WindowMru := do
  let t ← m.thumbnails[idx]?
  let m ← m.leave t.id
  -- if we're still on the same window, that means it's the last visible one
  let currentId := if m.currentId = some t.id then none else m.currentId
  some { m with currentId, thumbnails := m.thumbnails.eraseIdx idx }

end WindowMru

/-! ## The user interface -/

/-- What the layout and the configuration tell when the user interface opens. -/
structure MruContext where
  /-- `recent_windows.on`. -/
  on : Bool
  /-- `open_delay_ms`. -/
  openDelay : ℕ
  now : ℕ
  activeOutput : Option ℕ
  workspaces : List WorkspaceWindows
  /-- Some window of the layout is focused. -/
  focused : Bool

/-- The windows that the layout tells of. -/
def MruContext.ids (ctx : MruContext) : List ℕ :=
  (ctx.workspaces.flatMap WorkspaceWindows.windows).map RecentWindow.id

inductive MruCloseRequest
  | cancel
  | confirm

/-- `Inner`: what an open user interface shows, where, and from when on. -/
structure MruInner where
  wmru : WindowMru
  freezeView : Bool
  openAt : ℕ
  output : ℕ

def MruInner.isFullyOpen (inner : MruInner) (now : ℕ) : Bool := inner.openAt ≤ now

/-- `WindowMruUi`, by its state. -/
inductive WindowMruUi
  | «open» (inner : MruInner)
  | closing (inner : MruInner)
  | closed (previousScope : MruScope)

namespace WindowMruUi

/-- `WindowMruUi::new`. -/
def new : WindowMruUi := closed .all

def isOpen : WindowMruUi → Bool
  | «open» _ => true
  | _ => false

def scope : WindowMruUi → MruScope
  | closed previousScope => previousScope
  | «open» inner | closing inner => inner.wmru.scope

/-- The windows of the list, also while it fades out. -/
def ids : WindowMruUi → List ℕ
  | «open» inner | closing inner => inner.wmru.thumbnails.map Thumbnail.id
  | closed _ => []

/-- The windows of a list that fades out. -/
def closingIds : WindowMruUi → List ℕ
  | closing inner => inner.wmru.thumbnails.map Thumbnail.id
  | _ => []

/-- Change what an open user interface shows. -/
def modifyOpen (f : MruInner → Option MruInner) : WindowMruUi → Option WindowMruUi
  | «open» inner => (f inner).map «open»
  | ui => some ui

variable (ui : WindowMruUi) (now : ℕ)

/-- `open`, with `open_delay_ms`. -/
def openWith (openDelay : ℕ) (wmru : WindowMru) (output : ℕ) : WindowMruUi :=
  if ui.isOpen then ui else «open» ⟨wmru, false, now + openDelay, output⟩

/-- `close`, with the window that was selected. -/
def close (closeRequest : MruCloseRequest) : WindowMruUi × Option ℕ :=
  match ui with
  | «open» inner =>
    let response :=
      match closeRequest with
      | .cancel => none
      | .confirm => inner.wmru.currentId
    -- hasn't displayed yet, no need to fade out
    if !inner.isFullyOpen now then (closed inner.wmru.scope, response)
    else (closing inner, response)
  | ui => (ui, none)

def advance (dir : MruDirection) (filter : Option MruFilter) : Option WindowMruUi :=
  ui.modifyOpen fun inner => do
    let wmru ← inner.wmru.filterWith filter
    let wmru ← wmru.move dir
    some { inner with wmru, freezeView := false }

def setScope (scope : MruScope) : Option WindowMruUi :=
  ui.modifyOpen fun inner =>
    (inner.wmru.setScope scope).map fun wmru => { inner with wmru := wmru.2, freezeView := false }

/-- `SCOPE_CYCLE`. -/
def nextScope : MruScope → MruScope
  | .all => .workspace
  | .workspace => .output
  | .output => .all

def cycleScope : Option WindowMruUi := ui.setScope (nextScope ui.scope)

/-- `pointer_motion`, with the thumbnail that is under the pointer. -/
def pointerMotion (thumbnailUnder : Option ℕ) : WindowMruUi × Option ℕ :=
  match ui with
  | «open» inner =>
    -- don't handle pointer until the UI is visible
    if !inner.isFullyOpen now then (ui, none)
    else
      let inner := { inner with freezeView := true }
      match thumbnailUnder with
      | none => («open» inner, none)
      | some id => («open» { inner with wmru := inner.wmru.setCurrent id }, some id)
  | ui => (ui, none)

def first : Option WindowMruUi :=
  ui.modifyOpen fun inner => some { inner with wmru := inner.wmru.first, freezeView := false }

def last : Option WindowMruUi :=
  ui.modifyOpen fun inner => some { inner with wmru := inner.wmru.last, freezeView := false }

/-- `remove_window`; only an open user interface is looked at. -/
def removeWindow (id : ℕ) : Option WindowMruUi :=
  match ui with
  | «open» inner =>
    match inner.wmru.idxOf id with
    | none => some ui
    | some idx =>
      (inner.wmru.removeByIdx idx).map fun wmru =>
        let ui := «open» { inner with wmru }
        if wmru.thumbnails.isEmpty then (ui.close now .cancel).1 else ui
  | ui => some ui

/-- `advance_animations`: the user interface is gone once it has faded out. -/
def advanceAnimations (isDone : Bool) : WindowMruUi :=
  match ui with
  | closing inner => if isDone then closed inner.wmru.scope else ui
  | ui => ui

/-- `Action::MruAdvance`. -/
def mruAdvance (direction : MruDirection) (scope : Option MruScope) (filter : Option MruFilter)
    (ctx : MruContext) : Option WindowMruUi :=
  if ui.isOpen then ui.advance direction filter
  else if !ctx.on then some ui
  else
    let wmru := WindowMru.new ctx.activeOutput ctx.workspaces
    if wmru.isEmpty then some ui
    else do
      let wmru ← (wmru.setScope (scope.getD ui.scope)).map Prod.snd
      let wmru ← wmru.filterWith filter
      match ctx.activeOutput with
      | none => some ui
      | some output =>
        let ui := ui.openWith ctx.now ctx.openDelay wmru output
        -- only select the next window if some window is already focused
        if direction = .forward && !ctx.focused then some ui else ui.advance direction none

end WindowMruUi

/-- What happens to the recent windows. -/
inductive MruEvent
  | advance (direction : MruDirection) (scope : Option MruScope) (filter : Option MruFilter)
    (ctx : MruContext)
  | close (closeRequest : MruCloseRequest) (now : ℕ)
  | setScope (scope : MruScope)
  | cycleScope
  | pointerMotion (thumbnailUnder : Option ℕ) (now : ℕ)
  | first
  | last
  | advanceAnimations (isDone : Bool)

/-- One of them happens. -/
def WindowMruUi.step (ui : WindowMruUi) : MruEvent → Option WindowMruUi
  | .advance direction scope filter ctx => ui.mruAdvance direction scope filter ctx
  | .close closeRequest now => some (ui.close now closeRequest).1
  | .setScope scope => ui.setScope scope
  | .cycleScope => ui.cycleScope
  | .pointerMotion thumbnailUnder now => some (ui.pointerMotion now thumbnailUnder).1
  | .first => ui.first
  | .last => ui.last
  | .advanceAnimations isDone => some (ui.advanceAnimations isDone)

/-! ## The window preview -/

/-- `WindowPreviewUi`: the window that is shown and the output, and the descriptions. -/
structure WindowPreviewUi where
  preview : Option (ℕ × ℕ)
  descriptions : HashMap ℕ String

namespace WindowPreviewUi

variable (ui : WindowPreviewUi)

/-- `WindowPreviewUi::new`. -/
def new : WindowPreviewUi := ⟨none, ∅⟩

/-- `show`, with the description as it is trimmed, if anything is left of it. -/
def «show» (id output : ℕ) (description : Option String) : WindowPreviewUi where
  preview := some (id, output)
  descriptions :=
    match description with
    | none => ui.descriptions
    | some description => ui.descriptions.insert id description

def hide : WindowPreviewUi := { ui with preview := none }

/-- `remove_window`, with the output of the preview, if it was of the window. -/
def removeWindow (id : ℕ) : WindowPreviewUi × Option ℕ :=
  let ui := { ui with descriptions := ui.descriptions.erase id }
  match ui.preview with
  | none => (ui, none)
  | some (shown, output) => if shown = id then (ui.hide, some output) else (ui, none)

end WindowPreviewUi

/-! ## The windows of the list -/

namespace WindowMru

variable {m m' : WindowMru}

theorem advanceIn_thumbnails {thumbnails : List Thumbnail} (h : m.advanceIn thumbnails = some m') :
    m'.thumbnails = m.thumbnails := by
  unfold advanceIn at h
  split at h
  · rw [← some.inj h]
  · obtain ⟨next, -, rfl⟩ := map_eq_some_iff.mp h
    rfl

theorem forward_thumbnails (h : m.forward = some m') : m'.thumbnails = m.thumbnails :=
  advanceIn_thumbnails h

theorem backward_thumbnails (h : m.backward = some m') : m'.thumbnails = m.thumbnails :=
  advanceIn_thumbnails h

theorem setCurrent_thumbnails (m : WindowMru) (id : ℕ) :
    (m.setCurrent id).thumbnails = m.thumbnails := by
  unfold setCurrent
  split <;> rfl

theorem setScope_thumbnails {scope : MruScope} {changed : Option MruScope}
    (h : m.setScope scope = some (changed, m')) : m'.thumbnails = m.thumbnails := by
  unfold setScope at h
  split at h
  · obtain ⟨-, rfl⟩ := Prod.mk.inj (some.inj h)
    rfl
  split at h
  · obtain ⟨t, -, heq⟩ := map_eq_some_iff.mp h
    obtain ⟨-, rfl⟩ := Prod.mk.inj heq
    rfl
  · obtain ⟨-, rfl⟩ := Prod.mk.inj (some.inj h)
    rfl

theorem setFilter_thumbnails {filter : MruFilter} {changed : Option (Option String)}
    (h : m.setFilter filter = some (changed, m')) : m'.thumbnails = m.thumbnails := by
  unfold setFilter at h
  split at h
  · obtain ⟨-, rfl⟩ := Prod.mk.inj (some.inj h)
    rfl
  split at h
  · obtain ⟨t, -, heq⟩ := map_eq_some_iff.mp h
    cases filter with
    | all =>
      obtain ⟨-, rfl⟩ := Prod.mk.inj heq
      rfl
    | appId =>
      cases happ : t.1.appId <;> rw [happ] at heq
      all_goals
        obtain ⟨-, rfl⟩ := Prod.mk.inj heq
        rfl
  · cases filter with
    | all | appId =>
      obtain ⟨-, rfl⟩ := Prod.mk.inj (some.inj h)
      rfl

theorem removeByIdx_thumbnails {idx : ℕ} (h : m.removeByIdx idx = some m') :
    m'.thumbnails = m.thumbnails.eraseIdx idx := by
  obtain ⟨t, -, h⟩ := bind_eq_some_iff.mp h
  obtain ⟨m₁, hm₁, h⟩ := bind_eq_some_iff.mp h
  have hsame : m₁.thumbnails = m.thumbnails := by
    unfold leave at hm₁
    split at hm₁
    · exact forward_thumbnails hm₁
    · rw [← some.inj hm₁]
  rw [← some.inj h, ← hsame]

/-- The list starts with the windows of the layout. -/
theorem new_ids (activeOutput : Option ℕ) (workspaces : List WorkspaceWindows) :
    (((new activeOutput workspaces).thumbnails.map Thumbnail.id).Perm
      ((workspaces.flatMap WorkspaceWindows.windows).map RecentWindow.id)) ∨
      (new activeOutput workspaces).thumbnails = [] := by
  cases activeOutput with
  | none => exact .inr rfl
  | some output =>
    refine .inl (((perm_sortBy _ _).map Thumbnail.id).trans (List.Perm.of_eq ?_))
    rw [map_flatMap, map_flatMap]
    congr 1
    funext ws
    rw [List.map_map]
    rfl

theorem filterWith_thumbnails {filter : Option MruFilter} (h : m.filterWith filter = some m') :
    m'.thumbnails = m.thumbnails := by
  cases filter with
  | none => rw [← some.inj h]
  | some filter =>
    obtain ⟨⟨changed, m₁⟩, hset, rfl⟩ := map_eq_some_iff.mp h
    exact setFilter_thumbnails hset

theorem move_thumbnails {dir : MruDirection} (h : m.move dir = some m') :
    m'.thumbnails = m.thumbnails := by
  cases dir with
  | forward => exact forward_thumbnails h
  | backward => exact backward_thumbnails h

end WindowMru

namespace WindowMruUi

variable {ui ui' : WindowMruUi}

theorem close_ids (ui : WindowMruUi) (now : ℕ) (closeRequest : MruCloseRequest) :
    (ui.close now closeRequest).1.ids.Sublist ui.ids := by
  cases ui with
  | «open» inner =>
    simp only [close]
    split
    · exact nil_sublist _
    · exact .refl _
  | closing | closed => exact .refl _

theorem modifyOpen_ids {f : MruInner → Option MruInner}
    (hf : ∀ inner inner', f inner = some inner' →
      inner'.wmru.thumbnails = inner.wmru.thumbnails)
    (h : ui.modifyOpen f = some ui') : ui'.ids = ui.ids := by
  cases ui with
  | «open» inner =>
    obtain ⟨inner', hinner, rfl⟩ := map_eq_some_iff.mp h
    exact congrArg (List.map Thumbnail.id) (hf inner inner' hinner)
  | closing | closed => rw [← some.inj h]

variable {filter : Option MruFilter}

theorem advance_ids {dir : MruDirection} (h : ui.advance dir filter = some ui') :
    ui'.ids = ui.ids := by
  refine modifyOpen_ids (fun inner inner' hinner => ?_) h
  obtain ⟨m₁, hfilter, hinner⟩ := bind_eq_some_iff.mp hinner
  obtain ⟨m₂, hmove, hinner⟩ := bind_eq_some_iff.mp hinner
  rw [← some.inj hinner]
  exact (WindowMru.move_thumbnails hmove).trans (WindowMru.filterWith_thumbnails hfilter)

theorem setScope_ids {scope : MruScope} (h : ui.setScope scope = some ui') :
    ui'.ids = ui.ids := by
  refine modifyOpen_ids (fun inner inner' hinner => ?_) h
  obtain ⟨⟨changed, m₁⟩, hset, rfl⟩ := map_eq_some_iff.mp hinner
  exact WindowMru.setScope_thumbnails hset

theorem pointerMotion_ids (ui : WindowMruUi) (now : ℕ) (thumbnailUnder : Option ℕ) :
    (ui.pointerMotion now thumbnailUnder).1.ids = ui.ids := by
  cases ui with
  | «open» inner =>
    simp only [pointerMotion]
    split
    · rfl
    · cases thumbnailUnder with
      | none => rfl
      | some id => exact congrArg (List.map Thumbnail.id) (inner.wmru.setCurrent_thumbnails id)
  | closing | closed => rfl

theorem advanceAnimations_ids (ui : WindowMruUi) (isDone : Bool) :
    (ui.advanceAnimations isDone).ids.Sublist ui.ids := by
  cases ui with
  | closing inner =>
    cases isDone with
    | true => exact nil_sublist _
    | false => exact .refl _
  | «open» | closed => exact .refl _

/-- The list stays, or is that of the windows of the layout. -/
theorem mruAdvance_ids {direction : MruDirection} {scope : Option MruScope} {ctx : MruContext}
    (h : ui.mruAdvance direction scope filter ctx = some ui') :
    ui'.ids = ui.ids ∨ ui'.ids.Perm ctx.ids := by
  unfold mruAdvance at h
  split at h
  · exact .inl (advance_ids h)
  split at h
  · exact .inl (by rw [← some.inj h])
  extract_lets wmru at h
  split at h
  case isTrue => exact .inl (by rw [← some.inj h])
  case isFalse hclosed _ hempty =>
  obtain ⟨m₁, hscope, h⟩ := bind_eq_some_iff.mp h
  obtain ⟨⟨changed, m₁⟩, hset, rfl⟩ := map_eq_some_iff.mp hscope
  obtain ⟨m₂, hfilter, h⟩ := bind_eq_some_iff.mp h
  split at h
  · exact .inl (by rw [← some.inj h])
  rename_i output houtput
  have hm₂ : m₂.thumbnails = wmru.thumbnails :=
    (WindowMru.filterWith_thumbnails hfilter).trans (WindowMru.setScope_thumbnails hset)
  have hids : ui'.ids = m₂.thumbnails.map Thumbnail.id := by
    have hopen : (ui.openWith ctx.now ctx.openDelay m₂ output).ids =
        m₂.thumbnails.map Thumbnail.id := by
      rw [openWith, if_neg hclosed]
      rfl
    split at h
    · rw [← some.inj h, hopen]
    · rw [advance_ids h, hopen]
  rw [hids, hm₂]
  rcases WindowMru.new_ids ctx.activeOutput ctx.workspaces with hnew | hnew
  · exact .inr hnew
  · exact absurd (by rw [WindowMru.isEmpty, hnew]; rfl) hempty

/-- What a step does to the list. -/
theorem step_ids {e : MruEvent} (h : ui.step e = some ui') :
    ui'.ids.Sublist ui.ids ∨
      ∃ direction scope filter ctx, e = .advance direction scope filter ctx ∧
        ui'.ids.Perm ctx.ids := by
  cases e with
  | advance direction scope filter ctx =>
    rcases mruAdvance_ids h with hsame | hnew
    · exact .inl (hsame ▸ .refl _)
    · exact .inr ⟨direction, scope, filter, ctx, rfl, hnew⟩
  | close closeRequest now =>
    rw [← some.inj h]
    exact .inl (ui.close_ids now closeRequest)
  | setScope | cycleScope => exact .inl (setScope_ids h ▸ .refl _)
  | pointerMotion thumbnailUnder now =>
    rw [← some.inj h]
    exact .inl (ui.pointerMotion_ids now thumbnailUnder ▸ .refl _)
  | first | last =>
    have hids : ui'.ids = ui.ids :=
      modifyOpen_ids (fun inner inner' hinner => by rw [← some.inj hinner]; rfl) h
    exact .inl (hids ▸ .refl _)
  | advanceAnimations isDone =>
    rw [← some.inj h]
    exact .inl (ui.advanceAnimations_ids isDone)

variable {now id : ℕ}

/-- Nothing but the removed window leaves the list. -/
theorem removeWindow_ids_sublist (h : ui.removeWindow now id = some ui') :
    ui'.ids.Sublist ui.ids := by
  cases ui with
  | «open» inner =>
    simp only [removeWindow] at h
    cases hidx : inner.wmru.idxOf id with
    | none =>
      rw [hidx] at h
      rw [← some.inj h]
    | some idx =>
      rw [hidx] at h
      obtain ⟨m₁, hremove, rfl⟩ := map_eq_some_iff.mp h
      have hthumbnails := WindowMru.removeByIdx_thumbnails hremove
      have hsub : (m₁.thumbnails.map Thumbnail.id).Sublist
          (inner.wmru.thumbnails.map Thumbnail.id) := by
        rw [hthumbnails]
        exact (eraseIdx_sublist _ _).map _
      split
      · exact (close_ids _ now .cancel).trans hsub
      · exact hsub
  | closing | closed => rw [← some.inj h]

/-- A removed window stays only in a list that fades out. -/
theorem mem_removeWindow_ids (hnodup : ui.ids.Nodup) (h : ui.removeWindow now id = some ui') :
    id ∈ ui'.ids ↔ id ∈ ui.closingIds := by
  cases ui with
  | «open» inner =>
    refine iff_of_false ?_ (not_mem_nil)
    simp only [removeWindow] at h
    cases hidx : inner.wmru.idxOf id with
    | none =>
      rw [hidx] at h
      rw [← some.inj h]
      intro hmem
      obtain ⟨t, ht, heq⟩ := mem_map.mp hmem
      have hnone := List.findIdx?_eq_none_iff.mp hidx t ht
      simp [heq] at hnone
    | some idx =>
      rw [hidx] at h
      obtain ⟨m₁, hremove, rfl⟩ := map_eq_some_iff.mp h
      have hthumbnails := WindowMru.removeByIdx_thumbnails hremove
      have hnot : id ∉ m₁.thumbnails.map Thumbnail.id := by
        rw [hthumbnails]
        intro hmem
        obtain ⟨t, ht, hid⟩ := mem_map.mp hmem
        obtain ⟨i, hi, hne, rfl⟩ := mem_eraseIdx_iff_getElem.mp ht
        obtain ⟨hidxlt, hfound, -⟩ := List.findIdx?_eq_some_iff_getElem.mp hidx
        have hfoundId : inner.wmru.thumbnails[idx].id = id := of_decide_eq_true hfound
        have hsame : inner.wmru.thumbnails[i] = inner.wmru.thumbnails[idx] :=
          inj_on_of_nodup_map hnodup (getElem_mem hi) (getElem_mem hidxlt)
            (hid.trans hfoundId.symm)
        exact hne ((List.Nodup.getElem_inj_iff hnodup.of_map).mp hsame)
      split
      · exact fun hmem => hnot ((close_ids _ now .cancel).subset hmem)
      · exact hnot
  | closing | closed =>
    rw [← some.inj h]
    rfl

end WindowMruUi

namespace WindowPreviewUi

variable {ui : WindowPreviewUi}

theorem mem_removeWindow_preview {id : ℕ} {p : ℕ × ℕ}
    (hp : p ∈ (ui.removeWindow id).1.preview) : p ∈ ui.preview ∧ p.1 ≠ id := by
  simp only [removeWindow] at hp
  cases hpreview : ui.preview with
  | none =>
    rw [hpreview] at hp
    exact absurd hp (not_mem_none p)
  | some shown =>
    rw [hpreview] at hp
    dsimp only at hp
    split at hp
    · exact nomatch hp
    · rename_i hne
      have heq : some shown = some p := hp
      obtain rfl := some.inj heq
      exact ⟨rfl, hne⟩

theorem removeWindow_descriptions (ui : WindowPreviewUi) (id : ℕ) :
    (ui.removeWindow id).1.descriptions = ui.descriptions.erase id := by
  simp only [removeWindow]
  cases ui.preview with
  | none => rfl
  | some shown =>
    dsimp only
    split <;> rfl

theorem mem_removeWindow_descriptions {id id' : ℕ}
    (h : id' ∈ (ui.removeWindow id).1.descriptions) : id' ∈ ui.descriptions ∧ id' ≠ id := by
  rw [removeWindow_descriptions, Finmap.mem_erase] at h
  exact h.symm

/-- A description is of the window that is shown, or was there. -/
theorem mem_show_descriptions {id output id' : ℕ} {description : Option String}
    (h : id' ∈ (ui.show id output description).descriptions) :
    id' = id ∨ id' ∈ ui.descriptions := by
  cases description with
  | none => exact .inr h
  | some description => exact Finmap.mem_insert.mp h

end WindowPreviewUi

end Tiri.Ui
