import Mathlib.Algebra.GroupWithZero.Nat
import Mathlib.Data.List.MinMax
import Tiri.Lib.HashMap
import Tiri.Lib.Run

/-!
# Cursor images and their textures

`src/cursor.rs`, with the two places that render themed cursors: `Niri::render_pointer`
(`niri.rs`) for the pointer, and `render_themed` (`ui/virtual_cursors.rs`) for virtual cursors.

The manager loads image sets and keeps them by what they were asked for; the texture cache keeps
one list of textures for each name and scale.  Both are emptied when the theme is loaded again.
What is in the files of the themes can change at any time.

Results:
* `Stores.step`: the cache has, for each name and scale, the textures of the image set that was
  first looked up under them since it was cleared;
* `textures_coherent_iff`: the textures of a run are the ones that were asked for, and are there,
  exactly as long as what is looked up has the image that the first one under the name had.
-/

namespace Tiri.Ui.Cursor

open Option List

/-! ## Images -/

/-- `Image` (of `xcursor`). -/
structure Image where
  size : ℕ
  width : ℕ
  height : ℕ
  delay : ℕ
  pixelsRgba : List ℕ

/-- A cursor file that could be parsed. -/
structure ImageFile where
  images : List Image
  ne_nil : images ≠ []

structure XCursor where
  images : List Image
  animationDuration : ℕ
  ne_nil : images ≠ []

namespace XCursor

/-- The loop of `frame`, from the index `i`. -/
def frameFrom (millis : ℕ) : ℕ → List Image → Option ℕ
  | _, [] => none
  | i, img :: images =>
    if millis < img.delay then some i else frameFrom (millis - img.delay) (i + 1) images

/-- `frame`: the index of the frame to show. -/
def frame (cursor : XCursor) (millis : ℕ) : ℕ :=
  if cursor.animationDuration = 0 then 0
  else (frameFrom (millis % cursor.animationDuration) 0 cursor.images).getD 0

theorem frameFrom_lt {millis i k : ℕ} {images : List Image}
    (h : frameFrom millis i images = some k) : k < i + images.length := by
  induction images generalizing millis i with
  | nil => cases h
  | cons img images ih =>
    rw [frameFrom] at h
    rw [length_cons]
    split at h
    · have hk : i = k := some.inj h
      omega
    · have hk := ih h
      omega

/-- The frame to show is one of the cursor. -/
theorem frame_lt (cursor : XCursor) (millis : ℕ) : cursor.frame millis < cursor.images.length := by
  have hpos : 0 < cursor.images.length := length_pos_of_ne_nil cursor.ne_nil
  unfold frame
  split
  · exact hpos
  · cases h : frameFrom (millis % cursor.animationDuration) 0 cursor.images with
    | none => exact hpos
    | some k =>
      have hk := frameFrom_lt h
      rw [getD_some]
      omega

end XCursor

/-- The distance of an image to the size that is wanted. -/
def sizeDistance (size : ℤ) (image : Image) : ℕ := (size - image.size).natAbs

theorem argmin_mem {size : ℤ} {images : List Image} {image : Image}
    (h : images.argmin (sizeDistance size) = some image) : image ∈ images :=
  List.argmin_mem h

/-- `load_xcursor`: the images that are as large as the one closest to the size. -/
def loadXcursor (file : Option ImageFile) (size : ℤ) : Option XCursor :=
  file.bind fun file =>
    match h : file.images.argmin (sizeDistance size) with
    | none => none
    | some closest =>
      let keep := fun image : Image => image.width = closest.width ∧ image.height = closest.height
      let images := file.images.filter keep
      some {
        images
        animationDuration := (images.map Image.delay).sum
        ne_nil := ne_nil_of_mem (mem_filter.mpr ⟨argmin_mem h, by simp [keep]⟩) }

/-! ## The manager -/

/-- The icons that clients can name, and the data of the fallback cursor. -/
structure Assets (Icon : Type) where
  name : Icon → String
  altNames : Icon → List String
  default : Icon
  fallbackData : List ℕ

def fallbackCursor (data : List ℕ) : XCursor where
  images := [⟨32, 64, 64, 0, data⟩]
  animationDuration := 0
  ne_nil := cons_ne_nil _ _

/-- What the files of each theme have for each name. -/
abbrev Files := String → String → Option ImageFile

structure HardwareCursorOverride where
  theme : Option String
  icon : Option String
  size : Option ℕ

inductive CursorImageStatus (Icon : Type)
  | hidden
  | surface
  | named (icon : Icon)

structure CursorManager (Icon : Type) where
  theme : String
  size : ℕ
  currentCursor : CursorImageStatus Icon
  hardwareOverride : Option HardwareCursorOverride
  namedCursorCache : HashMap (Icon × ℤ) (Option XCursor)
  namedCursorByNameCache : HashMap (String × ℤ × ℕ) (Option XCursor)
  namedCursorByThemeCache : HashMap (String × String × ℤ × ℕ) (Option XCursor)

inductive RenderCursor (Icon : Type)
  | hidden
  | surface
  | named (icon : Icon) (scale : ℤ) (cursor : XCursor)
  | themed (cacheName : String) (scale : ℤ) (cursor : XCursor)

/-- `entry(key).or_insert_with(load)`: the value, and the map with it. -/
def orInsertWith {K V : Type} [DecidableEq K] (m : HashMap K V) (key : K) (load : V) :
    V × HashMap K V :=
  match m.lookup key with
  | some v => (v, m)
  | none => (load, m.insert key load)

namespace CursorManager

variable {Icon : Type} [DecidableEq Icon] (assets : Assets Icon) (files : Files)

def new (theme : String) (size : ℕ) : CursorManager Icon :=
  ⟨theme, size, .named assets.default, none, ∅, ∅, ∅⟩

def reload (self : CursorManager Icon) (theme : String) (size : ℕ) : CursorManager Icon :=
  { self with
    theme
    size
    namedCursorCache := ∅
    namedCursorByNameCache := ∅
    namedCursorByThemeCache := ∅ }

/-- What `get_cursor_with_name` loads. -/
def loadNamed (self : CursorManager Icon) (icon : Icon) (scale : ℤ) : Option XCursor :=
  let size := self.size * scale
  let cursor := loadXcursor (files self.theme (assets.name icon)) size
  let cursor := cursor.or
    ((assets.altNames icon).findSome? fun name => loadXcursor (files self.theme name) size)
  if icon = assets.default then cursor.or (some (fallbackCursor assets.fallbackData)) else cursor

def getCursorWithName (icon : Icon) (scale : ℤ) : StateM (CursorManager Icon) (Option XCursor) :=
  fun self =>
    let (cursor, cache) :=
      orInsertWith self.namedCursorCache (icon, scale) (self.loadNamed assets files icon scale)
    (cursor, { self with namedCursorCache := cache })

/-- `u8::try_from(size).ok()`, or else the size of the manager. -/
def sizeOr (self : CursorManager Icon) (size : Option ℕ) : ℕ :=
  (size.filter (· < 256)).getD self.size

def getCursorWithIconName (name : String) (scale : ℤ) (size : Option ℕ) :
    StateM (CursorManager Icon) (Option XCursor) :=
  fun self =>
    let size := self.sizeOr size
    let (cursor, cache) := orInsertWith self.namedCursorByNameCache (name, scale, size)
      (loadXcursor (files self.theme name) (size * scale))
    (cursor, { self with namedCursorByNameCache := cache })

def getCursorWithThemeIcon (theme name : String) (scale : ℤ) (size : Option ℕ) :
    StateM (CursorManager Icon) (Option XCursor) :=
  fun self =>
    let size := self.sizeOr size
    let (cursor, cache) := orInsertWith self.namedCursorByThemeCache (theme, name, scale, size)
      (loadXcursor (files theme name) (size * scale))
    (cursor, { self with namedCursorByThemeCache := cache })

/-- `get_default_cursor`; the default cursor always has a fallback. -/
def getDefaultCursor (scale : ℤ) : StateM (CursorManager Icon) XCursor := do
  let cursor ← getCursorWithName assets files assets.default scale
  return cursor.getD (fallbackCursor assets.fallbackData)

/-- The theme's icon, or else its left pointer. -/
def getThemed (theme name : String) (scale : ℤ) (size : Option ℕ) :
    StateM (CursorManager Icon) (Option XCursor) := do
  match ← getCursorWithThemeIcon files theme name scale size with
  | some cursor => return some cursor
  | none => getCursorWithThemeIcon files theme "left_ptr" scale size

def getRenderCursorNamed (icon : Icon) (scale : ℤ) :
    StateM (CursorManager Icon) (RenderCursor Icon) := do
  match ← getCursorWithName assets files icon scale with
  | some cursor => return .named icon scale cursor
  | none => return .named assets.default scale (← getDefaultCursor assets files scale)

/-- The cursor of an override. -/
def getOverrideCursor (override : HardwareCursorOverride) (name : String) (scale : ℤ) :
    StateM (CursorManager Icon) XCursor := do
  let themed ←
    match override.theme with
    | some theme => getThemed files theme name scale override.size
    | none => pure none
  match themed with
  | some cursor => return cursor
  | none =>
    match ← getCursorWithIconName files name scale override.size with
    | some cursor => return cursor
    | none => getDefaultCursor assets files scale

/-- The end of `get_render_cursor`, for an override. -/
def getRenderCursorOverride (override : HardwareCursorOverride) (scale : ℤ) :
    StateM (CursorManager Icon) (RenderCursor Icon) := do
  let name := override.icon.getD "default"
  let cursor ← getOverrideCursor assets files override name scale
  let cacheName := override.theme.getD "default" ++ ":" ++ name ++ ":" ++
    toString (override.size.getD (← get).size)
  return .themed cacheName scale cursor

def getRenderCursor (scale : ℤ) : StateM (CursorManager Icon) (RenderCursor Icon) :=
  fun self =>
    match self.hardwareOverride with
    | some override => getRenderCursorOverride assets files override scale self
    | none =>
      match self.currentCursor with
      | .hidden => (.hidden, self)
      | .surface => (.surface, self)
      | .named icon => getRenderCursorNamed assets files icon scale self

/-- The icon's cursor, or else the default one. -/
def getCursorOrDefault (icon : Icon) (scale : ℤ) : StateM (CursorManager Icon) XCursor := do
  match ← getCursorWithName assets files icon scale with
  | some cursor => return cursor
  | none => getDefaultCursor assets files scale

def isCurrentCursorAnimated (scale : ℤ) : StateM (CursorManager Icon) Bool :=
  fun self =>
    match self.currentCursor with
    | .hidden | .surface => (false, self)
    | .named icon =>
      let (cursor, self) := getCursorOrDefault assets files icon scale self
      (cursor.images.length > 1, self)

end CursorManager

/-! ## The texture cache -/

/-- `MemoryRenderBuffer`, made by `from_slice`. -/
structure MemoryRenderBuffer where
  pixels : List ℕ
  width : ℕ
  height : ℕ
  scale : ℤ
  deriving DecidableEq

def MemoryRenderBuffer.ofFrame (scale : ℤ) (frame : Image) : MemoryRenderBuffer :=
  ⟨frame.pixelsRgba, frame.width, frame.height, scale⟩

abbrev TextureCache := HashMap (String × ℤ) (List MemoryRenderBuffer)

/-- What a render asks of the texture cache. -/
structure Lookup where
  name : String
  scale : ℤ
  cursor : XCursor
  idx : ℕ

/-- The textures of an image set. -/
def texturesOf (cursor : XCursor) (scale : ℤ) : List MemoryRenderBuffer :=
  cursor.images.map (.ofFrame scale)

/-- The texture that is asked for: the one of the frame, from the image set that is passed. -/
def Lookup.texture (l : Lookup) : Option MemoryRenderBuffer :=
  (l.cursor.images[l.idx]?).map (.ofFrame l.scale)

/-- `get_named`.  `None` where the index is out of range. -/
def getNamed (cache : TextureCache) (l : Lookup) : Option MemoryRenderBuffer × TextureCache :=
  let (textures, cache) := orInsertWith cache (l.name, l.scale) (texturesOf l.cursor l.scale)
  (textures[l.idx]?, cache)

/-! ## Rendering -/

structure World (Icon : Type) where
  files : Files
  cursorManager : CursorManager Icon
  cursorTextureCache : TextureCache
  /-- What was looked up since the cache was last cleared. -/
  shown : List Lookup

inductive Event (Icon : Type)
  /-- The files of the themes change. -/
  | filesChange (files : Files)
  | reload (theme : String) (size : ℕ)
  | setHardwareOverride (cursor : HardwareCursorOverride)
  | clearHardwareOverride
  | setCursorImage (cursor : CursorImageStatus Icon)
  | isCurrentCursorAnimated (scale : ℤ)
  /-- The pointer is rendered. -/
  | renderPointer (scale : ℤ) (millis : ℕ)
  /-- A virtual cursor with a themed source is rendered. -/
  | renderThemed (theme icon : Option String) (size : ℕ) (scale : ℤ) (millis : ℕ)

namespace World

variable {Icon : Type} [DecidableEq Icon] (assets : Assets Icon)

def init (files : Files) (theme : String) (size : ℕ) : World Icon :=
  ⟨files, .new assets theme size, ∅, []⟩

/-- What `render_pointer` looks up for a cursor. -/
def lookupOf (millis : ℕ) : RenderCursor Icon → Option Lookup
  | .hidden | .surface => none
  | .named icon scale cursor => some ⟨assets.name icon, scale, cursor, cursor.frame millis⟩
  | .themed cacheName scale cursor => some ⟨cacheName, scale, cursor, cursor.frame millis⟩

/-- `render_pointer`, up to the lookup. -/
def pointerLookup (files : Files) (scale : ℤ) (millis : ℕ) :
    StateM (CursorManager Icon) (Option Lookup) := do
  return lookupOf assets millis (← CursorManager.getRenderCursor assets files scale)

/-- The cache name and the cursor of `render_themed`. -/
def themedSource (files : Files) (theme icon : Option String) (size : ℕ) (scale : ℤ) :
    StateM (CursorManager Icon) (String × XCursor) := do
  let iconName := icon.getD "default"
  let found ←
    match theme with
    | some theme => do
      let cursor ← CursorManager.getThemed files theme iconName scale (some size)
      pure (cursor.map fun cursor => (theme ++ ":" ++ iconName, cursor))
    | none =>
      match icon with
      | some name => do
        let cursor ← CursorManager.getCursorWithIconName files name scale (some size)
        pure (cursor.map fun cursor => (name, cursor))
      | none => pure none
  match found with
  | some source => return source
  | none => return ("default", ← CursorManager.getDefaultCursor assets files scale)

/-- `render_themed`, up to the lookup. -/
def themedLookup (files : Files) (theme icon : Option String) (size : ℕ) (scale : ℤ)
    (millis : ℕ) : StateM (CursorManager Icon) Lookup := do
  let (cacheName, cursor) ← themedSource assets files theme icon size scale
  return ⟨cacheName, scale, cursor, cursor.frame millis⟩

/-- What the event asks of the texture cache, and the manager after it. -/
def asks (w : World Icon) : Event Icon → Option Lookup × CursorManager Icon
  | .filesChange _ => (none, w.cursorManager)
  | .reload theme size => (none, w.cursorManager.reload theme size)
  | .setHardwareOverride cursor => (none, { w.cursorManager with hardwareOverride := some cursor })
  | .clearHardwareOverride => (none, { w.cursorManager with hardwareOverride := none })
  | .setCursorImage cursor => (none, { w.cursorManager with currentCursor := cursor })
  | .isCurrentCursorAnimated scale =>
    (none, (CursorManager.isCurrentCursorAnimated assets w.files scale w.cursorManager).2)
  | .renderPointer scale millis => pointerLookup assets w.files scale millis w.cursorManager
  | .renderThemed theme icon size scale millis =>
    let (lookup, manager) :=
      themedLookup assets w.files theme icon size scale millis w.cursorManager
    (some lookup, manager)

/-- A lookup that is out of range crashes; its step is taken nevertheless. -/
def step (w : World Icon) (event : Event Icon) : Option (World Icon) :=
  let (lookup, cursorManager) := w.asks assets event
  let w := { w with cursorManager }
  match event, lookup with
  | .filesChange files, _ => some { w with files }
  -- the config reload clears the cache as well
  | .reload _ _, _ => some { w with cursorTextureCache := ∅, shown := [] }
  | _, none => some w
  | _, some lookup =>
    some { w with
      cursorTextureCache := (getNamed w.cursorTextureCache lookup).2
      shown := w.shown ++ [lookup] }

/-- What the event looks up is there, and is the texture that it asks for. -/
def Coherent (w : World Icon) (event : Event Icon) : Prop :=
  ∀ lookup, (w.asks assets event).1 = some lookup →
    ∃ texture, (getNamed w.cursorTextureCache lookup).1 = some texture ∧
      lookup.texture = some texture

/-- What was first looked up under the name and scale, since the cache was cleared. -/
def firstShown (w : World Icon) (name : String) (scale : ℤ) : Option Lookup :=
  w.shown.find? fun l => l.name = name ∧ l.scale = scale

/-- What the event looks up has, at the index, the image that the first image set under the name
had there. -/
def Agrees (w : World Icon) (event : Event Icon) : Prop :=
  ∀ lookup, (w.asks assets event).1 = some lookup →
    ∀ first, w.firstShown lookup.name lookup.scale = some first →
      (first.cursor.images[lookup.idx]?).map (MemoryRenderBuffer.ofFrame lookup.scale) =
        (lookup.cursor.images[lookup.idx]?).map (.ofFrame lookup.scale)

variable {assets} {w w' : World Icon}

/-! ## What is looked up -/

variable {event : Event Icon}

/-- The index that a render asks for is one of its image set. -/
theorem asks_idx_lt {lookup : Lookup} (h : (w.asks assets event).1 = some lookup) :
    lookup.idx < lookup.cursor.images.length := by
  cases event with
  | renderPointer scale millis =>
    have hlookup : lookupOf assets millis
        (CursorManager.getRenderCursor assets w.files scale w.cursorManager).1 = some lookup := h
    cases hcursor : (CursorManager.getRenderCursor assets w.files scale w.cursorManager).1 with
    | hidden | surface =>
      rw [hcursor] at hlookup
      cases hlookup
    | named icon scale' cursor =>
      rw [hcursor] at hlookup
      rw [← some.inj hlookup]
      exact cursor.frame_lt millis
    | themed cacheName scale' cursor =>
      rw [hcursor] at hlookup
      rw [← some.inj hlookup]
      exact cursor.frame_lt millis
  | renderThemed theme icon size scale millis =>
    have hsource : (themedLookup assets w.files theme icon size scale millis w.cursorManager).1 =
        lookup := some.inj h
    rw [← hsource]
    exact XCursor.frame_lt _ millis
  | _ => cases h

/-! ## What the cache stores -/

/-- The textures under a name and scale are the ones of the image set that came first. -/
def Stores (w : World Icon) : Prop :=
  ∀ name scale, w.cursorTextureCache.lookup (name, scale) =
    (w.firstShown name scale).map fun first => texturesOf first.cursor scale

section

omit [DecidableEq Icon]

theorem stores_init (files : Files) (theme : String) (size : ℕ) :
    (init assets files theme size).Stores :=
  fun _ _ => rfl

/-- A lookup leaves what came first, or comes first itself. -/
theorem firstShown_concat {l : Lookup} (hshown : w'.shown = w.shown ++ [l]) (name : String)
    (scale : ℤ) : w'.firstShown name scale =
      (w.firstShown name scale).or (if l.name = name ∧ l.scale = scale then some l else none) := by
  rw [firstShown, hshown, List.find?_append, firstShown]
  congr 1
  by_cases h : l.name = name ∧ l.scale = scale
  · rw [if_pos h, List.find?_cons_of_pos (by simpa using h)]
  · rw [if_neg h, List.find?_cons_of_neg (by simpa using h), List.find?_nil]

theorem Stores.look (h : w.Stores) (l : Lookup) :
    Stores { w with
      cursorTextureCache := (getNamed w.cursorTextureCache l).2
      shown := w.shown ++ [l] } := by
  intro name scale
  have hfirst := h name scale
  rw [firstShown_concat (w := w) (l := l) rfl]
  by_cases hkey : l.name = name ∧ l.scale = scale
  · obtain ⟨rfl, rfl⟩ := hkey
    simp only [getNamed, orInsertWith]
    cases hcache : w.cursorTextureCache.lookup (l.name, l.scale) with
    | some textures =>
      rw [hcache] at hfirst
      obtain ⟨first, hshown, htextures⟩ := map_eq_some_iff.mp hfirst.symm
      rw [hshown]
      exact hcache.trans (congrArg some htextures.symm)
    | none =>
      rw [hcache] at hfirst
      have hshown : w.firstShown l.name l.scale = none := map_eq_none_iff.mp hfirst.symm
      rw [hshown]
      exact Finmap.lookup_insert _
  · have hother : (getNamed w.cursorTextureCache l).2.lookup (name, scale) =
        w.cursorTextureCache.lookup (name, scale) := by
      simp only [getNamed, orInsertWith]
      cases w.cursorTextureCache.lookup (l.name, l.scale) with
      | some textures => rfl
      | none =>
        refine Finmap.lookup_insert_of_ne _ fun heq => hkey ?_
        rw [Prod.mk.injEq] at heq
        exact ⟨heq.1.symm, heq.2.symm⟩
    rw [if_neg hkey, or_none]
    exact hother.trans hfirst

end

/-- **Every step** leaves the cache with the textures of what came first. -/
theorem Stores.step (h : w.Stores) (hstep : w.step assets event = some w') : w'.Stores := by
  have hmanager : Stores { w with cursorManager := (w.asks assets event).2 } := h
  unfold World.step at hstep
  cases hlookup : (w.asks assets event).1 with
  | none =>
    cases event with
    | reload theme size => exact some.inj hstep ▸ fun _ _ => rfl
    | filesChange files => exact some.inj hstep ▸ hmanager
    | _ =>
      simp only [hlookup] at hstep
      exact some.inj hstep ▸ hmanager
  | some lookup =>
    cases event with
    | reload | filesChange => cases hlookup
    | _ =>
      simp only [hlookup] at hstep
      exact some.inj hstep ▸ hmanager.look lookup

/-- A step is coherent exactly when it agrees with what came first. -/
theorem Stores.coherent_iff (h : w.Stores) (event : Event Icon) :
    w.Coherent assets event ↔ w.Agrees assets event := by
  refine forall_congr' fun lookup => forall_congr' fun hasks => ?_
  have hlt := asks_idx_lt hasks
  have hfirst := h lookup.name lookup.scale
  obtain ⟨texture, htexture⟩ : ∃ texture, lookup.texture = some texture :=
    ⟨_, by rw [Lookup.texture, List.getElem?_eq_getElem hlt, map_some]⟩
  have hget : (getNamed w.cursorTextureCache lookup).1 =
      ((w.cursorTextureCache.lookup (lookup.name, lookup.scale)).getD
        (texturesOf lookup.cursor lookup.scale))[lookup.idx]? := by
    simp only [getNamed, orInsertWith]
    cases w.cursorTextureCache.lookup (lookup.name, lookup.scale) <;> rfl
  rw [hget, hfirst]
  cases hshown : w.firstShown lookup.name lookup.scale with
  | none =>
    have hown : (texturesOf lookup.cursor lookup.scale)[lookup.idx]? = some texture := by
      rw [texturesOf, List.getElem?_map]
      exact htexture
    constructor
    · intro _ first hsome
      cases hsome
    · intro _
      exact ⟨texture, hown, htexture⟩
  | some first =>
    have hstored : (texturesOf first.cursor lookup.scale)[lookup.idx]? =
        (first.cursor.images[lookup.idx]?).map (.ofFrame lookup.scale) := by
      rw [texturesOf, List.getElem?_map]
    rw [map_some, getD_some, hstored]
    constructor
    · rintro ⟨texture', hstored', htexture'⟩ first' hsome
      rw [← some.inj hsome, hstored']
      exact htexture'.symm
    · intro hagrees
      exact ⟨texture, (hagrees first rfl).trans htexture, htexture⟩

/-- A run from a cache that has the textures of what was shown first. -/
theorem along_coherent_iff (h : w.Stores) (events : List (Event Icon)) :
    Run.Along (step assets) (Coherent assets) w events ↔
      Run.Along (step assets) (Agrees assets) w events :=
  Run.along_congr (fun _ _ _ h hstep => Stores.step h hstep)
    (fun _ event _ h _ => Stores.coherent_iff h event) h

/-- **The textures of a run** are there, and are the ones that were asked for, exactly as long as
every image set that is looked up has, at the index, the image that the first one under its name
and scale had there. -/
theorem textures_coherent_iff (files : Files) (theme : String) (size : ℕ)
    (events : List (Event Icon)) :
    Run.Along (step assets) (Coherent assets) (init assets files theme size) events ↔
      Run.Along (step assets) (Agrees assets) (init assets files theme size) events :=
  along_coherent_iff (stores_init files theme size) events

instance (event : Event Icon) : Decidable (w.Coherent assets event) :=
  match h : (w.asks assets event).1 with
  | none => isTrue fun _ hsome => nomatch h.symm.trans hsome
  | some lookup =>
    decidable_of_iff ((getNamed w.cursorTextureCache lookup).1.isSome ∧
      (getNamed w.cursorTextureCache lookup).1 = lookup.texture) (by
        constructor
        · rintro ⟨hsome, heq⟩ lookup' hlookup
          obtain ⟨texture, htexture⟩ := isSome_iff_exists.mp hsome
          rw [← some.inj (h.symm.trans hlookup)]
          exact ⟨texture, htexture, heq ▸ htexture⟩
        · intro hall
          obtain ⟨texture, hget, htexture⟩ := hall lookup h
          exact ⟨hget ▸ rfl, hget.trans htexture.symm⟩)

/-- One icon, and files with a still image of size 24 and an animation of size 48. -/
def plainAssets : Assets Unit := ⟨fun _ => "default", fun _ => [], (), []⟩

def animatedFiles : Files := fun _ _ =>
  some ⟨[⟨24, 24, 24, 50, [1]⟩, ⟨48, 48, 48, 50, [2]⟩, ⟨48, 48, 48, 50, [3]⟩], cons_ne_nil _ _⟩

/-- Two virtual cursors of one icon and of different sizes: the second is at its second frame. -/
def sizesRun : List (Event Unit) :=
  [.renderThemed none (some "text") 24 1 60, .renderThemed none (some "text") 48 1 60]

/-- The second is out of the range of the first. -/
theorem sizesRun_not_coherent :
    ¬Run.Along (step plainAssets) (Coherent plainAssets)
      (init plainAssets animatedFiles "default" 24) sizesRun := by
  decide +kernel

end World

end Tiri.Ui.Cursor
