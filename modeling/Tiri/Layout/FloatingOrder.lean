import Tiri.Layout.FloatingInvariant
import Tiri.Lib.Returns
import Tiri.Lib.Run
import Tiri.Lib.Stack

/-!
# The stacking order of floating windows

`FloatingSpace` keeps its tiles from top to bottom, and `bring_up_descendants_of` moves the
windows that descend from one below it to just above it.  Windows get and lose parents while
they are mapped; after that the space is told that the parent has new descendants.

Results:
* `bringUpDescendantsOf_eq`: the family goes above its root, in its order, and so do the others;
* `step_inv`: every operation leaves children above their parents;
* `stackingOrder`: along every run, a floating window lies above every ancestor that it has
  through floating windows, the others keep their order, and an active window is there exactly
  when the space is not empty;
* `grandchild_below`: an ancestor through a window that does not float may cover it.
-/

namespace Tiri.Layout.FloatingSpace

open Stack Option List Function Ensures Returns Vec

variable {Id : Type} [DecidableEq Id]

/-- `is_child_of` of the windows in two tiles. -/
def childOf (t u : Tile Id) : Bool := t.window.isChildOf u.window

variable {t u : Tile Id}

theorem childOf_iff : childOf t u = true ↔ t.window.parent = some u.id := by
  simp [childOf, Window.isChildOf, Tile.id]

theorem childOf_eq_false : childOf t u = false ↔ t.window.parent ≠ some u.id := by
  rw [← Bool.not_eq_true, childOf_iff]

/-! ## Bringing up descendants -/

/-- The positions of the family among the tiles below `root`, the first of them at `n`. -/
def familyIdx (root : Tile Id) : ℕ → List (Tile Id) → List (Tile Id × ℕ)
  | _, [] => []
  | n, tile :: tiles =>
    if childOf tile root || (gather childOf root tiles).1.any (childOf tile) then
      (tile, n) :: familyIdx root (n + 1) tiles
    else familyIdx root (n + 1) tiles

variable (root : Tile Id)

theorem familyIdx_map_fst (n : ℕ) (tiles : List (Tile Id)) :
    (familyIdx root n tiles).map Prod.fst = (gather childOf root tiles).1 := by
  induction tiles generalizing n with
  | nil => rfl
  | cons tile tiles ih =>
    rw [familyIdx, gather]
    split_ifs
    · rw [map_cons, ih]
    · exact ih _

variable (before : List (Tile Id))

/-- The walk from the bottom finds the family. -/
theorem descendantsOf_eq (after : List (Tile Id)) :
    descendantsOf (before ++ root :: after) root.window before.length =
      (familyIdx root (before.length + 1) after).reverse := by
  have hdrop : (before ++ root :: after).zipIdx.drop (before.length + 1) =
      after.zipIdx (before.length + 1) := by
    rw [zipIdx_append, zipIdx_cons, Nat.zero_add]
    have hlen : (before.zipIdx 0).length = before.length := length_zipIdx
    rw [← hlen, drop_length_add_append]
    rfl
  rw [descendantsOf, hdrop]
  clear hdrop
  generalize before.length + 1 = n
  induction after generalizing n with
  | nil => rfl
  | cons tile after ih =>
    have hany : ((familyIdx root (n + 1) after).reverse.any fun d =>
        tile.window.isChildOf d.1.window) = (gather childOf root after).1.any (childOf tile) := by
      rw [any_reverse, ← familyIdx_map_fst root (n + 1), List.any_map]
      rfl
    rw [zipIdx_cons, reverse_cons, foldl_append, ih, foldl_cons, foldl_nil, hany, familyIdx]
    change (if childOf tile root || _ then _ else _) = _
    split_ifs
    · rw [reverse_cons]
    · rfl

variable {s : FloatingSpace Id} {root : Tile Id}

omit [DecidableEq Id] in
/-- Raising a tile over those in `between`. -/
theorem raiseWindow_eq {between after : List (Tile Id)} {tile : Tile Id}
    (h : s.tiles = before ++ (between ++ tile :: after)) :
    s.raiseWindow (before.length + between.length) before.length =
      some { s with tiles := before ++ tile :: (between ++ after) } := by
  have hremove : Vec.removeAt s.tiles (before.length + between.length) =
      some (tile, before ++ (between ++ after)) := by
    rw [h, ← append_assoc, ← length_append, Vec.removeAt, Vec.getElem?_append_length,
      eraseIdx_append_length, map_some, append_assoc]
  have hinsert : Vec.insertAt (before ++ (between ++ after)) before.length tile =
      some (before ++ tile :: (between ++ after)) := by
    rw [Vec.insertAt, if_pos (by simp), insertIdx_append_length]
  rw [raiseWindow, if_neg (by omega), hremove]
  simp only [bind_eq_bind, bind_some, hinsert]
  rfl

/-- Raising the family, front to back: what has been passed stays between the family and the
others. -/
theorem raiseAll_eq (root : Tile Id) (after : List (Tile Id)) :
    ∀ (s : FloatingSpace Id) (before between : List (Tile Id)),
      s.tiles = before ++ (between ++ after) →
      s.raiseAll ((familyIdx root (before.length + between.length) after).map Prod.snd)
          before.length =
        some { s with
          tiles := before ++
            ((gather childOf root after).1 ++ (between ++ (gather childOf root after).2)) } := by
  induction after with
  | nil =>
    intro s before between h
    simp only [familyIdx, gather, map_nil, raiseAll, nil_append]
    rw [← h]
  | cons tile after ih =>
    intro s before between h
    rw [familyIdx, gather]
    split_ifs
    · rw [map_cons, raiseAll, raiseWindow_eq before h, bind_eq_bind, bind_some]
      have hnext := ih { s with tiles := before ++ tile :: (between ++ after) } (before ++ [tile])
        between (by simp)
      rw [length_append, length_singleton, Nat.add_right_comm] at hnext
      rw [hnext]
      simp
    · have hnext := ih s before (between ++ [tile]) (by simpa using h)
      rw [length_append, length_singleton, ← Nat.add_assoc] at hnext
      rw [hnext]
      simp

/-- **`bring_up_descendants_of`** moves the family to just above its root. -/
theorem bringUpDescendantsOf_eq {before after : List (Tile Id)}
    (h : s.tiles = before ++ root :: after) :
    s.bringUpDescendantsOf before.length = some { s with
        tiles := before ++
          ((gather childOf root after).1 ++ root :: (gather childOf root after).2) } := by
  have hraise := raiseAll_eq root after s before [root] (by simpa using h)
  rw [bringUpDescendantsOf, h, Vec.getElem?_append_length, bind_eq_bind, bind_some,
    descendantsOf_eq, reverse_reverse]
  exact hraise

/-! ## Windows and their parents -/

/-- A tile after the client has given a window another parent. -/
def reparent (child : Id) (parent : Option Id) (tile : Tile Id) : Tile Id :=
  if tile.id = child then { tile with window := { tile.window with parent := parent } } else tile

/-- The client gives a window another parent. -/
def setParent (self : FloatingSpace Id) (child : Id) (parent : Option Id) : FloatingSpace Id :=
  { self with tiles := self.tiles.map (reparent child parent) }

/-- The floating space among all windows, of which it holds some. -/
structure World (Id : Type) where
  parents : Id → Option Id
  space : FloatingSpace Id

/-- No window descends from itself. -/
def Forest (parents : Id → Option Id) : Prop :=
  ∀ id, ¬Relation.TransGen (fun a b => parents a = some b) id id

/-- `x` descends from `y` through floating windows. -/
def Descends (s : FloatingSpace Id) (parents : Id → Option Id) : Id → Id → Prop :=
  Relation.TransGen fun a b => parents a = some b ∧ a ∈ s.ids ∧ b ∈ s.ids

/-- `x` is the window itself, or one that descends from it. -/
def Related (s : FloatingSpace Id) (parents : Id → Option Id) (root x : Id) : Prop :=
  x = root ∨ s.Descends parents x root

/-- The tiles show the windows with their parents, and no tile lies below a child of its own. -/
structure Arranged (s : FloatingSpace Id) (parents : Id → Option Id) : Prop where
  parents : ∀ tile ∈ s.tiles, tile.window.parent = parents tile.id
  stacked : Stacked childOf s.tiles

/-- Windows that are not related to the subject of an operation keep their order. -/
def OthersKept (s s' : FloatingSpace Id) (parents : Id → Option Id) (subject : Option Id) : Prop :=
  ∀ q : Id → Bool, (∀ root, subject = some root → ∀ x, s'.Related parents root x → q x = false) →
    s'.ids.filter q = s.ids.filter q

/-- The operations on the space, and the change of a parent, which tells the space
(`parent_changed`, `xdg_shell.rs`, lines 909–923). -/
inductive Op (Id : Type)
  | addTile (tile : Tile Id) (activate : Bool)
  | addTileAbove (above : Id) (tile : Tile Id) (activate : Bool)
  | removeTile (id : Id) (expected : Option ISize)
  | removeActiveTile (expected : Option ISize)
  | activateWindow (id : Id)
  | activateWindowWithoutRaising (id : Id)
  | descendantsAdded (id : Id)
  | setParent (child : Id) (parent : Option Id)

namespace World

variable (w : World Id)

/-- The world after an operation, `none` where the code panics. -/
def step : Op Id → Option (World Id)
  | .addTile tile activate => return { w with space := ← w.space.addTile tile activate }
  | .addTileAbove above tile activate =>
    return { w with space := ← w.space.addTileAbove above tile activate }
  | .removeTile id expected => return { w with space := (← w.space.removeTile id expected).2 }
  | .removeActiveTile expected => return { w with space := (← w.space.removeActiveTile expected).2 }
  | .activateWindow id => return { w with space := (← w.space.activateWindow id).1 }
  | .activateWindowWithoutRaising id =>
    return { w with space := (w.space.activateWindowWithoutRaising id).1 }
  | .descendantsAdded id => return { w with space := (← w.space.descendantsAdded id).1 }
  | .setParent child parent =>
    let parents := update w.parents child parent
    let space := w.space.setParent child parent
    match parent with
    | none => return { parents := parents, space := space }
    | some parent => return { parents := parents, space := (← space.descendantsAdded parent).1 }

/-- What the callers see to: a tile that is added shows a window that is not in the space, and
the parents that clients set make no cycle. -/
def Ready : Op Id → Prop
  | .addTile tile _ | .addTileAbove _ tile _ =>
    tile.id ∉ w.space.ids ∧ tile.window.parent = w.parents tile.id
  | .setParent child parent => Forest (update w.parents child parent)
  | _ => True

/-- `x` descends from `y` through floating windows. -/
def Descends (x y : Id) : Prop := w.space.Descends w.parents x y

/-- The window that an operation adds, removes, raises, or gives descendants to. -/
def subject : Op Id → Option Id
  | .addTile tile _ | .addTileAbove _ tile _ => some tile.id
  | .removeTile id _ | .activateWindow id | .descendantsAdded id => some id
  | .removeActiveTile _ => w.space.activeWindowId
  | .activateWindowWithoutRaising _ => none
  | .setParent _ parent => parent

/-- The invariant: the tiles show the windows with their parents, and no tile lies below a child
of its own. -/
structure Inv (w : World Id) : Prop where
  space : w.space.Inv
  forest : Forest w.parents
  arranged : w.space.Arranged w.parents

end World

/-! ## What bringing up does for the order -/

/-- The tile that `idx_of` finds. -/
theorem idxOf_split {id : Id} {idx : ℕ} (h : s.idxOf id = some idx) :
    ∃ before tile after,
      s.tiles = before ++ tile :: after ∧ before.length = idx ∧ tile.id = id := by
  obtain ⟨hlt, hid, -⟩ := List.findIdx?_eq_some_iff_getElem.mp h
  obtain ⟨before, after, htiles, hlen⟩ :=
    Vec.getElem?_eq_some_split.mp (List.getElem?_eq_getElem hlt)
  exact ⟨before, s.tiles[idx], after, htiles, hlen, by simpa using hid⟩

omit [DecidableEq Id] in
theorem ids_filter (s : FloatingSpace Id) (q : Id → Bool) :
    s.ids.filter q = (s.tiles.filter fun t => q t.id).map Tile.id := filter_map

variable {parents : Id → Option Id}

/-- The root descends from no window of its family. -/
theorem root_not_child (hforest : Forest parents) {tiles : List (Tile Id)}
    (hroot : root.window.parent = parents root.id)
    (hparents : ∀ tile ∈ tiles, tile.window.parent = parents tile.id) :
    ∀ tile ∈ (gather childOf root tiles).1, childOf root tile = false := by
  intro tile htile
  rw [childOf_eq_false]
  intro hchild
  have hreach := gather_reaches childOf root tiles tile htile
  have hids : Relation.TransGen (fun a b => parents a = some b) tile.id root.id := by
    refine Relation.TransGen.lift Tile.id (fun a b hab => ?_) _ _ hreach
    exact (hparents a hab.2.1).symm.trans (childOf_iff.mp hab.1)
  exact hforest tile.id (hids.tail (hroot ▸ hchild))

/-- **Bringing up the descendants of a window** that lies below its parent's place arranges the
space, if only its own family was out of place. -/
theorem bringUpDescendantsOf_arranged (before after : List (Tile Id))
    (htiles : s.tiles = before ++ root :: after) (hforest : Forest parents)
    (hparents : ∀ tile ∈ s.tiles, tile.window.parent = parents tile.id)
    (hstacked : Stacked childOf (before ++ after))
    (hbefore : ∀ tile ∈ before, childOf root tile = false) :
    Returns (s.bringUpDescendantsOf before.length) fun s' =>
      Restacked s s' ∧ s'.Arranged parents ∧
        ∀ q : Id → Bool, (∀ x, s'.Related parents root.id x → q x = false) →
          s'.ids.filter q = ((before ++ after).filter fun t => q t.id).map Tile.id := by
  have hafter : ∀ tile ∈ after, tile.window.parent = parents tile.id := fun tile htile =>
    hparents tile (by rw [htiles]; simp [htile])
  have hroot := hparents root (by rw [htiles]; simp)
  have hperm : (before ++ ((gather childOf root after).1 ++
      root :: (gather childOf root after).2)).Perm s.tiles := by
    rw [htiles]
    exact (perm_middle.trans ((gather_perm childOf root after).cons root)).append_left before
  refine ⟨_, bringUpDescendantsOf_eq htiles, ⟨hperm, rfl⟩, ⟨?_, ?_⟩, ?_⟩
  · exact fun tile htile => hparents tile (hperm.mem_iff.mp htile)
  · exact hstacked.gather hbefore (root_not_child hforest hroot hafter)
  · intro q hq
    have hmem : ∀ tile ∈ s.tiles, tile.id ∈ (before ++ ((gather childOf root after).1 ++
        root :: (gather childOf root after).2)).map Tile.id := fun tile htile =>
      mem_map_of_mem (hperm.mem_iff.mpr htile)
    have hfamily : ∀ tile ∈ (gather childOf root after).1, q tile.id = false := by
      intro tile htile
      refine hq _ (.inr ?_)
      refine Relation.TransGen.lift Tile.id (fun a b hab => ?_) _ _
        (gather_reaches childOf root after tile htile)
      obtain ⟨hchild, ha, hb⟩ := hab
      refine ⟨(hafter a ha).symm.trans (childOf_iff.mp hchild), hmem a ?_, hmem b ?_⟩
      · rw [htiles]
        simp [ha]
      · rw [htiles]
        rcases hb with rfl | hb
        · simp
        · simp [hb]
    have hnone : (gather childOf root after).1.filter (fun t => q t.id) = [] :=
      filter_eq_nil_iff.mpr fun tile htile => by simp [hfamily tile htile]
    have hrest : (root :: (gather childOf root after).2).filter (fun t => q t.id) =
        after.filter fun t => q t.id := by
      rw [filter_cons_of_neg (by simp [hq root.id (.inl rfl)])]
      exact filter_gather hfamily
    rw [ids_filter]
    rw [filter_append, filter_append, filter_append, hnone, hrest, nil_append]

/-! ## The operations -/

section Operations

variable {parents : Id → Option Id} {s : FloatingSpace Id}

variable {before after : List (Tile Id)} {tile : Tile Id}

/-- The tiles without the one in the middle. -/
theorem stacked_remove (h : Stacked childOf (before ++ tile :: after)) :
    Stacked childOf (before ++ after) :=
  h.sublist ((sublist_cons_self tile after).append_left before)

/-- **`descendants_added`** brings up the family of the window; it may be told of a child that
does not lie above its parent yet. -/
theorem descendantsAdded_arranged (hforest : Forest parents) (id : Id)
    (hparents : ∀ tile ∈ s.tiles, tile.window.parent = parents tile.id)
    (hstacked : ∀ before tile after, s.tiles = before ++ tile :: after → tile.id = id →
      Stacked childOf (before ++ after) ∧ ∀ above ∈ before, childOf tile above = false)
    (hrest : id ∉ s.ids → Stacked childOf s.tiles) :
    Returns (s.descendantsAdded id) fun p =>
      Restacked s p.1 ∧ p.1.Arranged parents ∧ OthersKept s p.1 parents (some id) := by
  unfold descendantsAdded
  cases hidx : s.idxOf id with
  | none =>
    have hnot : id ∉ s.ids := by
      intro hid
      obtain ⟨tile, htile, rfl⟩ := mem_map.mp hid
      simpa using List.findIdx?_eq_none_iff.mp hidx tile htile
    exact of_some ⟨.refl s, ⟨hparents, hrest hnot⟩, fun q _ => rfl⟩
  | some idx =>
    obtain ⟨before, tile, after, htiles, rfl, rfl⟩ := idxOf_split hidx
    obtain ⟨hothers, habove⟩ := hstacked before tile after htiles rfl
    refine (bringUpDescendantsOf_arranged before after htiles hforest hparents hothers habove).bind
      fun s' hs' => of_pure ⟨hs'.1, hs'.2.1, fun q hq => ?_⟩
    rw [hs'.2.2 q (hq tile.id rfl), ids_filter, htiles, filter_append, filter_append,
      filter_cons_of_neg (by simp [hq tile.id rfl tile.id (.inl rfl)])]

/-- **`activate_window`** raises the window to the top, and its family above it. -/
theorem activateWindow_arranged (hforest : Forest parents) (h : s.Arranged parents) (id : Id) :
    Returns (s.activateWindow id) fun p =>
      p.1.Arranged parents ∧ OthersKept s p.1 parents (some id) := by
  unfold activateWindow
  cases hidx : s.idxOf id with
  | none => exact of_some ⟨h, fun q _ => rfl⟩
  | some idx =>
    obtain ⟨before, tile, after, htiles, rfl, rfl⟩ := idxOf_split hidx
    have hraise : s.raiseWindow before.length 0 =
        some { s with tiles := tile :: (before ++ after) } := by
      have hraise := raiseWindow_eq [] (htiles.trans (nil_append _).symm)
      simpa using hraise
    refine bind_of_eq hraise ?_
    have hperm : (tile :: (before ++ after)).Perm s.tiles := by
      rw [htiles]
      exact perm_middle.symm
    have hstacked := stacked_remove (htiles ▸ h.stacked)
    refine (bringUpDescendantsOf_arranged [] (before ++ after) rfl hforest ?_
      hstacked (by simp)).bind fun s' hs' => of_pure ⟨hs'.2.1, fun q hq => ?_⟩
    · exact fun t ht => h.parents t (hperm.mem_iff.mp ht)
    · rw [hs'.2.2 q (hq tile.id rfl), ids_filter, htiles, nil_append, filter_append,
        filter_append, filter_cons_of_neg (by simp [hq tile.id rfl tile.id (.inl rfl)])]

/-- A new tile does not go below its parent. -/
theorem aboveParent_spec {idx : ℕ} (htiles : s.tiles = before ++ after)
    (hlen : before.length = s.aboveParent idx tile.window) :
    ∀ above ∈ before, childOf tile above = false := by
  intro above habove
  obtain ⟨i, hi, rfl⟩ := getElem_of_mem habove
  have hget : s.tiles[i]? = some before[i] := by
    rw [htiles, List.getElem?_append_left hi, List.getElem?_eq_getElem hi]
  unfold aboveParent at hlen
  cases hfind : (s.tiles.take idx).findIdx? fun above => tile.window.isChildOf above.window with
  | none =>
    rw [hfind, getD_none] at hlen
    refine List.findIdx?_eq_none_iff.mp hfind _ (mem_of_getElem? (i := i) ?_)
    rw [List.getElem?_take_of_lt (by omega), hget]
  | some j =>
    rw [hfind, getD_some] at hlen
    obtain ⟨hj, -, hfirst⟩ := List.findIdx?_eq_some_iff_getElem.mp hfind
    have hlt : i < s.tiles.length := (List.getElem?_eq_some_iff.mp hget).1
    have hsame : s.tiles[i] = before[i] := (List.getElem?_eq_some_iff.mp hget).2
    have hij := hfirst i (by omega)
    rw [getElem_take, hsame] at hij
    simpa [childOf] using hij

/-- **`add_tile_at`** puts the tile above its parent, and its family above it. -/
theorem addTileAt_arranged (hforest : Forest parents) (h : s.Arranged parents) (idx : ℕ)
    (activate : Bool) (hparent : tile.window.parent = parents tile.id) :
    Ensures (s.addTileAt idx tile activate) fun s' =>
      s'.Arranged parents ∧ OthersKept s s' parents (some tile.id) := by
  refine Ensures.self.bind fun tiles htiles => ?_
  obtain ⟨before, after, hsplit, hlen, rfl⟩ := insertAt_eq_some.mp htiles
  rw [← hlen]
  have hparents : ∀ t ∈
      before ++ (tile.updateConfig s.viewSize s.scale s.options).request .normal :: after,
      t.window.parent = parents t.id := by
    intro t ht
    simp only [mem_append, mem_cons] at ht
    rcases ht with ht | rfl | ht
    · exact h.parents t (by rw [hsplit]; simp [ht])
    · exact hparent
    · exact h.parents t (by rw [hsplit]; simp [ht])
  refine (bringUpDescendantsOf_arranged before after rfl hforest hparents (hsplit ▸ h.stacked)
    (aboveParent_spec hsplit hlen)).ensures.mono fun s' hs' => ⟨hs'.2.1, fun q hq => ?_⟩
  rw [hs'.2.2 q (hq tile.id rfl), ids_filter, hsplit]

/-- A tile that goes leaves the others where they are. -/
theorem removeTile_arranged (h : s.Arranged parents) (id : Id) (expected : Option ISize) :
    Ensures (s.removeTile id expected) fun p =>
      p.2.Arranged parents ∧ OthersKept s p.2 parents (some id) := by
  refine Ensures.self.bind fun idx hidx => ?_
  obtain ⟨before, tile, after, htiles, rfl, rfl⟩ := idxOf_split hidx
  refine Ensures.self.bind fun p hp => of_pure ?_
  have hremoved : Vec.removeAt s.tiles before.length = some (tile, before ++ after) :=
    removeAt_eq_some.mpr ⟨before, after, htiles, rfl, rfl⟩
  rw [hremoved] at hp
  cases hp
  refine ⟨⟨fun t ht => h.parents t ?_, stacked_remove (htiles ▸ h.stacked)⟩, fun q hq => ?_⟩
  · rw [htiles]
    rcases mem_append.mp ht with ht | ht <;> simp [ht]
  · rw [ids_filter, ids_filter, htiles]
    rw [filter_append, filter_append,
      filter_cons_of_neg (by simp [hq tile.id rfl tile.id (.inl rfl)])]

@[simp] theorem reparent_id (child : Id) (parent : Option Id) (tile : Tile Id) :
    (reparent child parent tile).id = tile.id := by
  unfold reparent
  split_ifs <;> rfl

theorem reparent_parent (child : Id) (parent : Option Id) (h : tile.window.parent = parents tile.id) :
    (reparent child parent tile).window.parent = update parents child parent tile.id := by
  unfold reparent
  split_ifs with hchild
  · rw [hchild, update_self]
  · rw [update_of_ne hchild, h]

variable {parent : Option Id}

/-- A pair of tiles stays in its order, unless the lower one is the child and the upper one its
new parent. -/
theorem childOf_reparent {child : Id} {above below : Tile Id} (h : childOf below above = false)
    (hne : below.id = child → parent ≠ some above.id) :
    childOf (reparent child parent below) (reparent child parent above) = false := by
  rw [childOf_eq_false, reparent_id]
  unfold reparent
  split_ifs with hchild
  · exact hne hchild
  · exact childOf_eq_false.mp h

theorem setParent_ids (s : FloatingSpace Id) (child : Id) (parent : Option Id) :
    (s.setParent child parent).ids = s.ids := by
  rw [ids, setParent, List.map_map]
  exact map_congr_left fun tile _ => reparent_id child parent tile

/-- After a change of the parent, only the child may be out of place, below its new parent. -/
theorem setParent_stacked (hnodup : s.ids.Nodup) (h : Stacked childOf s.tiles) {child parent : Id}
    (hne : child ≠ parent)
    (htiles : (s.setParent child (some parent)).tiles = before ++ tile :: after)
    (hparent : tile.id = parent) :
    Stacked childOf (before ++ after) ∧ ∀ above ∈ before, childOf tile above = false := by
  obtain ⟨before, rest, hsplit, rfl, hrest⟩ := map_eq_append_iff.mp htiles
  obtain ⟨tile, after, rfl, rfl, rfl⟩ := map_eq_cons_iff.mp hrest
  rw [reparent_id] at hparent
  rw [hsplit] at h
  have hunique : ∀ above ∈ before ++ after, above.id ≠ parent := by
    intro above habove heq
    rw [ids, hsplit, map_append, map_cons, nodup_middle, nodup_cons] at hnodup
    refine hnodup.1 ?_
    rw [← map_append, hparent, ← heq]
    exact mem_map_of_mem habove
  constructor
  · rw [← map_append]
    refine pairwise_map.mpr ((stacked_remove h).imp_of_mem fun {above below} ha _ hpair => ?_)
    refine childOf_reparent hpair fun _ heq => hunique above ha ?_
    exact (some.inj heq).symm
  · intro above habove
    obtain ⟨above, hmem, rfl⟩ := mem_map.mp habove
    refine childOf_reparent ?_ fun hchild => absurd (hchild.symm.trans hparent) hne
    exact (pairwise_append.mp h).2.2 above hmem tile mem_cons_self

/-- A parent that does not float puts nothing out of place. -/
theorem setParent_stacked_of_notMem (h : Stacked childOf s.tiles) (child : Id)
    (hparent : ∀ id, parent = some id → id ∉ s.ids) :
    Stacked childOf (s.setParent child parent).tiles := by
  refine pairwise_map.mpr (List.Pairwise.imp_of_mem (fun {above below} ha _ hpair => ?_) h)
  refine childOf_reparent hpair fun _ heq => hparent above.id heq ?_
  exact mem_map_of_mem ha

theorem setParent_inv (h : s.Inv) (child : Id) (parent : Option Id) :
    (s.setParent child parent).Inv := by
  have hstamps : (s.setParent child parent).stamps = s.stamps := by
    rw [stamps, stamps, setParent, List.map_map]
    refine map_congr_left fun tile _ => ?_
    unfold Function.comp reparent
    split_ifs <;> rfl
  have hkept : ∀ tile : Tile Id, (reparent child parent tile).options = tile.options ∧
      (reparent child parent tile).window.pendingSizingMode = tile.window.pendingSizingMode := by
    intro tile
    unfold reparent
    split_ifs <;> exact ⟨rfl, rfl⟩
  refine ⟨by rw [hstamps]; exact h.nodup, ?_, by rw [hstamps]; exact h.active_mem,
    by rw [hstamps]; exact h.resize, ?_, ?_⟩
  · simpa [setParent] using h.active_none
  · intro tile htile
    obtain ⟨tile, hmem, rfl⟩ := mem_map.mp htile
    exact (hkept tile).1.trans (h.options tile hmem)
  · intro tile htile
    obtain ⟨tile, hmem, rfl⟩ := mem_map.mp htile
    exact (hkept tile).2.trans (h.pending tile hmem)

end Operations

/-! ## Runs -/

namespace World

variable {w : World Id}

theorem Inv.ids_nodup (h : w.Inv) : w.space.ids.Nodup := by
  rw [ids_eq_stamps]
  exact h.space.nodup

/-- A window whose parent changes: the space is told of the parent. -/
theorem setParent_step (h : w.Inv) (child parent : Id)
    (hforest : Forest (update w.parents child (some parent))) :
    Ensures ((w.space.setParent child (some parent)).descendantsAdded parent) fun p =>
      p.1.Inv ∧ p.1.Arranged (update w.parents child (some parent)) ∧
        OthersKept w.space p.1 (update w.parents child (some parent)) (some parent) := by
  have hne : child ≠ parent := by
    rintro rfl
    exact hforest child (.single (update_self ..))
  have hparents : ∀ tile ∈ (w.space.setParent child (some parent)).tiles,
      tile.window.parent = update w.parents child (some parent) tile.id := by
    intro tile htile
    obtain ⟨tile, hmem, rfl⟩ := mem_map.mp htile
    rw [reparent_id]
    exact reparent_parent child _ (h.arranged.parents tile hmem)
  refine ((descendantsAdded_arranged hforest parent hparents
    (fun before tile after htiles hid =>
      setParent_stacked h.ids_nodup h.arranged.stacked hne htiles hid)
    fun hnot => setParent_stacked_of_notMem h.arranged.stacked child fun id heq => ?_).ensures.and
    (descendantsAdded_keeps parent _ (setParent_inv h.space child (some parent)))).mono
    fun p hp => ⟨hp.2.1, hp.1.2.1, fun q hq => ?_⟩
  · rw [← some.inj heq, ← setParent_ids w.space child (some parent)]
    exact hnot
  · rw [hp.1.2.2 q hq, setParent_ids]

/-- **Every operation** leaves children above their parents, and the others in their order. -/
theorem step_inv (h : w.Inv) (op : Op Id) (hready : w.Ready op) :
    Ensures (w.step op) fun w' =>
      w'.Inv ∧ OthersKept w.space w'.space w'.parents (w.subject op) := by
  cases op with
  | addTile tile activate =>
    refine ((addTileAt_arranged h.forest h.arranged 0 activate hready.2).and
      (addTile_inv h.space activate hready.1)).bind fun s' hs' => of_pure ?_
    exact ⟨⟨hs'.2.1, h.forest, hs'.1.1⟩, hs'.1.2⟩
  | addTileAbove above tile activate =>
    refine Ensures.bind (P := fun s' => s'.Inv ∧ s'.Arranged w.parents ∧
      OthersKept w.space s' w.parents (some tile.id)) ?_ fun s' hs' => of_pure
        ⟨⟨hs'.1, h.forest, hs'.2.1⟩, hs'.2.2⟩
    refine Ensures.self.bind fun idx _ => ?_
    exact ((addTileAt_arranged h.forest h.arranged idx activate hready.2).and
      (addTileAt_inv h.space idx activate hready.1)).mono fun s' hs' => ⟨hs'.2.1, hs'.1⟩
  | removeTile id expected =>
    refine ((removeTile_arranged h.arranged id expected).and
      (removeTile_inv h.space id expected)).bind fun p hp => of_pure ?_
    exact ⟨⟨hp.2.1.inv, h.forest, hp.1.1⟩, hp.1.2⟩
  | removeActiveTile expected =>
    have hspace : Ensures (w.space.removeActiveTile expected) fun p =>
        p.2.Inv ∧ p.2.Arranged w.parents ∧
          OthersKept w.space p.2 w.parents w.space.activeWindowId := by
      unfold removeActiveTile
      cases w.space.activeWindowId with
      | none => exact of_some ⟨h.space, h.arranged, fun q _ => rfl⟩
      | some id =>
        refine ((removeTile_arranged h.arranged id expected).and
          (removeTile_inv h.space id expected)).bind fun p hp => of_pure ?_
        exact ⟨hp.2.1.inv, hp.1⟩
    exact hspace.bind fun p hp => of_pure ⟨⟨hp.1, h.forest, hp.2.1⟩, hp.2.2⟩
  | activateWindow id =>
    refine ((activateWindow_arranged h.forest h.arranged id).ensures.and
      (activateWindow_keeps id w.space h.space)).bind fun p hp => of_pure ?_
    exact ⟨⟨hp.2.1, h.forest, hp.1.1⟩, hp.1.2⟩
  | activateWindowWithoutRaising id =>
    have hinv := (activateWindowWithoutRaising_inv h.space id).1
    have htiles : (w.space.activateWindowWithoutRaising id).1.tiles = w.space.tiles := by
      unfold activateWindowWithoutRaising
      split_ifs <;> rfl
    refine of_pure ⟨⟨hinv, h.forest, ⟨?_, ?_⟩⟩, fun q _ => ?_⟩
    · rw [htiles]
      exact h.arranged.parents
    · rw [htiles]
      exact h.arranged.stacked
    · rw [ids, ids, htiles]
  | descendantsAdded id =>
    refine ((descendantsAdded_arranged h.forest id h.arranged.parents
      (fun before tile after htiles _ => ?_) fun _ => h.arranged.stacked).ensures.and
      (descendantsAdded_keeps id w.space h.space)).bind fun p hp => of_pure ?_
    · have hstacked := h.arranged.stacked
      rw [htiles] at hstacked
      exact ⟨stacked_remove hstacked, fun above habove =>
        (pairwise_append.mp hstacked).2.2 above habove tile mem_cons_self⟩
    · exact ⟨⟨hp.2.1, h.forest, hp.1.2.1⟩, hp.1.2.2⟩
  | setParent child parent =>
    cases parent with
    | none =>
      refine of_pure ⟨⟨setParent_inv h.space child none, hready, ⟨?_, ?_⟩⟩, fun q _ => ?_⟩
      · intro tile htile
        obtain ⟨tile, hmem, rfl⟩ := mem_map.mp htile
        rw [reparent_id]
        exact reparent_parent child none (h.arranged.parents tile hmem)
      · exact setParent_stacked_of_notMem h.arranged.stacked child fun id heq => by cases heq
      · rw [setParent_ids]
    | some parent =>
      refine (setParent_step h child parent hready).bind fun p hp => of_pure ?_
      exact ⟨⟨hp.1, hready, hp.2.1⟩, hp.2.2⟩

/-- What is seen of a space: a window lies above its floating ancestors, and an active window is
there exactly when the space is not empty. -/
structure WellStacked (w : World Id) : Prop where
  above : ∀ x y, w.Descends x y → Above w.space.ids x y
  active_none : w.space.activeWindowId = none ↔ w.space.tiles = []
  active_mem : ∀ id, w.space.activeWindowId = some id → id ∈ w.space.ids

/-- Of two windows that are not related to its subject, an operation leaves the same one above
the other. -/
def KeepsOthers (w : World Id) (op : Op Id) : Prop :=
  ∀ w', w.step op = some w' → ∀ x y, (∀ root, w.subject op = some root →
      ¬w'.space.Related w'.parents root x ∧ ¬w'.space.Related w'.parents root y) →
    (Above w.space.ids x y ↔ Above w'.space.ids x y)

theorem Inv.wellStacked (h : w.Inv) : w.WellStacked where
  above := fun x y hxy => by
    have hrel : Stacked (fun a b => decide (w.parents a = some b)) w.space.ids := by
      refine pairwise_map.mpr
        (h.arranged.stacked.imp_of_mem fun {above below} _ hb hpair => ?_)
      rw [childOf_eq_false, h.arranged.parents below hb] at hpair
      exact decide_eq_false hpair
    refine hrel.above_of_reaches h.ids_nodup (fun id => decide_eq_false fun hid => ?_) ?_
    · exact h.forest id (.single hid)
    · exact Relation.TransGen.mono (fun a b hab => ⟨decide_eq_true hab.1, hab.2⟩) x y hxy
  active_none := h.space.active_none
  active_mem := fun id hid => by
    rw [ids_eq_stamps]
    exact h.space.active_mem id hid

open Classical in
theorem keepsOthers_of_kept {op : Op Id}
    (h : Ensures (w.step op) fun w' => OthersKept w.space w'.space w'.parents (w.subject op)) :
    w.KeepsOthers op := by
  intro w' hw' x y hxy
  obtain ⟨q, hq⟩ : ∃ q : Id → Bool, ∀ id, q id = true ↔
      ∀ root, w.subject op = some root → ¬w'.space.Related w'.parents root id :=
    ⟨fun id => decide _, fun id => decide_eq_true_iff⟩
  have hfilter : w'.space.ids.filter q = w.space.ids.filter q := by
    refine h w' hw' q fun root hroot id hid => ?_
    exact Bool.eq_false_iff.mpr fun hqid => (hq id).mp hqid root hroot hid
  have hx := (hq x).mpr fun root hroot => (hxy root hroot).1
  have hy := (hq y).mpr fun root hroot => (hxy root hroot).2
  rw [← above_filter (l := w.space.ids) hx hy, ← hfilter, above_filter hx hy]

/-- An empty space among windows with these parents. -/
def empty (parents : Id → Option Id) (viewSize : Size) (workingArea : Rectangle) (scale : ℚ)
    (options : Options) : World Id :=
  ⟨parents, .new viewSize workingArea scale options⟩

theorem empty_inv {parents : Id → Option Id} (hforest : Forest parents) (viewSize : Size)
    (workingArea : Rectangle) (scale : ℚ) (options : Options) :
    (empty parents viewSize workingArea scale options).Inv :=
  ⟨new_inv viewSize workingArea scale options, hforest,
    ⟨(fun tile htile => by cases htile), List.Pairwise.nil⟩⟩

/-- **The stacking order.**  Along every run from an empty space, whatever the windows' parents
and however they change: a floating window lies above every ancestor that it has through floating
windows; windows that are not related to the one an operation is about keep their order; and an
active window is there exactly when the space is not empty. -/
theorem stackingOrder {parents : Id → Option Id} (hforest : Forest parents) (viewSize : Size)
    (workingArea : Rectangle) (scale : ℚ) (options : Options) (ops : List (Op Id))
    (hready : Run.Along step Ready (empty parents viewSize workingArea scale options) ops) :
    Run.Always step WellStacked (empty parents viewSize workingArea scale options) ops ∧
      Run.Along step KeepsOthers (empty parents viewSize workingArea scale options) ops := by
  have hstart := empty_inv hforest viewSize workingArea scale options
  have hkeep : ∀ (w : World Id) op w', w.Inv → w.Ready op → w.step op = some w' → w'.Inv :=
    fun w op w' hw hop hstep => (step_inv hw op hop w' hstep).1
  refine ⟨hready.always hkeep (fun w hw => hw.wellStacked) hstart,
    hready.of_invariant hkeep (fun w op _ hw hop _ => ?_) hstart⟩
  exact keepsOthers_of_kept ((step_inv hw op hop).mono fun _ h => h.2)

/-! ### An ancestor through a window that does not float -/

/-- What can be checked of `Ready`, while no parent changes. -/
def ReadyFixed (w : World Id) : Op Id → Prop
  | .addTile tile _ | .addTileAbove _ tile _ =>
    tile.id ∉ w.space.ids ∧ tile.window.parent = w.parents tile.id
  | .setParent _ _ => False
  | _ => True

instance (w : World Id) (op : Op Id) : Decidable (w.ReadyFixed op) := by
  cases op <;> unfold ReadyFixed <;> infer_instance

theorem ReadyFixed.ready {op : Op Id} (h : w.ReadyFixed op) : w.Ready op := by
  cases op with
  | setParent child parent => exact h.elim
  | addTile | addTileAbove => exact h
  | _ => trivial

/-- Window 3 is a child of 2, and 2 of 1. -/
def chain : ℕ → Option ℕ
  | 3 => some 2
  | 2 => some 1
  | _ => none

theorem chain_forest : Forest chain := by
  have hstep : ∀ a b, chain a = some b → b < a := by
    intro a b hab
    unfold chain at hab
    split at hab <;> cases hab <;> decide
  have hlt : ∀ a b, Relation.TransGen (fun a b => chain a = some b) a b → b < a := by
    intro a b hab
    induction hab with
    | single hab => exact hstep _ _ hab
    | tail _ hbc ih => exact (hstep _ _ hbc).trans ih
  exact fun id hid => lt_irrefl id (hlt id id hid)

/-- A tile of the window with this number. -/
def chainTile (id : ℕ) : Tile ℕ :=
  .new ⟨id, chain id, ⟨⟨100, 100⟩, ⟨0, 0⟩, ⟨0, 0⟩, .normal, {}, false⟩, .normal⟩ ⟨1280, 720⟩ 1
    Options.default

def chainStart : World ℕ := empty chain ⟨1280, 720⟩ ⟨0, 0, ⟨1280, 720⟩⟩ 1 Options.default

/-- The chain floats; the window in the middle goes to the tiling layout, and the lowest one is
activated. -/
def chainRun : List (Op ℕ) :=
  [.addTile (chainTile 1) true, .addTile (chainTile 2) true, .addTile (chainTile 3) true,
    .removeTile 2 none, .activateWindow 1]

theorem chainRun_ready : Run.Along step Ready chainStart chainRun :=
  Run.Along.mono (fun _ _ h => h.ready)
    (show Run.Along step ReadyFixed chainStart chainRun by decide +kernel)

theorem chain_stacked :
    Run.Always step WellStacked chainStart chainRun ∧
      Run.Along step KeepsOthers chainStart chainRun :=
  stackingOrder chain_forest ⟨1280, 720⟩ ⟨0, 0, ⟨1280, 720⟩⟩ 1 Options.default chainRun
    chainRun_ready

/-- **A grandparent covers a grandchild** when the window between them does not float. -/
theorem grandchild_below :
    ¬∀ (parents : ℕ → Option ℕ) (ops : List (Op ℕ)), Forest parents →
      Run.Along step Ready (empty parents ⟨1280, 720⟩ ⟨0, 0, ⟨1280, 720⟩⟩ 1 Options.default) ops →
      Run.Always step (fun w => ∀ x ∈ w.space.ids, ∀ y ∈ w.space.ids,
          Relation.TransGen (fun a b => w.parents a = some b) x y → Above w.space.ids x y)
        (empty parents ⟨1280, 720⟩ ⟨0, 0, ⟨1280, 720⟩⟩ 1 Options.default) ops := by
  intro hall
  have halways := hall chain chainRun chain_forest chainRun_ready
  have hend : (Run.exec step chainStart chainRun).map
      (fun w => (w.space.ids, w.parents 3, w.parents 2)) = some ([1, 3], some 2, some 1) := by
    decide +kernel
  obtain ⟨w, hw, hview⟩ := map_eq_some_iff.mp hend
  simp only [Prod.mk.injEq] at hview
  obtain ⟨hids, h3, h2⟩ := hview
  have habove := halways.finish hw 3 (by simp [hids]) 1 (by simp [hids])
    (.head h3 (.single h2))
  rw [hids] at habove
  exact absurd habove (by unfold Above; decide)

end World

end Tiri.Layout.FloatingSpace
