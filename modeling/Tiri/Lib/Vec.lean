import Mathlib.Data.List.Perm.Basic
import Mathlib.Data.List.Nodup
import Mathlib.Data.List.Infix
import Mathlib.Data.List.MinMax

/-!
# Growable arrays that fail out of range

A list with the four index operations of a growable array whose run-time check aborts the
program: every operation returns `none` where the check would abort.  Each operation has one
*split* lemma, which says what a successful call did in terms of `l ++ x :: r`.

Results:
* `removeAt_eq_some`, `insertAt_eq_some`, `modifyAt_eq_some`, `swap_perm`:
  what each operation does;
* `swapRemove_append`, `swapRemoveAll_append`: swap-removal, one position after another;
* `removeAt_perm`, `insertAt_perm`: removal and insertion, as permutations;
* `getElem?_moveTo`: where each element is after one of them is moved;
* `insertIdx_eraseIdx`, `eraseIdx_insertIdx`: an element taken out and another one put in.
-/

namespace Tiri.Vec

open Option
open List hiding map_map pure_def

variable {α β : Type*}

variable (xs : List α)

/-- Remove and return the element at `i`, shifting the rest left. -/
def removeAt (i : ℕ) : Option (α × List α) :=
  xs[i]?.map fun x => (x, xs.eraseIdx i)

/-- Insert `a` before position `i`; `i` may be one past the end. -/
def insertAt (i : ℕ) (a : α) : Option (List α) :=
  if i ≤ xs.length then some (xs.insertIdx i a) else none

/-- Replace the element at `i` by what `f` makes of it; `f` itself may abort. -/
def modifyAt (i : ℕ) (f : α → Option α) : Option (List α) :=
  xs[i]?.bind fun x => (f x).map fun y => xs.set i y

/-- Exchange the elements at `i` and `j`. -/
def swap (i j : ℕ) : Option (List α) :=
  xs[i]?.bind fun x => xs[j]?.map fun y => (xs.set i y).set j x

/-- Remove and return the element at `i`; the last element takes its place. -/
def swapRemove (i : ℕ) : Option (α × List α) := do
  let removed ← xs[i]?
  let last ← xs.getLast?
  return (removed, (xs.set i last).dropLast)

/-- Swap-remove the elements at the positions `is`, one after another. -/
def swapRemoveAll (xs : List α) : List ℕ → Option (List α × List α)
  | [] => some ([], xs)
  | i :: is => do
    let (x, xs) ← swapRemove xs i
    let (removed, xs) ← swapRemoveAll xs is
    return (x :: removed, xs)

/-- The last index; asking an empty array for it aborts. -/
def lastIdx : Option ℕ :=
  if xs.length = 0 then none else some (xs.length - 1)

/-- The last position that satisfies `p`. -/
def rposition (p : α → Bool) (xs : List α) : Option ℕ :=
  (xs.reverse.findIdx? p).map (xs.length - 1 - ·)

/-- Update the elements of one array by those of another, in step, until either ends. -/
def zipUpdate (f : α → β → α) : List α → List β → List α
  | a :: as, b :: bs => f a b :: zipUpdate f as bs
  | as, _ => as

/-! ## What a position says about the list -/

variable {i : ℕ} {x : α}

theorem getElem?_eq_some_split {xs : List α} :
    xs[i]? = some x ↔ ∃ l r, xs = l ++ x :: r ∧ l.length = i := by
  constructor
  · intro h
    obtain ⟨hi, rfl⟩ := List.getElem?_eq_some_iff.mp h
    refine ⟨xs.take i, xs.drop (i + 1), ?_, length_take_of_le hi.le⟩
    rw [← drop_eq_getElem_cons hi, take_append_drop]
  · rintro ⟨l, r, rfl, rfl⟩
    simp

variable (l r : List α)

theorem getElem?_append_length (x : α) : (l ++ x :: r)[l.length]? = some x := by
  simp

theorem eraseIdx_append_length (x : α) : (l ++ x :: r).eraseIdx l.length = l ++ r := by
  simp [eraseIdx_append_of_length_le]

theorem set_append_length (x y : α) : (l ++ x :: r).set l.length y = l ++ y :: r := by
  simp

theorem insertIdx_append_length (a : α) : (l ++ r).insertIdx l.length a = l ++ a :: r := by
  induction l with
  | nil => simp
  | cons x l ih => simp [ih]

/-! ## The operations, by splitting -/

theorem removeAt_eq_some {xs ys : List α} :
    removeAt xs i = some (x, ys) ↔
      ∃ l r, xs = l ++ x :: r ∧ l.length = i ∧ ys = l ++ r := by
  unfold removeAt
  constructor
  · intro h
    obtain ⟨z, hz, hzx⟩ := map_eq_some_iff.mp h
    rw [getElem?_eq_some_split] at hz
    obtain ⟨l, r, rfl, rfl⟩ := hz
    rw [eraseIdx_append_length, Prod.mk.injEq] at hzx
    exact ⟨l, r, by rw [hzx.1], rfl, hzx.2.symm⟩
  · rintro ⟨l, r, rfl, rfl, rfl⟩
    rw [getElem?_append_length, map_some, eraseIdx_append_length]

variable {a : α}

theorem insertAt_eq_some {xs ys : List α} :
    insertAt xs i a = some ys ↔
      ∃ l r, xs = l ++ r ∧ l.length = i ∧ ys = l ++ a :: r := by
  unfold insertAt
  constructor
  · intro h
    split_ifs at h with hi
    refine ⟨xs.take i, xs.drop i, (take_append_drop i xs).symm, length_take_of_le hi, ?_⟩
    have key := insertIdx_append_length (xs.take i) (xs.drop i) a
    rw [take_append_drop, length_take, min_eq_left hi] at key
    rw [← key]
    exact (some.inj h).symm
  · rintro ⟨l, r, rfl, rfl, rfl⟩
    rw [insertIdx_append_length, length_append, if_pos (Nat.le_add_right ..)]

variable {f : α → Option α}

theorem modifyAt_eq_some {xs ys : List α} :
    modifyAt xs i f = some ys ↔
      ∃ l x y r, xs = l ++ x :: r ∧ l.length = i ∧ f x = some y ∧ ys = l ++ y :: r := by
  unfold modifyAt
  constructor
  · intro h
    obtain ⟨x, hx, hxy⟩ := bind_eq_some_iff.mp h
    obtain ⟨y, hy, rfl⟩ := map_eq_some_iff.mp hxy
    rw [getElem?_eq_some_split] at hx
    obtain ⟨l, r, rfl, rfl⟩ := hx
    exact ⟨l, x, y, r, rfl, rfl, hy, set_append_length l r x y⟩
  · rintro ⟨l, x, y, r, rfl, rfl, hf, rfl⟩
    rw [getElem?_append_length, bind_some, hf, map_some, set_append_length]

theorem removeAt_length {xs ys : List α} (h : removeAt xs i = some (x, ys)) :
    xs.length = ys.length + 1 ∧ i < xs.length := by
  rw [removeAt_eq_some] at h
  obtain ⟨l, r, rfl, rfl, rfl⟩ := h
  rw [length_append, length_append, length_cons]
  omega

theorem insertAt_length {xs ys : List α} (h : insertAt xs i a = some ys) :
    ys.length = xs.length + 1 ∧ i ≤ xs.length := by
  rw [insertAt_eq_some] at h
  obtain ⟨l, r, rfl, rfl, rfl⟩ := h
  rw [length_append, length_append, length_cons]
  omega

theorem modifyAt_length {xs ys : List α} (h : modifyAt xs i f = some ys) :
    ys.length = xs.length ∧ i < xs.length := by
  rw [modifyAt_eq_some] at h
  obtain ⟨l, x, y, r, rfl, rfl, -, rfl⟩ := h
  simp

theorem removeAt_perm {xs ys : List α} (h : removeAt xs i = some (x, ys)) : xs.Perm (x :: ys) := by
  rw [removeAt_eq_some] at h
  obtain ⟨l, r, rfl, -, rfl⟩ := h
  exact perm_middle

theorem insertAt_perm {xs ys : List α} (h : insertAt xs i a = some ys) : ys.Perm (a :: xs) := by
  rw [insertAt_eq_some] at h
  obtain ⟨l, r, rfl, -, rfl⟩ := h
  exact perm_middle

/-! ## Swap-removal -/

/-- Swap-removal removes the element and permutes only what came after it. -/
theorem swapRemove_append (x : α) :
    ∃ r', swapRemove (l ++ x :: r) l.length = some (x, l ++ r') ∧ r'.Perm r := by
  rcases eq_nil_or_concat r with rfl | ⟨front, last, rfl⟩
  · refine ⟨[], ?_, List.Perm.refl []⟩
    simp [swapRemove]
  · refine ⟨last :: front, ?_, ?_⟩
    · have hlast : (l ++ x :: (front ++ [last])).getLast? = some last := by
        rw [← cons_append, ← append_assoc, List.getLast?_concat]
      have hset : (l ++ x :: (front ++ [last])).set l.length last =
          (l ++ last :: front) ++ [last] := by simp
      simp only [swapRemove, concat_eq_append, getElem?_append_length, hlast, hset,
        dropLast_concat, bind_eq_bind, bind_some, pure_def]
    · rw [concat_eq_append]
      exact (perm_append_singleton last front).symm

theorem swapRemoveAll_append (xs : List α) (is js : List ℕ) :
    swapRemoveAll xs (is ++ js) = (swapRemoveAll xs is).bind fun p =>
      (swapRemoveAll p.2 js).map fun q => (p.1 ++ q.1, q.2) := by
  induction is generalizing xs with
  | nil => simp [swapRemoveAll]
  | cons i is ih =>
    simp only [cons_append, swapRemoveAll, ih]
    cases swapRemove xs i with
    | none => rfl
    | some p =>
      simp only [bind_eq_bind, bind_some]
      cases swapRemoveAll p.2 is with
      | none => rfl
      | some q => cases h : swapRemoveAll q.2 js <;> simp [h]

/-! ## Two arrays kept in step -/

theorem removeAt_map (f : α → β) (xs : List α) (i : ℕ) :
    removeAt (xs.map f) i = (removeAt xs i).map fun p => (f p.1, p.2.map f) := by
  unfold removeAt
  simp [List.getElem?_map, eraseIdx_map, map_map, Function.comp_def]

theorem insertAt_map (f : α → β) (xs : List α) (i : ℕ) (a : α) :
    insertAt (xs.map f) i (f a) = (insertAt xs i a).map (List.map f) := by
  cases h : insertAt xs i a with
  | none =>
    simp only [insertAt] at h ⊢
    split_ifs at h with hi
    simp [hi]
  | some ys =>
    rw [insertAt_eq_some] at h
    obtain ⟨l, r, rfl, rfl, rfl⟩ := h
    rw [map_some, insertAt_eq_some]
    exact ⟨l.map f, r.map f, by simp, by simp, by simp⟩

@[simp] theorem zipUpdate_cons (f : α → β → α) (a : α) (as : List α) (b : β) (bs : List β) :
    zipUpdate f (a :: as) (b :: bs) = f a b :: zipUpdate f as bs :=
  rfl

@[simp] theorem zipUpdate_length (f : α → β → α) (as : List α) (bs : List β) :
    (zipUpdate f as bs).length = as.length := by
  induction as generalizing bs with
  | nil => cases bs <;> rfl
  | cons a as ih =>
    cases bs with
    | nil => rfl
    | cons b bs => simp [ih]

variable {as : List α} {bs : List β}

theorem zipUpdate_eq_map (f : α → α) (h : as.length = bs.length) :
    zipUpdate (fun a _ => f a) as bs = as.map f := by
  induction as generalizing bs with
  | nil => cases bs <;> rfl
  | cons a as ih =>
    cases bs with
    | nil => simp at h
    | cons b bs => simp [ih (by simpa using h)]

variable {f : α → β → α}

theorem mem_zipUpdate (h : as.length ≤ bs.length) (hx : x ∈ zipUpdate f as bs) :
    ∃ a ∈ as, ∃ b ∈ bs, x = f a b := by
  induction as generalizing bs with
  | nil => cases bs <;> cases hx
  | cons a as ih =>
    cases bs with
    | nil => simp at h
    | cons b bs =>
      rcases mem_cons.mp hx with rfl | hx
      · exact ⟨a, by simp, b, by simp, rfl⟩
      · obtain ⟨a', ha', b', hb', rfl⟩ := ih (by simpa using h) hx
        exact ⟨a', by simp [ha'], b', by simp [hb'], rfl⟩

/-- A view that the update leaves alone is left alone in every element. -/
theorem map_zipUpdate {γ : Type*} {g : α → γ} (h : ∀ a b, g (f a b) = g a) (as : List α)
    (bs : List β) : (zipUpdate f as bs).map g = as.map g := by
  induction as generalizing bs with
  | nil => cases bs <;> rfl
  | cons a as ih =>
    cases bs with
    | nil => rfl
    | cons b bs => simp [h, ih]

/-- A view that the update takes over from the other array is that array's. -/
theorem map_zipUpdate_right {γ : Type*} {g : α → γ} {k : β → γ} (h : ∀ a b, g (f a b) = k b)
    (hlen : as.length = bs.length) : (zipUpdate f as bs).map g = bs.map k := by
  induction as generalizing bs with
  | nil =>
    cases bs with
    | nil => rfl
    | cons b bs => simp at hlen
  | cons a as ih =>
    cases bs with
    | nil => simp at hlen
    | cons b bs => simp [h, ih (by simpa using hlen)]

/-! ## Searching -/

variable {p : α → Bool}

/-- What holds of at most one element holds at one position only. -/
theorem eq_of_countP_le_one {xs : List α} (h : xs.countP p ≤ 1) {i j : ℕ} (hi : i < xs.length)
    (hj : j < xs.length) (hpi : p xs[i] = true) (hpj : p xs[j] = true) : i = j := by
  by_contra hne
  wlog hlt : i < j generalizing i j
  · exact this hj hi hpj hpi (Ne.symm hne) (by omega)
  have hbefore : 0 < (xs.take j).countP p :=
    countP_pos_iff.mpr ⟨xs[i], mem_take_iff_getElem.mpr ⟨i, by omega, rfl⟩, hpi⟩
  have hafter : 0 < (xs.drop j).countP p :=
    countP_pos_iff.mpr ⟨xs[j], mem_drop_iff_getElem.mpr ⟨0, by omega, by simp⟩, hpj⟩
  have hsplit : xs.countP p = (xs.take j).countP p + (xs.drop j).countP p := by
    rw [← countP_append, take_append_drop]
  omega

theorem rposition_lt {xs : List α} (h : rposition p xs = some i) : i < xs.length := by
  unfold rposition at h
  obtain ⟨j, hj, rfl⟩ := map_eq_some_iff.mp h
  have hlt : j < xs.reverse.length := (List.findIdx?_eq_some_iff_getElem.mp hj).1
  rw [length_reverse] at hlt
  omega

theorem position_lt {xs : List α} (h : xs.findIdx? p = some i) : i < xs.length :=
  (List.findIdx?_eq_some_iff_getElem.mp h).1

/-! ## Exchanging neighbours -/

/-- Exchanging two elements permutes the list. -/
theorem swap_perm {xs ys : List α} {i j : ℕ} (h : swap xs i j = some ys) : ys.Perm xs := by
  unfold swap at h
  obtain ⟨x, hx, h⟩ := bind_eq_some_iff.mp h
  obtain ⟨y, hy, rfl⟩ := map_eq_some_iff.mp h
  obtain ⟨hi, rfl⟩ := List.getElem?_eq_some_iff.mp hx
  obtain ⟨hj, rfl⟩ := List.getElem?_eq_some_iff.mp hy
  exact set_set_perm hi hj

theorem swap_map (f : α → β) (xs : List α) (i j : ℕ) :
    swap (xs.map f) i j = (swap xs i j).map (List.map f) := by
  unfold swap
  cases hi : xs[i]? <;> cases hj : xs[j]? <;> simp [hi, hj, map_set]

/-- The largest element does not depend on the order. -/
theorem max?_perm [LinearOrder α] {xs ys : List α} (h : ys.Perm xs) : ys.max? = xs.max? := by
  cases hx : xs.max? with
  | none =>
    rw [List.max?_eq_none_iff] at hx ⊢
    rw [hx] at h
    exact h.eq_nil
  | some m =>
    rw [List.max?_eq_some_iff] at hx ⊢
    exact ⟨h.mem_iff.mpr hx.1, fun b hb => hx.2 b (h.mem_iff.mp hb)⟩

/-- A successful exchange had both positions in range. -/
theorem swap_lt {xs ys : List α} {i j : ℕ} (h : swap xs i j = some ys) :
    i < xs.length ∧ j < xs.length := by
  unfold swap at h
  obtain ⟨x, hx, h⟩ := bind_eq_some_iff.mp h
  obtain ⟨y, hy, -⟩ := map_eq_some_iff.mp h
  exact ⟨(List.getElem?_eq_some_iff.mp hx).1, (List.getElem?_eq_some_iff.mp hy).1⟩

/-! ## Moving one element -/

/-- Take out the element at `i`, and put it in at `j`. -/
def moveTo (i j : ℕ) : List α :=
  match xs[i]? with
  | some x => (xs.eraseIdx i).insertIdx j x
  | none => xs

/-- Where the element at `k` is after the one at `i` is moved to `j`. -/
def movedIdx (i j k : ℕ) : ℕ :=
  if k = i then j
  else if i < k ∧ k ≤ j then k - 1
  else if j ≤ k ∧ k < i then k + 1
  else k

variable {xs ys : List α} {i j k : ℕ}

theorem moveTo_of_le (h : xs.length ≤ i) : moveTo xs i j = xs := by
  unfold moveTo
  rw [List.getElem?_eq_none h]

theorem moveTo_of_lt (h : i < xs.length) :
    moveTo xs i j = (xs.eraseIdx i).insertIdx j (xs.get ⟨i, h⟩) := by
  unfold moveTo
  rw [List.getElem?_eq_getElem h]
  rfl

theorem getElem?_moveTo (hi : i < xs.length) (hj : j < xs.length) :
    (moveTo xs i j)[movedIdx i j k]? = xs[k]? := by
  have hlen : (xs.eraseIdx i).length = xs.length - 1 := length_eraseIdx_of_lt hi
  rw [moveTo_of_lt hi, List.getElem?_insertIdx]
  unfold movedIdx
  split_ifs <;> first
    | omega
    | (rw [List.getElem?_eraseIdx]; split_ifs <;> first | omega | rfl | (congr 1; omega))
    | simp_all

theorem moveTo_perm (hj : j < xs.length) : (moveTo xs i j).Perm xs := by
  rcases lt_or_ge i xs.length with hi | hi
  · have hlen : (xs.eraseIdx i).length = xs.length - 1 := length_eraseIdx_of_lt hi
    rw [moveTo_of_lt hi]
    refine (perm_insertIdx _ _ (by omega)).trans ?_
    exact getElem_cons_eraseIdx_perm hi
  · rw [moveTo_of_le hi]

@[simp] theorem length_moveTo (hj : j < xs.length) : (moveTo xs i j).length = xs.length :=
  (moveTo_perm hj).length_eq

@[simp] theorem moveTo_self : moveTo xs i i = xs := by
  rcases lt_or_ge i xs.length with hi | hi
  · obtain ⟨l, r, hxs, rfl⟩ := getElem?_eq_some_split.mp (List.getElem?_eq_getElem hi)
    rw [moveTo_of_lt hi, get_eq_getElem]
    generalize xs[l.length] = x at hxs
    subst hxs
    rw [eraseIdx_append_length, insertIdx_append_length]
  · exact moveTo_of_le hi

/-- A list around two neighbours. -/
theorem exists_neighbours (h : i + 1 < xs.length) :
    ∃ (l : List α) (x y : α) (r : List α), xs = l ++ x :: y :: r ∧ l.length = i := by
  obtain ⟨y, hy⟩ : ∃ y, xs[i + 1]? = some y := ⟨_, List.getElem?_eq_getElem h⟩
  rw [getElem?_eq_some_split] at hy
  obtain ⟨l, r, rfl, hl⟩ := hy
  have hne : l ≠ [] := by
    rintro rfl
    cases hl
  refine ⟨l.dropLast, l.getLast hne, y, r, ?_, ?_⟩
  · rw [append_cons l.dropLast, dropLast_append_getLast hne]
  · rw [length_dropLast, hl, Nat.add_sub_cancel]

/-- Exchanging neighbours moves either of them. -/
theorem swap_neighbours (h : i + 1 < xs.length) :
    swap xs i (i + 1) = some (moveTo xs i (i + 1)) ∧
      swap xs (i + 1) i = some (moveTo xs (i + 1) i) := by
  obtain ⟨l, x, y, r, rfl, rfl⟩ := exists_neighbours h
  have hx : (l ++ x :: y :: r)[l.length]? = some x := getElem?_append_length l _ x
  have hy : (l ++ x :: y :: r)[l.length + 1]? = some y := by
    have := getElem?_append_length (l ++ [x]) r y
    rwa [length_append, append_assoc] at this
  have herase : (l ++ x :: y :: r).eraseIdx (l.length + 1) = l ++ x :: r := by
    have := eraseIdx_append_length (l ++ [x]) r y
    rwa [length_append, append_assoc, append_assoc] at this
  have hinsert : (l ++ y :: r).insertIdx (l.length + 1) x = l ++ y :: x :: r := by
    have := insertIdx_append_length (l ++ [y]) r x
    rwa [length_append, append_assoc, append_assoc] at this
  constructor
  · rw [swap, hx, bind_some, hy, map_some, set_append_length, moveTo, hx]
    dsimp only
    rw [eraseIdx_append_length, hinsert]
    simp
  · rw [swap, hy, bind_some, hx, map_some, moveTo, hy]
    dsimp only
    rw [herase, insertIdx_append_length]
    simp

/-! ## Taking one out and putting another one in -/

theorem insertIdx_eraseIdx {xs : List α} {i : ℕ} (hi : i < xs.length) (a : α) :
    (xs.eraseIdx i).insertIdx i a = xs.set i a := by
  obtain ⟨l, r, hxs, rfl⟩ := getElem?_eq_some_split.mp (List.getElem?_eq_getElem hi)
  rw [hxs, eraseIdx_append_length, insertIdx_append_length, set_append_length]

/-- The new element goes first, and what it has pushed aside is taken out. -/
theorem eraseIdx_insertIdx {xs : List α} {i : ℕ} (hi : i < xs.length) (a : α) :
    (xs.insertIdx i a).eraseIdx (i + 1) = xs.set i a := by
  obtain ⟨l, r, hxs, rfl⟩ := getElem?_eq_some_split.mp (List.getElem?_eq_getElem hi)
  rw [hxs, insertIdx_append_length, set_append_length]
  have herase := eraseIdx_append_length (l ++ [a]) r xs[l.length]
  rw [length_append, length_singleton] at herase
  simpa using herase

/-- Neighbours, the left one taken out and put back. -/
theorem insertIdx_set_eraseIdx {xs : List α} {i : ℕ} (hi : i + 1 < xs.length) (a b : α) :
    ((xs.eraseIdx i).set i b).insertIdx i a = (xs.set i a).set (i + 1) b := by
  apply ext_getElem?
  intro k
  simp only [List.getElem?_insertIdx, List.getElem?_set, List.getElem?_eraseIdx, length_set,
    length_eraseIdx_of_lt (Nat.lt_of_succ_lt hi)]
  grind

/-- Neighbours, the right one taken out and put back. -/
theorem insertIdx_set_eraseIdx_succ {xs : List α} {i : ℕ} (hi : i + 1 < xs.length) (a b : α) :
    ((xs.eraseIdx (i + 1)).set i b).insertIdx (i + 1) a = (xs.set (i + 1) a).set i b := by
  apply ext_getElem?
  intro k
  simp only [List.getElem?_insertIdx, List.getElem?_set, List.getElem?_eraseIdx, length_set,
    length_eraseIdx_of_lt hi]
  grind

end Tiri.Vec
