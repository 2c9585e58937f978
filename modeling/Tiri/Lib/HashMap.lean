import Mathlib.Data.Finmap

/-!
# Hash maps

A hash map is a finite map, compared by what it holds.  The order in which it is iterated is
not part of it: code that iterates takes an enumeration of the keys as an argument, and its
properties hold for every enumeration.

Results:
* `lookup_mapValues`: changing every value;
* `lookup_collect`, `lookup_collect_of_notMem`: a map collected from pairs with distinct keys;
* `collect_values`: collecting the values of a map under their keys gives the map back.
-/

namespace Tiri

open Option List Finmap
open Bool hiding not_or

/-- `HashMap<K, V>`. -/
abbrev HashMap (K V : Type) := Finmap fun _ : K => V

namespace HashMap

variable {K V : Type}

/-- Change every value: a loop over `values_mut()` whose body depends on the value only. -/
def mapValues (f : V → V) (m : HashMap K V) : HashMap K V where
  entries := m.entries.map fun entry => ⟨entry.1, f entry.2⟩
  nodupKeys := by
    have h := m.nodupKeys
    rw [Multiset.nodup_keys.symm] at h ⊢
    unfold Multiset.keys at h ⊢
    rw [Multiset.map_map]
    exact h

/-- Change every value by its key: a loop over `iter_mut()`. -/
def mapEntries (f : K → V → V) (m : HashMap K V) : HashMap K V where
  entries := m.entries.map fun entry => ⟨entry.1, f entry.1 entry.2⟩
  nodupKeys := by
    have h := m.nodupKeys
    rw [Multiset.nodup_keys.symm] at h ⊢
    unfold Multiset.keys at h ⊢
    rw [Multiset.map_map]
    exact h

/-- A map with the keys of a set. -/
def tabulate (s : Finset K) (f : K → V) : HashMap K V where
  entries := s.val.map fun k => ⟨k, f k⟩
  nodupKeys := by
    rw [← Multiset.nodup_keys]
    unfold Multiset.keys
    rw [Multiset.map_map]
    simpa using s.nodup

/-- `values().all(f)`. -/
def all (f : V → Bool) (m : HashMap K V) : Bool :=
  m.entries.countP (fun entry => f entry.2 = false) == 0

/-- `values().any(f)`. -/
def anyValue (f : V → Bool) (m : HashMap K V) : Bool := !all (fun v => !f v) m

def isEmpty (m : HashMap K V) : Bool := m.entries.card == 0

variable [DecidableEq K]

theorem lookup_tabulate (s : Finset K) (f : K → V) (k : K) :
    (tabulate s f).lookup k = if k ∈ s then some (f k) else none := by
  by_cases hk : k ∈ s
  · rw [if_pos hk, Finmap.lookup_eq_some_iff]
    exact Multiset.mem_map.mpr ⟨k, hk, rfl⟩
  · rw [if_neg hk, eq_none_iff_forall_ne_some]
    intro v hv
    rw [Finmap.lookup_eq_some_iff] at hv
    obtain ⟨k', hk', heq⟩ := Multiset.mem_map.mp hv
    cases heq
    exact hk hk'

variable {m : HashMap K V} {f : V → Bool}

theorem all_eq_true : all f m = true ↔ ∀ k v, m.lookup k = some v → f v = true := by
  unfold all
  rw [beq_iff_eq, Multiset.countP_eq_zero]
  constructor
  · intro h k v hk
    exact eq_true_of_not_eq_false (h ⟨k, v⟩ (Finmap.lookup_eq_some_iff.mp hk))
  · intro h entry hentry
    rw [h entry.1 entry.2 (Finmap.lookup_eq_some_iff.mpr hentry)]
    exact Bool.noConfusion

theorem anyValue_eq_true : anyValue f m = true ↔ ∃ k v, m.lookup k = some v ∧ f v = true := by
  unfold anyValue
  rw [not_eq_true', ← not_eq_true, all_eq_true]
  push Not
  simp only [not_eq_true', ne_eq, not_eq_false]

theorem isEmpty_eq_true : isEmpty m = true ↔ ∀ k, m.lookup k = none := by
  unfold isEmpty
  rw [beq_iff_eq, Multiset.card_eq_zero]
  constructor
  · intro h k
    rw [eq_none_iff_forall_ne_some]
    intro v hk
    have hmem := Finmap.lookup_eq_some_iff.mp hk
    rw [h] at hmem
    exact Multiset.notMem_zero _ hmem
  · intro h
    rw [Multiset.eq_zero_iff_forall_notMem]
    intro entry hentry
    have hk := Finmap.lookup_eq_some_iff.mpr (hentry : (⟨entry.1, entry.2⟩ : Sigma _) ∈ m.entries)
    rw [h] at hk
    cases hk

/-- A map that is not empty holds something. -/
theorem exists_lookup (h : m ≠ ∅) : ∃ k v, m.lookup k = some v := by
  by_contra hnone
  push Not at hnone
  refine h (ext_lookup fun k => ?_)
  rw [lookup_empty, eq_none_iff_forall_ne_some]
  exact hnone k

@[simp] theorem lookup_mapValues (f : V → V) (m : HashMap K V) (k : K) :
    (mapValues f m).lookup k = (m.lookup k).map f := by
  ext v
  rw [Finmap.lookup_eq_some_iff, map_eq_some_iff]
  simp only [mapValues, Multiset.mem_map, Finmap.lookup_eq_some_iff]
  constructor
  · rintro ⟨⟨k', v'⟩, hmem, heq⟩
    obtain ⟨rfl, hv⟩ := Sigma.mk.inj heq
    exact ⟨v', hmem, eq_of_heq hv⟩
  · rintro ⟨v', hmem, rfl⟩
    exact ⟨⟨k, v'⟩, hmem, rfl⟩

@[simp] theorem lookup_mapEntries (f : K → V → V) (m : HashMap K V) (k : K) :
    (mapEntries f m).lookup k = (m.lookup k).map (f k) := by
  ext v
  rw [Finmap.lookup_eq_some_iff, map_eq_some_iff]
  simp only [mapEntries, Multiset.mem_map, Finmap.lookup_eq_some_iff]
  constructor
  · rintro ⟨⟨k', v'⟩, hmem, heq⟩
    obtain ⟨rfl, hv⟩ := Sigma.mk.inj heq
    exact ⟨v', hmem, eq_of_heq hv⟩
  · rintro ⟨v', hmem, rfl⟩
    exact ⟨⟨k, v'⟩, hmem, rfl⟩

variable {v : V}

/-- What is left when a key is erased was there. -/
theorem lookup_of_erase {k k' : K} (h : (m.erase k).lookup k' = some v) : m.lookup k' = some v := by
  by_cases heq : k' = k
  · subst heq
    rw [lookup_erase] at h
    cases h
  · rw [lookup_erase_ne heq] at h
    exact h

/-- The maps have the same keys, and what they hold under a key is related. -/
def Related {W : Type} (R : V → W → Prop) (m : HashMap K V) (m' : HashMap K W) : Prop :=
  ∀ k, Option.Rel R (m.lookup k) (m'.lookup k)

variable {R : V → V → Prop}

theorem related_mapValues {f : V → V} (hf : ∀ v, R v (f v)) (m : HashMap K V) :
    Related R m (mapValues f m) := by
  intro k
  rw [lookup_mapValues]
  cases m.lookup k with
  | none => exact .none
  | some v => exact .some (hf v)

theorem Related.refl (hR : ∀ v, R v v) (m : HashMap K V) : Related R m m := by
  intro k
  cases m.lookup k with
  | none => exact .none
  | some v => exact .some (hR v)

theorem Related.trans {R R' R'' : V → V → Prop} {m m' m'' : HashMap K V} (h : Related R m m')
    (h' : Related R' m' m'') (hR : ∀ v v' v'', R v v' → R' v' v'' → R'' v v'') :
    Related R'' m m'' := by
  intro k
  have hk := h k
  have hk' := h' k
  generalize m.lookup k = a at hk
  generalize m'.lookup k = b at hk hk'
  generalize m''.lookup k = c at hk'
  cases hk with
  | none =>
    cases hk'
    exact .none
  | some hv =>
    cases hk' with
    | some hv' => exact .some (hR _ _ _ hv hv')

theorem Related.mono {R R' : V → V → Prop} {m m' : HashMap K V} (h : Related R m m')
    (hR : ∀ v v', R v v' → R' v v') : Related R' m m' := by
  intro k
  have hk := h k
  generalize m.lookup k = a at hk
  generalize m'.lookup k = b at hk
  cases hk with
  | none => exact .none
  | some hv => exact .some (hR _ _ hv)

variable {k : K}

/-- What is under a key of the second map came from the first. -/
theorem Related.lookup {m m' : HashMap K V} (h : Related R m m') {v' : V}
    (hk : m'.lookup k = some v') : ∃ v, m.lookup k = some v ∧ R v v' := by
  have hrel := h k
  rw [hk] at hrel
  generalize m.lookup k = a at hrel
  cases hrel with
  | some hv => exact ⟨_, rfl, hv⟩

theorem Related.lookup_left {m m' : HashMap K V} (h : Related R m m') (hk : m.lookup k = some v) :
    ∃ v', m'.lookup k = some v' ∧ R v v' := by
  have hrel := h k
  rw [hk] at hrel
  generalize m'.lookup k = a at hrel
  cases hrel with
  | some hv => exact ⟨_, rfl, hv⟩

/-- `entries.into_iter().collect()`: a later entry replaces an earlier one with its key. -/
def collect (entries : List (K × V)) : HashMap K V :=
  entries.foldl (fun m entry => m.insert entry.1 entry.2) ∅

variable {entries : List (K × V)}

theorem lookup_foldl_insert_of_notMem (h : k ∉ entries.map Prod.fst) (m : HashMap K V) :
    (entries.foldl (fun m entry => m.insert entry.1 entry.2) m).lookup k = m.lookup k := by
  induction entries generalizing m with
  | nil => rfl
  | cons entry entries ih =>
    rw [map_cons, mem_cons, not_or] at h
    rw [foldl_cons, ih h.2, lookup_insert_of_ne _ h.1]

theorem lookup_collect_of_notMem (h : k ∉ entries.map Prod.fst) :
    (collect entries).lookup k = none := by
  unfold collect
  rw [lookup_foldl_insert_of_notMem h, lookup_empty]

theorem lookup_foldl_insert (hnodup : (entries.map Prod.fst).Nodup) (h : (k, v) ∈ entries)
    (m : HashMap K V) :
    (entries.foldl (fun m entry => m.insert entry.1 entry.2) m).lookup k = some v := by
  obtain ⟨before, after, rfl⟩ := append_of_mem h
  rw [map_append, map_cons, nodup_append, nodup_cons] at hnodup
  rw [foldl_append, foldl_cons, lookup_foldl_insert_of_notMem hnodup.2.1.1]
  exact lookup_insert _

theorem lookup_collect (hnodup : (entries.map Prod.fst).Nodup) (h : (k, v) ∈ entries) :
    (collect entries).lookup k = some v :=
  lookup_foldl_insert hnodup h ∅

/-- The order lists the keys of the map, each of them once. -/
structure Enumerates (order : List K) (m : HashMap K V) : Prop where
  nodup : order.Nodup
  mem_iff : ∀ k, k ∈ order ↔ k ∈ m

/-- The order lists the keys of the map, each of them once, as can be checked. -/
def Lists (order : List K) (m : HashMap K V) : Prop := order.Nodup ∧ order.toFinset = m.keys

instance (order : List K) (m : HashMap K V) : Decidable (Lists order m) :=
  inferInstanceAs (Decidable (_ ∧ _))

variable {order : List K}

theorem Lists.mem_iff (h : Lists order m) : k ∈ order ↔ k ∈ m := by
  rw [← List.mem_toFinset, h.2, Finmap.mem_keys]

omit [DecidableEq K] in
theorem enumerates_empty : Enumerates ([] : List K) (∅ : HashMap K V) where
  nodup := nodup_nil
  mem_iff k := by simp [notMem_empty]

/-- `values()`, in the given order of the keys. -/
def values (m : HashMap K V) (order : List K) : List V := order.filterMap fun k => m.lookup k

/-- Whatever the order, the values are the same. -/
theorem Lists.perm_values {order order' : List K} (h : Lists order m) (h' : Lists order' m) :
    (values m order).Perm (values m order') := by
  have hperm : order.Perm order' :=
    (perm_ext_iff_of_nodup h.1 h'.1).mpr fun _ => h.mem_iff.trans h'.mem_iff.symm
  exact hperm.filterMap _

theorem mem_values (h : v ∈ values m order) : ∃ k, m.lookup k = some v := by
  obtain ⟨k, -, hk⟩ := mem_filterMap.mp h
  exact ⟨k, hk⟩

/-- Every value is stored under its own key. -/
def Keyed (key : V → K) (m : HashMap K V) : Prop :=
  ∀ k v, m.lookup k = some v → key v = k

theorem keyed_empty (key : V → K) : Keyed key (∅ : HashMap K V) := by
  intro k v h
  rw [lookup_empty] at h
  cases h

variable {key : V → K}

theorem Keyed.insert (h : Keyed key m) (hv : key v = k) : Keyed key (m.insert k v) := by
  intro k' w hk
  by_cases hkey : k' = k
  · rw [hkey, lookup_insert] at hk
    rw [hkey, ← some.inj hk, hv]
  · rw [lookup_insert_of_ne _ hkey] at hk
    exact h k' w hk

theorem Keyed.erase (h : Keyed key m) (k : K) : Keyed key (m.erase k) := by
  intro k' v hk
  by_cases hkey : k' = k
  · rw [hkey, lookup_erase] at hk
    cases hk
  · rw [lookup_erase_ne hkey] at hk
    exact h k' v hk

theorem Keyed.mapValues (h : Keyed key m) {f : V → V} (hf : ∀ v, key (f v) = key v) :
    Keyed key (mapValues f m) := by
  intro k v hk
  rw [lookup_mapValues] at hk
  obtain ⟨w, hw, rfl⟩ := map_eq_some_iff.mp hk
  rw [hf, h k w hw]

theorem Keyed.foldl_insert (vs : List V) (h : Keyed key m) :
    Keyed key ((vs.map fun v => (key v, v)).foldl (fun m entry => m.insert entry.1 entry.2) m) := by
  induction vs generalizing m with
  | nil => exact h
  | cons v vs ih => exact ih (h.insert rfl)

theorem keyed_collect (key : V → K) (vs : List V) :
    Keyed key (collect (vs.map fun v => (key v, v))) :=
  (keyed_empty key).foldl_insert vs

/-- **Collecting the values** of a map under their keys gives the map back. -/
theorem collect_values (h : Keyed key m) (horder : Enumerates order m) :
    collect ((values m order).map fun v => (key v, v)) = m := by
  have hkeys : ((values m order).map fun v => (key v, v)).map Prod.fst = order := by
    have hall : ∀ k ∈ order, ∃ v, m.lookup k = some v :=
      fun k hk => mem_iff.mp ((horder.mem_iff k).mp hk)
    rw [List.map_map]
    unfold values
    clear horder
    induction order with
    | nil => rfl
    | cons k order ih =>
      obtain ⟨v, hv⟩ := hall k (by simp)
      simp only [filterMap_cons, hv, map_cons, Function.comp_apply, h k v hv]
      rw [ih fun k' hk' => hall k' (mem_cons_of_mem _ hk')]
  apply ext_lookup
  intro k
  by_cases hk : k ∈ m
  · obtain ⟨v, hv⟩ := mem_iff.mp hk
    rw [hv]
    refine lookup_collect (by rw [hkeys]; exact horder.nodup) ?_
    rw [List.mem_map]
    exact ⟨v, mem_filterMap.mpr ⟨k, (horder.mem_iff k).mpr hk, hv⟩, by rw [h k v hv]⟩
  · rw [lookup_eq_none.mpr hk]
    refine lookup_collect_of_notMem ?_
    rw [hkeys, horder.mem_iff]
    exact hk

end HashMap

end Tiri
