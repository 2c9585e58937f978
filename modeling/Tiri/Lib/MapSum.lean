import Mathlib.Algebra.Order.BigOperators.Group.Multiset
import Tiri.Lib.HashMap

/-!
# Sums over hash maps

What the values of a map add up to, as its entries are replaced and removed.

Results:
* `sumValues_insert`, `sumValues_lookup`: one entry, apart from the others;
* `sumValues_mapValues`, `sumValues_retain`: the sum stays;
* `le_sumValues`, `exists_of_sumValues_ne_zero`: the sum and its terms.
-/

namespace Tiri.HashMap

open Finmap Multiset

variable {K V : Type}

/-- `values().map(g).sum()`. -/
def sumValues (g : V → ℕ) (m : HashMap K V) : ℕ := (m.entries.map fun entry => g entry.2).sum

/-- `retain(f)`. -/
def retain (f : K → V → Bool) (m : HashMap K V) : HashMap K V where
  entries := m.entries.filter fun entry => f entry.1 entry.2
  nodupKeys := by
    have h := nodup_keys.mpr m.nodupKeys
    rw [← nodup_keys]
    exact nodup_of_le (map_le_map (filter_le _ _)) h

theorem sumValues_mapValues {g : V → ℕ} {f : V → V} (hf : ∀ v, g (f v) = g v)
    (m : HashMap K V) : sumValues g (mapValues f m) = sumValues g m := by
  unfold sumValues mapValues
  rw [map_map]
  congr 1
  exact map_congr rfl fun entry _ => hf entry.2

variable [DecidableEq K] {m : HashMap K V} {k : K} {v : V} {g : V → ℕ}

theorem lookup_retain (f : K → V → Bool) (m : HashMap K V) (k : K) :
    (retain f m).lookup k = (m.lookup k).filter (f k) := by
  ext v
  rw [lookup_eq_some_iff, Option.filter_eq_some_iff, lookup_eq_some_iff]
  exact mem_filter

/-- The entry of a key that is put in, apart from the others. -/
theorem sumValues_insert (g : V → ℕ) (m : HashMap K V) (k : K) (v : V) :
    sumValues g (m.insert k v) = g v + sumValues g (m.erase k) := by
  have hinsert : m.insert k v = (m.erase k).insert k v := by
    refine ext_lookup fun k' => ?_
    by_cases heq : k' = k
    · rw [heq, lookup_insert, lookup_insert]
    · rw [lookup_insert_of_ne _ heq, lookup_insert_of_ne _ heq, lookup_erase_ne heq]
  unfold sumValues
  rw [hinsert, entries_insert_of_notMem notMem_erase_self, map_cons, sum_cons]

/-- The entry of a key that is there, apart from the others. -/
theorem sumValues_lookup (g : V → ℕ) (h : m.lookup k = some v) :
    sumValues g m = g v + sumValues g (m.erase k) := by
  have hsame : m.insert k v = m := by
    refine ext_lookup fun k' => ?_
    by_cases heq : k' = k
    · rw [heq, lookup_insert, h]
    · rw [lookup_insert_of_ne _ heq]
  rw [← sumValues_insert, hsame]

/-- A key that is not there. -/
theorem sumValues_erase_of_none (g : V → ℕ) (h : m.lookup k = none) :
    sumValues g (m.erase k) = sumValues g m := by
  congr 1
  refine ext_lookup fun k' => ?_
  by_cases heq : k' = k
  · rw [heq, lookup_erase, h]
  · rw [lookup_erase_ne heq]

theorem le_sumValues (g : V → ℕ) (h : m.lookup k = some v) : g v ≤ sumValues g m := by
  rw [sumValues_lookup g h]
  exact Nat.le_add_right _ _

theorem exists_of_sumValues_ne_zero (h : sumValues g m ≠ 0) :
    ∃ k v, m.lookup k = some v ∧ g v ≠ 0 := by
  by_contra hnone
  push Not at hnone
  refine h (sum_eq_zero fun n hn => ?_)
  obtain ⟨⟨k, v⟩, hmem, rfl⟩ := mem_map.mp hn
  exact hnone k v (lookup_eq_some_iff.mpr hmem)

/-- The entries that go add nothing. -/
theorem sumValues_retain {f : K → V → Bool}
    (hf : ∀ k v, m.lookup k = some v → f k v = false → g v = 0) :
    sumValues g (retain f m) = sumValues g m := by
  have hzero : ((m.entries.filter fun entry => ¬ f entry.1 entry.2).map fun entry =>
      g entry.2).sum = 0 := by
    refine sum_eq_zero fun n hn => ?_
    obtain ⟨⟨k, v⟩, hmem, rfl⟩ := mem_map.mp hn
    obtain ⟨hmem, hnot⟩ := mem_filter.mp hmem
    exact hf k v (lookup_eq_some_iff.mpr hmem) (Bool.eq_false_of_not_eq_true hnot)
  have hsplit := congrArg (fun s => (s.map fun entry : (_ : K) × V => g entry.2).sum)
    (filter_add_not (fun entry : (_ : K) × V => f entry.1 entry.2 = true) m.entries)
  rw [map_add, sum_add, hzero, Nat.add_zero] at hsplit
  exact hsplit

end Tiri.HashMap
