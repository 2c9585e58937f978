import Mathlib.Algebra.GroupWithZero.Nat
import Mathlib.Data.List.Basic

/-!
# Strings that are sliced by bytes

A string is a list of characters, each of which takes one to four bytes.  `splitAt n` cuts after `n`
bytes; there is no such cut past the end or inside a character.

Results:
* `splitAt_eq_some`: what a cut is;
* `size_of_toLower`: strings that differ in ASCII case only have the same number of bytes;
* `get_of_append`, `slice_of_append`: the cut of a string that is known to have it.
-/

namespace Tiri.Utf8

open List

variable (s : List Char)

/-- The number of bytes of a string: `str::len`. -/
def size : ℕ := (s.map Char.utf8Size).sum

/-- The two parts of a string before and after the first `n` bytes. -/
def splitAt (n : ℕ) : List Char → Option (List Char × List Char)
  | [] => if n = 0 then some ([], []) else none
  | c :: s =>
    if n = 0 then some ([], c :: s)
    else if c.utf8Size ≤ n then (splitAt (n - c.utf8Size) s).map fun p => (c :: p.1, p.2)
    else none

/-- `str::get(..n)`: the first `n` bytes, if they end at a character. -/
def get (n : ℕ) : Option (List Char) := (splitAt n s).map Prod.fst

/-- `&s[n..]`: a panic past the end, or inside a character. -/
def slice (n : ℕ) : Option (List Char) := (splitAt n s).map Prod.snd

@[simp] theorem size_nil : size [] = 0 := rfl

@[simp] theorem size_cons (c : Char) (s : List Char) : size (c :: s) = c.utf8Size + size s := rfl

variable {n : ℕ}

/-- **A cut**, as the two parts that it makes. -/
theorem splitAt_eq_some {s a b : List Char} :
    splitAt n s = some (a, b) ↔ s = a ++ b ∧ size a = n := by
  induction s generalizing n a with
  | nil =>
    unfold splitAt
    split_ifs with hn
    · subst hn
      constructor
      · intro h
        cases h
        exact ⟨rfl, rfl⟩
      · rintro ⟨hab, -⟩
        obtain ⟨rfl, rfl⟩ := append_eq_nil_iff.mp hab.symm
        rfl
    · refine iff_of_false nofun ?_
      rintro ⟨hab, hsize⟩
      obtain ⟨rfl, rfl⟩ := append_eq_nil_iff.mp hab.symm
      exact hn hsize.symm
  | cons c s ih =>
    have hpos : 0 < c.utf8Size := c.utf8Size_pos
    unfold splitAt
    split_ifs with hn hle
    · subst hn
      constructor
      · intro h
        cases h
        exact ⟨rfl, rfl⟩
      · rintro ⟨hab, hsize⟩
        cases a with
        | nil =>
          rw [nil_append] at hab
          rw [hab]
        | cons c' a =>
          have hpos' : 0 < c'.utf8Size := c'.utf8Size_pos
          rw [size_cons] at hsize
          omega
    · rw [Option.map_eq_some_iff]
      constructor
      · rintro ⟨⟨a', b'⟩, h, heq⟩
        cases heq
        obtain ⟨rfl, hsize⟩ := ih.mp h
        refine ⟨rfl, ?_⟩
        dsimp only
        rw [size_cons, hsize]
        omega
      · rintro ⟨hab, hsize⟩
        cases a with
        | nil =>
          rw [size_nil] at hsize
          exact absurd hsize.symm hn
        | cons c' a =>
          rw [cons_append, List.cons.injEq] at hab
          obtain ⟨rfl, rfl⟩ := hab
          refine ⟨(a, b), ih.mpr ⟨rfl, ?_⟩, rfl⟩
          rw [size_cons] at hsize
          omega
    · refine iff_of_false nofun ?_
      rintro ⟨hab, hsize⟩
      cases a with
      | nil =>
        rw [size_nil] at hsize
        exact hn hsize.symm
      | cons c' a =>
        rw [cons_append, List.cons.injEq] at hab
        obtain ⟨rfl, rfl⟩ := hab
        rw [size_cons] at hsize
        omega

variable (a b : List Char)

theorem get_of_append : get (a ++ b) (size a) = some a := by
  rw [get, splitAt_eq_some.mpr ⟨rfl, rfl⟩]
  rfl

theorem slice_of_append : slice (a ++ b) (size a) = some b := by
  rw [slice, splitAt_eq_some.mpr ⟨rfl, rfl⟩]
  rfl

/-- Where there is a first part, there is a rest. -/
theorem get_eq_some {s a : List Char} : get s n = some a ↔ ∃ b, s = a ++ b ∧ size a = n := by
  unfold get
  rw [Option.map_eq_some_iff]
  constructor
  · rintro ⟨⟨a', b⟩, h, rfl⟩
    exact ⟨b, splitAt_eq_some.mp h⟩
  · rintro ⟨b, h⟩
    exact ⟨(a, b), splitAt_eq_some.mpr h, rfl⟩

/-- ASCII letters take one byte, whatever their case. -/
theorem utf8Size_toLower (c : Char) : c.toLower.utf8Size = c.utf8Size := by
  unfold Char.toLower
  split
  · rename_i hupper
    obtain ⟨hle, hge⟩ := hupper
    rw [ge_iff_le, UInt32.le_iff_toNat_le] at hle
    rw [UInt32.le_iff_toNat_le] at hge
    have hone : c.val ≤ 0x7f := by
      rw [UInt32.le_iff_toNat_le]
      simp at hge ⊢
      omega
    have hone' : c.val + ('a'.val - 'A'.val) ≤ 0x7f := by
      rw [UInt32.le_iff_toNat_le]
      simp at hle hge ⊢
      omega
    exact (if_pos hone').trans (if_pos hone).symm
  · rfl

theorem size_of_toLower {a b : List Char} (h : a.map Char.toLower = b.map Char.toLower) :
    size a = size b := by
  have key (s : List Char) : size (s.map Char.toLower) = size s := by
    induction s with
    | nil => rfl
    | cons c s ih => rw [map_cons, size_cons, size_cons, utf8Size_toLower, ih]
  rw [← key a, h, key b]

end Tiri.Utf8
