import Mathlib.Data.List.Basic
import StructuralSearch.Transform.Basic

/-!
# Slices of a text

A slice has the characters at the positions between two signed indices. What an index means is said
in signed arithmetic: an index that is not negative counts from the start of the text, a negative
one from its end, and neither leaves the text.

* `Transform.place`: the position that an index means.

Results:
1. `Transform.resolveIndex_some`: indices are resolved to the positions that they mean.
2. `Transform.slice_eq_filter`: a slice has the characters between two positions, in order.
3. `Transform.apply_substring`: what a slice keeps, and that cutting a text in two loses nothing.
-/

namespace StructuralSearch

namespace Transform

variable {length default : Nat} {t : Text}

/-- The position that an index means in a text of `length` characters. -/
def place (length : Nat) (i : Int) : Int :=
  if 0 ≤ i then min i length else max (length + i) 0

theorem resolveIndex_none : resolveIndex length default none = default := rfl

/-- Indices are resolved to the positions that they mean, whatever their size. -/
theorem resolveIndex_some (length default : Nat) (i : Int) :
    (resolveIndex length default (some i) : Int) = place length i := by
  simp only [resolveIndex, place]
  split
  · next hneg =>
    rw [if_neg (by omega)]
    omega
  · next hpos =>
    rw [if_pos (by omega)]
    omega

/-- The characters of a text from one position up to another, among positions that are counted from
`first` on. -/
theorem filter_zipIdx (t : Text) (first lo hi : Nat) :
    ((t.zipIdx first).filter fun x => decide (lo ≤ x.2 ∧ x.2 < hi)).map Prod.fst =
      (t.drop (lo - first)).take (hi - max lo first) := by
  induction t generalizing first with
  | nil => simp
  | cons c t ih =>
    rw [List.zipIdx_cons, List.filter_cons]
    rcases Nat.lt_or_ge first lo with hbefore | hle
    · -- the character stands before the slice
      rw [if_neg (by simp; omega), ih, show lo - first = (lo - (first + 1)) + 1 by omega,
        List.drop_succ_cons, show max lo (first + 1) = max lo first by omega]
    · rw [show lo - first = 0 by omega, show max lo first = first by omega, List.drop_zero]
      rcases Nat.lt_or_ge first hi with hin | hbehind
      · rw [if_pos (by simp; omega), List.map_cons, ih, show lo - (first + 1) = 0 by omega,
          List.drop_zero, show max lo (first + 1) = first + 1 by omega,
          show hi - first = (hi - (first + 1)) + 1 by omega, List.take_succ_cons]
      · rw [if_neg (by simp; omega), ih, show hi - max lo (first + 1) = 0 by omega,
          show hi - first = 0 by omega, List.take_zero, List.take_zero]

/-- A slice has the characters between two positions, in order. -/
theorem slice_eq_filter (start stop : Option Int) (t : Text) :
    slice start stop t = (t.zipIdx.filter fun x =>
      decide (resolveIndex t.length 0 start ≤ x.2 ∧
        x.2 < resolveIndex t.length t.length stop)).map Prod.fst := by
  rw [filter_zipIdx, slice, Nat.sub_zero, Nat.max_zero]

/-- What stands before an index and what stands from it on make up the text. -/
theorem slice_append_slice (k : Int) (t : Text) :
    slice none (some k) t ++ slice (some k) none t = t := by
  have hplace : resolveIndex t.length t.length (some k) = resolveIndex t.length 0 (some k) := rfl
  simp only [slice, resolveIndex_none, hplace, List.drop_zero, Nat.sub_zero]
  rw [← List.length_drop, List.take_length, List.take_append_drop]

/-- A slice has the characters of the text at the positions from the one that its first index means
up to the one that its second index means; a missing index means the start or the end of the text.
If the positions are the same or in the wrong order, the slice is empty. A text that is cut at an
index is made up of its two slices. -/
theorem apply_substring (start stop : Option Int) (t : Text) :
    let lo := start.elim 0 (place t.length)
    let hi := stop.elim (t.length : Int) (place t.length)
    (substring start stop).apply t =
        (t.zipIdx.filter fun x => decide (lo ≤ x.2 ∧ x.2 < hi)).map Prod.fst ∧
      (hi ≤ lo → (substring start stop).apply t = []) ∧
      ∀ k : Int, (substring none (some k)).apply t ++ (substring (some k) none).apply t = t := by
  intro lo hi
  have hlo : (resolveIndex t.length 0 start : Int) = lo := by
    cases start with
    | none => rfl
    | some i => exact resolveIndex_some t.length 0 i
  have hhi : (resolveIndex t.length t.length stop : Int) = hi := by
    cases stop with
    | none => rfl
    | some i => exact resolveIndex_some t.length t.length i
  have hslice : (substring start stop).apply t =
      (t.zipIdx.filter fun x => decide (lo ≤ x.2 ∧ x.2 < hi)).map Prod.fst := by
    rw [apply, slice_eq_filter, ← hlo, ← hhi]
    simp only [Int.ofNat_le, Int.ofNat_lt]
  refine ⟨hslice, fun hle => ?_, fun k => slice_append_slice k t⟩
  rw [hslice, List.filter_eq_nil_iff.mpr fun x _ => by simp; omega, List.map_nil]

example : (substring (some (-(2 ^ 63))) (some (-1))).apply "abc".toList = "ab".toList := by decide

end Transform

end StructuralSearch
