import Mathlib.Data.List.Perm.Basic
import StructuralSearch.Proofs.Commit.Splicing

/-!
# Which edits are dropped

Edits that start at different places are looked at in the order of their starts, however they are
listed, and edits that start at the same place are looked at as they are listed. Of two edits that
are apart and start at the same place, one inserts only. If it comes first in the list, the limit
has reached that place, and an edit that replaces something there is dropped.

* `Apart`: one of two edits ends at or before the start of the other.
* `startingAt`: the edits that start at a place, as they are listed.

Results:
1. `startingAt_descending`: edits with the same start are looked at as they are listed.
2. `kept_descending_eq_self_iff`: when none of a list of edits is dropped.
3. `length_eq_iff_of_selects`, `perm_iff_of_selects`: the edits that are made are all there are,
   exactly if none is dropped.
-/

namespace StructuralSearch

namespace Edit

variable {limit : Nat} {l : List Edit}

/-- One of the edits ends at or before the start of the other. -/
def Apart (a b : Edit) : Prop := a.stop ≤ b.start ∨ b.stop ≤ a.start

/-! ## Edits that start at one place -/

/-- The edits that start at a place. -/
def startingAt (s : Nat) (l : List Edit) : List Edit := l.filter fun e => e.start = s

theorem startingAt_cons (s : Nat) (e : Edit) (l : List Edit) :
    startingAt s (e :: l) = if e.start = s then e :: startingAt s l else startingAt s l := by
  simp [startingAt, List.filter_cons]

theorem startingAt_sublist (s : Nat) (l : List Edit) : (startingAt s l).Sublist l :=
  List.filter_sublist

theorem mem_startingAt {s : Nat} {e : Edit} : e ∈ startingAt s l ↔ e ∈ l ∧ e.start = s := by
  simp [startingAt]

theorem startingAt_eq_nil {s : Nat} (h : ∀ e ∈ l, e.start ≠ s) : startingAt s l = [] := by
  rw [startingAt, List.filter_eq_nil_iff]
  intro e he
  simpa using h e he

theorem startingAt_insertDescending (s : Nat) (e : Edit) (l : List Edit) :
    startingAt s (descending.insertDescending e l) = startingAt s (e :: l) := by
  induction l with
  | nil => rfl
  | cons f l ih =>
    rw [descending.insertDescending]
    split
    · rfl
    · next hlt =>
      simp only [startingAt_cons, ih]
      by_cases he : e.start = s
      · -- `f` starts later, hence not at the same place
        have hf : f.start ≠ s := by omega
        rw [if_neg hf, if_neg hf, if_pos he]
      · rw [if_neg he, if_neg he]

/-- Edits with the same start are looked at as they are listed. -/
theorem startingAt_descending (s : Nat) (l : List Edit) :
    startingAt s (descending l) = startingAt s l := by
  induction l with
  | nil => rfl
  | cons e l ih =>
    rw [descending_cons, startingAt_insertDescending, startingAt_cons, startingAt_cons, ih]

/-- Two edits with the same start are looked at as they are listed. -/
theorem sublist_descending_iff {a b : Edit} (h : a.start = b.start) :
    [a, b].Sublist (descending l) ↔ [a, b].Sublist l := by
  have hself : startingAt b.start [a, b] = [a, b] := by simp [startingAt, h]
  have hcut : ∀ k, [a, b].Sublist k ↔ [a, b].Sublist (startingAt b.start k) := by
    intro k
    constructor
    · intro hk
      rw [← hself]
      exact hk.filter _
    · intro hk
      exact hk.trans (startingAt_sublist _ k)
  rw [hcut, startingAt_descending, ← hcut]

/-! ## Edits that are not dropped -/

theorem kept_sublist (limit : Nat) (l : List Edit) : (kept limit l).Sublist l := by
  induction l generalizing limit with
  | nil => exact .refl []
  | cons e l ih =>
    rw [kept]
    split
    · exact (ih e.start).cons_cons e
    · exact (ih limit).cons e

theorem stop_le_of_mem_kept {e : Edit} (ho : ∀ f ∈ l, f.start ≤ f.stop)
    (h : e ∈ kept limit l) : e.stop ≤ limit := by
  induction l generalizing limit with
  | nil => exact absurd h List.not_mem_nil
  | cons f l ih =>
    obtain ⟨hf, hl⟩ := List.forall_mem_cons.mp ho
    rw [kept] at h
    split at h
    · next hle =>
      rcases List.mem_cons.mp h with rfl | h
      · exact hle
      · have := ih hl h
        omega
    · exact ih hl h

/-- Of the edits that are kept, each ends where or before those before it start. -/
theorem pairwise_kept (ho : ∀ f ∈ l, f.start ≤ f.stop) :
    (kept limit l).Pairwise fun a b => b.stop ≤ a.start := by
  induction l generalizing limit with
  | nil => exact .nil
  | cons f l ih =>
    obtain ⟨-, hl⟩ := List.forall_mem_cons.mp ho
    rw [kept]
    split
    · refine .cons ?_ (ih hl)
      intro b hb
      exact stop_le_of_mem_kept hl hb
    · exact ih hl

theorem kept_eq_self (h : l.Pairwise fun a b => b.stop ≤ a.start) (hl : ∀ e ∈ l, e.stop ≤ limit) :
    kept limit l = l := by
  induction l generalizing limit with
  | nil => rfl
  | cons e l ih =>
    obtain ⟨he, hrest⟩ := List.pairwise_cons.mp h
    rw [kept, if_pos (hl e List.mem_cons_self), ih hrest he]

/-- None of a list of edits that are apart is dropped exactly if, wherever two start at the same
place, the one listed later inserts only. -/
theorem kept_descending_eq_self_iff (ho : ∀ e ∈ l, e.start ≤ e.stop) (hl : ∀ e ∈ l, e.stop ≤ limit)
    (ha : l.Pairwise Apart) :
    kept limit (descending l) = descending l ↔
      l.Pairwise fun a b => a.start = b.start → b.stop = b.start := by
  have hmem : ∀ {e}, e ∈ descending l → e ∈ l := mem_descending.mp
  constructor
  · intro h
    rw [List.pairwise_iff_forall_sublist]
    intro a b hab hstart
    have hkept : (kept limit (descending l)).Pairwise fun a b => b.stop ≤ a.start :=
      pairwise_kept fun e he => ho e (hmem he)
    rw [h, List.pairwise_iff_forall_sublist] at hkept
    have hle := hkept ((sublist_descending_iff hstart).mpr hab)
    have := ho b (hab.subset (by simp))
    omega
  · intro h
    refine kept_eq_self ?_ fun e he => hl e (hmem he)
    have hapart : (descending l).Pairwise Apart :=
      ha.perm (descending_perm l).symm fun hab => Or.symm hab
    have hsorted := pairwise_descending l
    rw [List.pairwise_iff_forall_sublist] at h hapart hsorted ⊢
    intro a b hab
    rcases Nat.lt_or_eq_of_le (hsorted hab) with hlt | heq
    · have hordered := ho a (hmem (hab.subset (by simp)))
      rcases hapart hab with hle | hle
      · omega
      · exact hle
    · have := h ((sublist_descending_iff heq.symm).mp hab) heq.symm
      omega

/-- As many edits are made as there are, exactly if none is dropped. -/
theorem length_eq_iff_of_selects {applied : List Edit}
    (h : Selects limit (l.mergeSort startsLater) applied) :
    applied.length = l.length ↔ kept limit (descending l) = descending l := by
  rw [← descending_eq_mergeSort, selects_iff] at h
  rw [h, List.length_reverse, ← (descending_perm l).length_eq]
  constructor
  · exact (kept_sublist limit _).eq_of_length
  · exact congrArg List.length

/-- All edits are made exactly if none is dropped. -/
theorem perm_iff_of_selects {applied : List Edit}
    (h : Selects limit (l.mergeSort startsLater) applied) :
    applied.Perm l ↔ kept limit (descending l) = descending l := by
  constructor
  · intro hperm
    exact (length_eq_iff_of_selects h).mp hperm.length_eq
  · intro heq
    rw [← descending_eq_mergeSort, selects_iff, heq] at h
    rw [h]
    exact (List.reverse_perm _).trans (descending_perm l)

end Edit

end StructuralSearch
