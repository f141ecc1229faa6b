import Mathlib.Data.List.Basic
import StructuralSearch.Text.Basic

/-!
# Cutting texts

Every function that cuts a text at byte offsets is known by the pieces it leaves: the text is a
concatenation, and the offsets are lengths of its beginnings.

Results:
1. `Text.append_inj`: a text is cut in one way only at an offset.
2. `Text.dropBytes?_eq_some_iff`, `Text.takeBytes?_eq_some_iff`, `Text.slice?_eq_some_iff`,
   `Text.isBoundary_iff`: what cutting leaves.
3. `Text.DiffersWithin`: how two texts differ if only some spans were rewritten.
-/

namespace StructuralSearch

namespace Text

variable {a b c d t m : Text} {i j n : Nat}

/-- Two ways to cut a text at one offset are the same. -/
theorem append_inj (h : a ++ b = c ++ d) (hl : byteLength a = byteLength c) : a = c ∧ b = d := by
  induction a generalizing c with
  | nil =>
    cases c with
    | nil => exact ⟨rfl, h⟩
    | cons x c =>
      -- no character is empty
      have := x.utf8Size_pos
      simp only [byteLength_nil, byteLength_cons] at hl
      omega
  | cons x a ih =>
    cases c with
    | nil =>
      have := x.utf8Size_pos
      simp only [byteLength_nil, byteLength_cons] at hl
      omega
    | cons y c =>
      obtain ⟨rfl, htail⟩ := List.cons.inj h
      obtain ⟨rfl, rfl⟩ := ih htail (by simpa using hl)
      exact ⟨rfl, rfl⟩

theorem eq_nil_of_byteLength (h : byteLength a = 0) : a = [] :=
  (append_inj (b := []) (d := a) (c := []) (by simp) h).1

theorem dropBytes?_eq_some_iff :
    dropBytes? t n = some b ↔ ∃ a, t = a ++ b ∧ byteLength a = n := by
  refine ⟨eq_append_of_dropBytes?, ?_⟩
  rintro ⟨a, rfl, rfl⟩
  exact dropBytes?_append a b

theorem eq_append_of_takeBytes? (h : takeBytes? t n = some a) :
    ∃ b, t = a ++ b ∧ byteLength a = n := by
  induction t generalizing n a with
  | nil =>
    cases n with
    | zero =>
      cases h
      exact ⟨[], rfl, rfl⟩
    | succ n => simp [takeBytes?] at h
  | cons c t ih =>
    cases n with
    | zero =>
      cases h
      exact ⟨c :: t, rfl, rfl⟩
    | succ n =>
      rw [takeBytes?] at h
      split at h
      · next hle =>
        obtain ⟨a, ha, rfl⟩ := Option.map_eq_some_iff.mp h
        obtain ⟨b, rfl, hb⟩ := ih ha
        exact ⟨b, rfl, by simp [hb]; omega⟩
      · simp at h

theorem takeBytes?_eq_some_iff :
    takeBytes? t n = some a ↔ ∃ b, t = a ++ b ∧ byteLength a = n := by
  refine ⟨eq_append_of_takeBytes?, ?_⟩
  rintro ⟨b, rfl, rfl⟩
  exact takeBytes?_append a b

/-- A slice stands between a part as long as its start and a rest. -/
theorem slice?_eq_some_iff :
    slice? t i j = some m ↔
      ∃ a b, t = a ++ (m ++ b) ∧ byteLength a = i ∧ byteLength a + byteLength m = j := by
  constructor
  · intro h
    rw [slice?] at h
    split at h
    · next hle =>
      obtain ⟨r, hr, hm⟩ := Option.bind_eq_some_iff.mp h
      obtain ⟨a, rfl, ha⟩ := dropBytes?_eq_some_iff.mp hr
      obtain ⟨b, rfl, hb⟩ := takeBytes?_eq_some_iff.mp hm
      exact ⟨a, b, rfl, ha, by omega⟩
    · simp at h
  · rintro ⟨a, b, rfl, rfl, rfl⟩
    exact slice?_append a m b

theorem le_of_slice? (h : slice? t i j = some m) : i ≤ j := by
  obtain ⟨a, b, -, ha, hj⟩ := slice?_eq_some_iff.mp h
  omega

theorem isBoundary_iff : t.isBoundary n = true ↔ ∃ a b, t = a ++ b ∧ byteLength a = n := by
  rw [isBoundary, Option.isSome_iff_exists]
  constructor
  · rintro ⟨b, h⟩
    obtain ⟨a, ha⟩ := dropBytes?_eq_some_iff.mp h
    exact ⟨a, b, ha⟩
  · rintro ⟨a, b, h⟩
    exact ⟨b, dropBytes?_eq_some_iff.mpr ⟨a, h⟩⟩

/-- Between two boundaries there is a slice. -/
theorem exists_slice? (hi : t.isBoundary i = true) (hj : t.isBoundary j = true) (h : i ≤ j) :
    ∃ m, slice? t i j = some m := by
  obtain ⟨a, b, rfl, rfl⟩ := isBoundary_iff.mp hi
  obtain ⟨c, d, hcd, rfl⟩ := isBoundary_iff.mp hj
  rcases List.append_eq_append_iff.mp hcd with ⟨m, rfl, rfl⟩ | ⟨m, rfl, rfl⟩
  · exact ⟨m, slice?_eq_some_iff.mpr ⟨a, d, rfl, rfl, by simp⟩⟩
  · -- the second boundary stands before the first only if they are the same
    have hm : m = [] := eq_nil_of_byteLength (by simp only [byteLength_append] at h; omega)
    subst hm
    exact ⟨[], slice?_eq_some_iff.mpr ⟨c, b, by simp, by simp, by simp⟩⟩

theorem isBoundary_start (h : slice? t i j = some m) : t.isBoundary i = true := by
  obtain ⟨a, b, ht, ha, -⟩ := slice?_eq_some_iff.mp h
  exact isBoundary_iff.mpr ⟨a, _, ht, ha⟩

theorem isBoundary_stop (h : slice? t i j = some m) : t.isBoundary j = true := by
  obtain ⟨a, b, ht, -, hm⟩ := slice?_eq_some_iff.mp h
  exact isBoundary_iff.mpr ⟨a ++ m, b, by simp [ht], by simp [hm]⟩

/-- An offset into a part is a boundary of the part if it is one of the whole. -/
theorem isBoundary_append (h : n ≤ byteLength m) :
    (a ++ (m ++ b)).isBoundary (byteLength a + n) = m.isBoundary n := by
  rw [Bool.eq_iff_iff, isBoundary_iff, isBoundary_iff]
  constructor
  · rintro ⟨p, q, hpq, hl⟩
    rcases List.append_eq_append_iff.mp hpq with ⟨r, rfl, hr⟩ | ⟨r, rfl, hr⟩
    · have hrn : byteLength r = n := by simpa using hl
      rcases List.append_eq_append_iff.mp hr with ⟨s, rfl, -⟩ | ⟨s, rfl, -⟩
      · have hs : s = [] := eq_nil_of_byteLength (by simp only [byteLength_append] at hrn; omega)
        exact ⟨m, [], by simp, by simpa [hs] using hrn⟩
      · exact ⟨r, s, rfl, hrn⟩
    · have hrn : byteLength r = 0 ∧ n = 0 := by
        simp only [byteLength_append] at hl
        omega
      exact ⟨[], m, rfl, by simp [hrn.2]⟩
  · rintro ⟨p, q, rfl, rfl⟩
    exact ⟨a ++ p, q ++ b, by simp, by simp⟩

/-! ## Rewritten spans -/

/-- A text that differs from another, which stands at the byte `i`, by what stands in some spans
of the latter. -/
inductive DiffersWithin (spans : Nat → Nat → Prop) : Nat → Text → Text → Prop
  | nil (i : Nat) : DiffersWithin spans i [] []
  | keep {i : Nat} {c : Char} {t t' : Text} :
      DiffersWithin spans (i + c.utf8Size) t t' → DiffersWithin spans i (c :: t) (c :: t')
  | change {i : Nat} {old new t t' : Text} :
      spans i (i + byteLength old) → DiffersWithin spans (i + byteLength old) t t' →
      DiffersWithin spans i (old ++ t) (new ++ t')

namespace DiffersWithin

variable {spans : Nat → Nat → Prop} {i : Nat} {s s' t t' : Text}

theorem refl (i : Nat) (t : Text) : DiffersWithin spans i t t := by
  induction t generalizing i with
  | nil => exact .nil i
  | cons c t ih => exact .keep (ih _)

theorem append (h : DiffersWithin spans i s s')
    (k : DiffersWithin spans (i + byteLength s) t t') :
    DiffersWithin spans i (s ++ t) (s' ++ t') := by
  induction h with
  | nil i => simpa using k
  | keep _ ih => exact .keep (ih (by simpa [Nat.add_assoc] using k))
  | change hspan _ ih =>
    rw [List.append_assoc, List.append_assoc]
    exact .change hspan (ih (by simpa [Nat.add_assoc] using k))

theorem mono {spans' : Nat → Nat → Prop} (h : DiffersWithin spans i s s')
    (hle : ∀ i j, spans i j → spans' i j) : DiffersWithin spans' i s s' := by
  induction h with
  | nil i => exact .nil i
  | keep _ ih => exact .keep ih
  | change hspan _ ih => exact .change (hle _ _ hspan) ih

end DiffersWithin

end Text

end StructuralSearch
