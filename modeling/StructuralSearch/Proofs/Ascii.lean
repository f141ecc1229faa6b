import Mathlib.Data.List.Basic
import StructuralSearch.Text.Case
import StructuralSearch.Text.Cluster

/-!
# ASCII texts

In a text of ASCII characters every character is a cluster of its own, apart from a carriage return
with the line feed behind it, and the case of each character changes on its own.

* `Text.IsAscii`: texts of ASCII characters, and `Text.IsLower`: those without capitals.
* `Text.IsUnit`: the clusters of such texts.

Results:
1. `Text.lower_eq_map`: the lower case of an ASCII text.
2. `Text.isUnit_of_mem_clusters`: the clusters of an ASCII text.
-/

namespace StructuralSearch

namespace Text

variable {c d : Char} {t : Text}

/-- All characters are ASCII characters. -/
def IsAscii (t : Text) : Prop := ∀ c ∈ t, c.toNat < 128

instance : Decidable (IsAscii t) :=
  decidable_of_iff (t.all (·.toNat < 128)) (by simp [IsAscii])

/-- What is checked for each of the first 128 characters holds of every ASCII character. -/
theorem forall_ascii {P : Char → Prop} (h : ∀ n < 128, P (Char.ofNat n)) (hc : c.toNat < 128) :
    P c :=
  Char.ofNat_toNat c ▸ h c.toNat hc

/-! ## Case -/

theorem lowerChar_eq (hc : c.toNat < 128) : lowerChar c = [c.toLower] :=
  forall_ascii (P := fun c => lowerChar c = [c.toLower]) (by decide +kernel) hc

theorem upperChar_eq (hc : c.toNat < 128) : upperChar c = [c.toUpper] :=
  forall_ascii (P := fun c => upperChar c = [c.toUpper]) (by decide +kernel) hc

theorem toNat_toLower_lt : c.toLower.toNat < 128 ↔ c.toNat < 128 := by
  constructor
  · intro hlower
    by_contra hc
    have hnotUpper : ¬(c.val ≥ 'A'.val ∧ c.val ≤ 'Z'.val) := fun ⟨_, hle⟩ =>
      hc (Nat.lt_of_le_of_lt (UInt32.le_iff_toNat_le.mp hle) (by decide))
    have hfixed : c.toLower = c := dif_neg hnotUpper
    exact hc (hfixed ▸ hlower)
  · exact forall_ascii (P := fun c => c.toLower.toNat < 128) (by decide +kernel)

theorem toLower_toLower (hc : c.toNat < 128) : c.toLower.toLower = c.toLower :=
  forall_ascii (P := fun c => c.toLower.toLower = c.toLower) (by decide +kernel) hc

theorem toLower_toUpper (hc : c.toNat < 128) : c.toUpper.toLower = c.toLower :=
  forall_ascii (P := fun c => c.toUpper.toLower = c.toLower) (by decide +kernel) hc

/-- The lower case of an ASCII text, character by character. -/
theorem lower_eq_map (ht : IsAscii t) : lower t = t.map Char.toLower := by
  have hfrom : ∀ before, lowerFrom before t = t.map Char.toLower := by
    induction t with
    | nil => exact fun _ => rfl
    | cons c t ih =>
      obtain ⟨hc, ht⟩ := List.forall_mem_cons.mp ht
      intro before
      have hsigma : (c == 'Σ') = false := by
        refine beq_eq_false_iff_ne.mpr ?_
        rintro rfl
        exact absurd hc (by decide)
      rw [lowerFrom, hsigma, ih ht, lowerChar_eq hc]
      rfl
  exact hfrom []

theorem isAscii_map_toLower : IsAscii (t.map Char.toLower) ↔ IsAscii t :=
  List.forall_mem_map.trans (forall₂_congr fun _ _ => toNat_toLower_lt)

/-- An ASCII text without capitals. -/
def IsLower (t : Text) : Prop := ∀ c ∈ t, c.toNat < 128 ∧ c.toLower = c

theorem IsLower.isAscii (h : IsLower t) : IsAscii t := fun c hc => (h c hc).1

theorem IsLower.lower (h : IsLower t) : lower t = t := by
  rw [lower_eq_map h.isAscii]
  exact (List.map_congr_left fun c hc => (h c hc).2).trans (List.map_id t)

theorem isLower_lower (ht : IsAscii t) : IsLower (lower t) := by
  rw [lower_eq_map ht]
  exact List.forall_mem_map.mpr fun c hc =>
    ⟨toNat_toLower_lt.mpr (ht c hc), toLower_toLower (ht c hc)⟩

/-! ## Clusters -/

/-- The classes of ASCII characters. -/
def BreakClass.isPlain : BreakClass → Bool
  | .carriageReturn | .lineFeed | .control | .other => true
  | _ => false

theorem isPlain_ofChar (hc : c.toNat < 128) : (BreakClass.ofChar c).isPlain = true :=
  forall_ascii (P := fun c => (BreakClass.ofChar c).isPlain = true) (by decide +kernel) hc

theorem eq_of_ofChar (hc : c.toNat < 128) :
    (BreakClass.ofChar c = .carriageReturn → c = '\r') ∧
      (BreakClass.ofChar c = .lineFeed → c = '\n') :=
  forall_ascii (P := fun c => (BreakClass.ofChar c = .carriageReturn → c = '\r') ∧
    (BreakClass.ofChar c = .lineFeed → c = '\n')) (by decide +kernel) hc

/-- Among ASCII characters, only a line feed goes on with a cluster, that of a carriage return. -/
theorem ClusterState.of_continues {s : ClusterState} {b : BreakClass} (hs : s.last.isPlain = true)
    (hb : b.isPlain = true) (h : s.continues b = true) :
    s.last = .carriageReturn ∧ b = .lineFeed := by
  rw [continues.eq_def] at h
  cases hlast : s.last <;> cases b <;> simp_all [BreakClass.isPlain]

/-- A cluster of an ASCII text. -/
def IsUnit (k : Text) : Prop := (∃ c, k = [c]) ∨ k = ['\r', '\n']

/-- What a cluster in progress consists of. -/
def InUnit (reversed : Text) (s : ClusterState) : Prop :=
  (∃ c, c.toNat < 128 ∧ reversed = [c] ∧ s.last = BreakClass.ofChar c) ∨
    (reversed = ['\n', '\r'] ∧ s.last = .lineFeed)

theorem InUnit.isUnit {reversed : Text} {s : ClusterState} (h : InUnit reversed s) :
    IsUnit reversed.reverse := by
  rcases h with ⟨c, -, rfl, -⟩ | ⟨rfl, -⟩
  · exact Or.inl ⟨c, rfl⟩
  · exact Or.inr rfl

/-- A cluster in progress is whole, or it is a carriage return before a line feed. -/
theorem InUnit.extend {reversed : Text} {s : ClusterState} (h : InUnit reversed s)
    (hd : d.toNat < 128) (hcontinues : s.continues (BreakClass.ofChar d) = true) :
    InUnit (d :: reversed) (s.extend (BreakClass.ofChar d)) := by
  have hd' := isPlain_ofChar hd
  rcases h with ⟨c, hc, rfl, hlast⟩ | ⟨-, hlast⟩
  · obtain ⟨hreturn, hfeed⟩ :=
      ClusterState.of_continues (hlast ▸ isPlain_ofChar hc) hd' hcontinues
    obtain rfl := (eq_of_ofChar hc).1 (hlast.symm.trans hreturn)
    obtain rfl := (eq_of_ofChar hd).2 hfeed
    exact Or.inr ⟨rfl, hfeed⟩
  · obtain ⟨hreturn, -⟩ :=
      ClusterState.of_continues (hlast ▸ rfl) hd' hcontinues
    cases hlast.symm.trans hreturn

theorem isUnit_of_mem_clustersFrom {reversed : Text} {s : ClusterState} (h : InUnit reversed s)
    (ht : IsAscii t) : ∀ k ∈ clustersFrom reversed s t, IsUnit k := by
  induction t generalizing reversed s with
  | nil => exact List.forall_mem_singleton.mpr h.isUnit
  | cons d t ih =>
    obtain ⟨hd, ht⟩ := List.forall_mem_cons.mp ht
    rw [clustersFrom]
    split
    · next hcontinues => exact ih (h.extend hd hcontinues) ht
    · exact List.forall_mem_cons.mpr ⟨h.isUnit, ih (Or.inl ⟨d, hd, rfl, rfl⟩) ht⟩

/-- The clusters of an ASCII text. -/
theorem isUnit_of_mem_clusters (ht : IsAscii t) : ∀ k ∈ clusters t, IsUnit k := by
  cases t with
  | nil => exact fun k hk => absurd hk List.not_mem_nil
  | cons c t =>
    obtain ⟨hc, ht⟩ := List.forall_mem_cons.mp ht
    exact isUnit_of_mem_clustersFrom (Or.inl ⟨c, hc, rfl, rfl⟩) ht

end Text

end StructuralSearch
