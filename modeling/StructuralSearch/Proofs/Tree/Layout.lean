import StructuralSearch.Proofs.Tree

/-!
# Where the nodes of a tree lie

A tree is the list of its nodes in pre-order, and a node is followed by its descendants. If children
lie within their parents and siblings do not overlap, the nodes of a subtree lie within its root,
and all nodes that are listed behind a subtree lie behind it in the source. Nodes may be empty.

Results:
1. `Tree.exists_parent_of_lt_subtreeEnd`, `Tree.parent_subtreeEnd_lt`: how far a subtree reaches.
2. `Tree.Preordered.lt_subtreeEnd`, `Tree.Preordered.mem_childIds`: where nodes are that have their
   parent in a subtree.
3. `Tree.within_subtree`: a subtree lies within its root.
4. `Tree.stop_le_start`: what is listed behind a subtree starts where the subtree stops, or later.
5. `Node.pairwise_children`: the children of a node stand one after another.
-/

namespace StructuralSearch

namespace Tree

variable {t : Tree} {i j p : Nat}

/-! ## How far a subtree reaches -/

theorem record_eq (h : i < t.records.length) : t.record i = t.records[i] := by
  rw [record, List.getElem?_eq_getElem h, Option.getD_some]

/-- The descendants of a node end before the first node that is not below it. -/
theorem extent_eq (t : Tree) (i : Nat) :
    t.extent i = (t.records.drop (i + 1)).findIdx fun r => !Record.isBelow i r := by
  rw [extent, descendantRecords, List.takeWhile_eq_take_findIdx_not, List.length_take]
  exact Nat.min_eq_left List.findIdx_le_length

theorem exists_parent_of_isBelow {r : Record} (h : r.isBelow i = true) :
    ∃ p, r.parent = some p ∧ i ≤ p := by
  simpa [Record.isBelow, Option.any_eq_true] using h

/-- A node in a subtree, the root of the subtree apart, has its parent there. -/
theorem exists_parent_of_lt_subtreeEnd (hij : i < j) (hj : j < t.subtreeEnd i) :
    ∃ p, (t.record j).parent = some p ∧ i ≤ p := by
  obtain ⟨k, rfl⟩ := Nat.exists_eq_add_of_le (show i + 1 ≤ j from hij)
  have hk : k < t.extent i := by
    simp only [subtreeEnd] at hj
    omega
  have hsize := t.extent_le i
  have hbelow := List.not_of_lt_findIdx (extent_eq t i ▸ hk)
  rw [List.getElem_drop, Bool.not_eq_false'] at hbelow
  rw [record_eq (show i + 1 + k < t.size by omega)]
  exact exists_parent_of_isBelow hbelow

/-- The first node behind a subtree has its parent before the subtree. -/
theorem parent_subtreeEnd_lt (h : t.subtreeEnd i < t.size)
    (hp : (t.record (t.subtreeEnd i)).parent = some p) : p < i := by
  have hlt : (t.records.drop (i + 1)).findIdx (fun r => !Record.isBelow i r) <
      (t.records.drop (i + 1)).length := by
    rw [← extent_eq, List.length_drop]
    simp only [subtreeEnd, size] at h
    omega
  have hnot := List.findIdx_getElem (w := hlt)
  simp only [← extent_eq, List.getElem_drop, Bool.not_eq_true'] at hnot
  rw [record_eq h] at hp
  simp only [subtreeEnd] at hp
  simp only [Record.isBelow, hp, Option.any_some, decide_eq_false_iff_not] at hnot
  omega

theorem lt_subtreeEnd (t : Tree) (i : Nat) : i < t.subtreeEnd i := by
  simp only [subtreeEnd]
  omega

/-! ## Lists in pre-order -/

/-- A list of nodes in pre-order: the parent of a node, other than the first, is listed before it,
and between the two there are only nodes below that parent. -/
structure Preordered (t : Tree) : Prop where
  parent : ∀ j, 0 < j → j < t.size → ∃ p, (t.record j).parent = some p ∧ p < j
  between : ∀ i j p, i < j → j < t.size → (t.record j).parent = some p → p < i →
    ∃ q, (t.record i).parent = some q ∧ p ≤ q

/-- A node whose parent is in a subtree is there as well. -/
theorem Preordered.lt_subtreeEnd (h : t.Preordered) (hj : j < t.size)
    (hp : (t.record j).parent = some p) (hip : i ≤ p) (hend : p < t.subtreeEnd i) :
    j < t.subtreeEnd i := by
  by_contra hout
  -- the first node behind the subtree has its parent before the subtree
  obtain ⟨q, hq, hpq⟩ : ∃ q, (t.record (t.subtreeEnd i)).parent = some q ∧ p ≤ q := by
    rcases Nat.lt_or_eq_of_le (Nat.le_of_not_lt hout) with hlt | heq
    · exact h.between _ j p hlt hj hp hend
    · exact ⟨p, heq ▸ hp, Nat.le_refl p⟩
  have := parent_subtreeEnd_lt (by omega) hq
  omega

/-- A node is among the children of its parent. -/
theorem Preordered.mem_childIds (h : t.Preordered) (hj : j < t.size)
    (hp : (t.record j).parent = some p) (hpj : p < j) : j ∈ t.childIds p := by
  have hin := h.lt_subtreeEnd hj hp (Nat.le_refl p) (t.lt_subtreeEnd p)
  have hk : j - (p + 1) < (t.descendantRecords p).length := by
    simp only [subtreeEnd, extent] at hin
    omega
  have hfront : t.descendantRecords p <+: t.records.drop (p + 1) := List.takeWhile_prefix _
  have hrecord : (t.descendantRecords p)[j - (p + 1)]? = some (t.record j) := by
    rw [List.getElem?_eq_getElem hk, List.IsPrefix.getElem hfront, List.getElem_drop, record_eq hj]
    congr 2
    omega
  refine List.mem_filterMap.mpr ⟨(t.record j, j), ?_, by simp [hp]⟩
  exact List.mk_mem_zipIdx_iff_le_and_getElem?_sub.mpr ⟨hpj, hrecord⟩

/-! ## Trees without overlap -/

/-- A parse whose nodes are listed in pre-order, each within its parent, and whose siblings do not
overlap. -/
structure WellFormed (t : Tree) : Prop extends t.Nested where
  /-- Between a node and its child, there are only nodes below that node. -/
  preorder : ∀ i j p, i < j → j < t.size → (t.record j).parent = some p → p < i →
    ∃ q, (t.record i).parent = some q ∧ p ≤ q
  siblings : ∀ i j p, i < j → j < t.size → (t.record i).parent = some p →
    (t.record j).parent = some p → (t.record i).stop ≤ (t.record j).start

/-- Whether a tree is well-formed can be read off its list of nodes. -/
theorem wellFormed_iff :
    t.WellFormed ↔ 0 < t.size ∧
      (∀ j < t.size, (t.source.slice? (t.record j).start (t.record j).stop).isSome = true ∧
        (0 < j → (t.record j).parent.any (· < j) = true) ∧
        ∀ p ∈ (t.record j).parent,
          ((t.record p).start ≤ (t.record j).start ∧ (t.record j).stop ≤ (t.record p).stop) ∧
          ∀ i < j, (p < i → (t.record i).parent.any (p ≤ ·) = true) ∧
            ((t.record i).parent = some p → (t.record i).stop ≤ (t.record j).start)) := by
  constructor
  · intro h
    refine ⟨h.nonempty, fun j hj => ⟨?_, ?_, ?_⟩⟩
    · exact Option.isSome_iff_exists.mpr (h.slice j hj)
    · intro hpos
      obtain ⟨p, hp, hlt⟩ := h.parent j hpos hj
      simpa [hp] using hlt
    · intro p hp
      refine ⟨h.within j p hj hp, fun i hij => ⟨fun hpi => ?_, fun hi => ?_⟩⟩
      · obtain ⟨q, hq, hpq⟩ := h.preorder i j p hij hj hp hpi
        simpa [hq] using hpq
      · exact h.siblings i j p hij hj hi hp
  · rintro ⟨hsize, h⟩
    refine ⟨⟨hsize, ?_, ?_, ?_⟩, ?_, ?_⟩
    · intro j hpos hj
      simpa [Option.any_eq_true] using (h j hj).2.1 hpos
    · intro j hj
      exact Option.isSome_iff_exists.mp (h j hj).1
    · intro j p hj hp
      exact ((h j hj).2.2 p hp).1
    · intro i j p hij hj hp hpi
      simpa [Option.any_eq_true] using (((h j hj).2.2 p hp).2 i hij).1 hpi
    · intro i j p hij hj hi hp
      exact (((h j hj).2.2 p hp).2 i hij).2 hi

instance (t : Tree) : Decidable t.WellFormed := decidable_of_iff _ wellFormed_iff.symm

theorem WellFormed.preordered (h : t.WellFormed) : t.Preordered := ⟨h.parent, h.preorder⟩

/-- A subtree lies within its root. -/
theorem within_subtree (h : t.Nested) (hi : i < t.size) (hij : i ≤ j) (hj : j < t.subtreeEnd i) :
    (t.record i).start ≤ (t.record j).start ∧ (t.record j).stop ≤ (t.record i).stop := by
  induction j using Nat.strongRecOn with
  | ind j ih =>
    rcases Nat.lt_or_eq_of_le hij with hlt | rfl
    · have hjs : j < t.size := Nat.lt_of_lt_of_le hj (subtreeEnd_le hi)
      obtain ⟨p, hp, hip⟩ := exists_parent_of_lt_subtreeEnd hlt hj
      obtain ⟨q, hq, hqj⟩ := h.parent j (by omega) hjs
      obtain rfl : p = q := Option.some.inj (hp.symm.trans hq)
      obtain ⟨hstart, hstop⟩ := h.within j p hjs hp
      obtain ⟨hstart', hstop'⟩ := ih p hqj hip (by omega)
      omega
    · exact ⟨Nat.le_refl _, Nat.le_refl _⟩

/-- A node ends before any later node whose parent is listed before it: both lie below that parent,
in the subtrees of siblings. -/
theorem stop_le_start_of_parent (h : t.WellFormed) (hij : i < j) (hj : j < t.size)
    (hp : (t.record j).parent = some p) (hpi : p < i) :
    (t.record i).stop ≤ (t.record j).start := by
  induction i using Nat.strongRecOn with
  | ind i ih =>
    obtain ⟨q, hq, hpq⟩ := h.preorder i j p hij hj hp hpi
    rcases Nat.lt_or_eq_of_le hpq with hlt | rfl
    · obtain ⟨q', hq', hqi⟩ := h.parent i (by omega) (by omega)
      obtain rfl : q = q' := Option.some.inj (hq.symm.trans hq')
      have hle := ih q hqi (by omega) hlt
      have := (h.within i q (by omega) hq).2
      omega
    · exact h.siblings i j p hij hj hq hp

/-- What is listed behind a subtree starts where the subtree stops, or later. -/
theorem stop_le_start (h : t.WellFormed) (hij : t.subtreeEnd i ≤ j) (hj : j < t.size) :
    (t.record i).stop ≤ (t.record j).start := by
  induction j using Nat.strongRecOn with
  | ind j ih =>
    have hi := t.lt_subtreeEnd i
    obtain ⟨p, hp, hpj⟩ := h.parent j (by omega) hj
    rcases Nat.lt_or_ge p i with hpi | hip
    · exact stop_le_start_of_parent h (by omega) hj hp hpi
    · have hbehind : t.subtreeEnd i ≤ p := by
        by_contra hpe
        have := h.preordered.lt_subtreeEnd hj hp hip (Nat.lt_of_not_le hpe)
        omega
      have hle := ih p hpj hbehind (by omega)
      have := (h.within j p hj hp).1
      omega

/-! ## Children -/

theorem parent_of_mem_childIds (h : j ∈ t.childIds i) : (t.record j).parent = some i := by
  obtain ⟨-, hsize⟩ := mem_childIds h
  obtain ⟨⟨r, k⟩, hmem, hk⟩ := List.mem_filterMap.mp h
  obtain ⟨hle, hlt, hr⟩ := List.mem_zipIdx hmem
  simp only [Option.ite_none_right_eq_some, Option.some.injEq] at hk
  obtain ⟨hparent, rfl⟩ := hk
  have hfront : t.descendantRecords i <+: t.records.drop (i + 1) := List.takeWhile_prefix _
  rw [hfront.getElem, List.getElem_drop] at hr
  rw [record_eq hsize, ← hparent, hr]
  congr 2
  omega

/-- A child is in the subtree of its parent. -/
theorem lt_subtreeEnd_of_mem_childIds (h : j ∈ t.childIds i) : j < t.subtreeEnd i := by
  obtain ⟨⟨r, k⟩, hmem, hk⟩ := List.mem_filterMap.mp h
  obtain ⟨-, hlt, -⟩ := List.mem_zipIdx hmem
  simp only [Option.ite_none_right_eq_some, Option.some.injEq] at hk
  obtain ⟨-, rfl⟩ := hk
  exact hlt

/-- Children are listed in the order of their places. -/
theorem pairwise_childIds (t : Tree) (i : Nat) : (t.childIds i).Pairwise (· < ·) := by
  have hplaces : ((t.descendantRecords i).zipIdx (i + 1)).Pairwise fun a b => a.2 < b.2 := by
    rw [← List.pairwise_map (f := Prod.snd) (R := (· < ·)), List.zipIdx_map_snd]
    exact List.pairwise_lt_range'
  refine List.Pairwise.filterMap _ (fun a b hab j hj k hk => ?_) hplaces
  simp only [Option.ite_none_right_eq_some, Option.some.injEq] at hj hk
  omega

end Tree

namespace Node

variable {n m : Node}

/-- The children of a node stand one after another in the source. -/
theorem pairwise_children (h : n.tree.WellFormed) :
    n.children.Pairwise fun a b => a.id < b.id ∧ a.stop ≤ b.start := by
  rw [children, List.pairwise_map]
  refine List.Pairwise.imp_of_mem (fun {i j} hi hj hij => ⟨hij, ?_⟩) (n.tree.pairwise_childIds n.id)
  exact h.siblings i j n.id hij (Tree.mem_childIds hj).2 (Tree.parent_of_mem_childIds hi)
    (Tree.parent_of_mem_childIds hj)

end Node

end StructuralSearch
