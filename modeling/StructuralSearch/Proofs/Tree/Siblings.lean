import StructuralSearch.Proofs.Tree.Order

/-!
# Children by index, and steps to siblings

A node is the child of its parent at its own index. The next and the previous sibling are the
children of the parent at the neighbouring indexes; a step to the one is undone by a step to the
other, and steps in one direction come to all siblings on that side, nearest first.

Results:
1. `Node.child?_eq_some_iff`: children by index.
2. `Node.next?_eq_some_iff`, `Node.prev?_eq_some_iff`: neighbours have the same parent and
   neighbouring indexes.
3. `Node.next?_iff_prev?`, `Node.prev?_iff_next?`: a step forth is undone by a step back.
4. `Node.nextAll_eq`, `Node.prevAll_eq`: the siblings on one side are found step by step.
-/

namespace StructuralSearch

namespace Node

variable {n m p c : Node} {i : Nat}

/-! ## Children by index -/

theorem nodup_children (n : Node) : n.children.Nodup :=
  n.pairwise_id_children.imp fun hlt heq => Nat.ne_of_lt hlt (congrArg Node.id heq)

/-- A node is the child of its parent at its own index. -/
theorem child?_indexInParent (h : n.tree.Preordered) (hp : n.parent? = some p) :
    p.child? n.indexInParent = some n := by
  obtain ⟨hlt, hget⟩ := siblings_indexInParent (mem_siblings_self h hp)
  rw [child?, ← siblings_eq hp, List.getElem?_eq_getElem hlt, hget]

theorem child?_eq_some_iff (h : n.tree.Preordered) :
    n.child? i = some c ↔ c.parent? = some n ∧ c.indexInParent = i := by
  constructor
  · intro hc
    have hmem : c ∈ n.children := List.mem_of_getElem? hc
    have hparent := parent?_of_mem_children hmem
    have hindex := child?_indexInParent (tree_of_mem_children hmem ▸ h) hparent
    obtain ⟨hlt, -⟩ := List.getElem?_eq_some_iff.mp hindex
    exact ⟨hparent, (List.getElem?_inj hlt (nodup_children n)).mp (hindex.trans hc.symm)⟩
  · rintro ⟨hparent, rfl⟩
    exact child?_indexInParent ((parent?_eq_some_iff.mp hparent).1 ▸ h) hparent

/-! ## Neighbours -/

theorem getElem?_siblings (n : Node) (i : Nat) :
    n.siblings[i]? = n.parent?.bind (·.child? i) := by
  rw [siblings]
  cases n.parent? <;> rfl

theorem indexInParent_le (n : Node) : n.indexInParent ≤ n.siblings.length := by
  rw [indexInParent]
  split
  · exact Nat.zero_le _
  · exact List.findIdx_le_length

/-- The next sibling is the child of the parent at the next index. -/
theorem next?_eq (n : Node) : n.next? = n.parent?.bind (·.child? (n.indexInParent + 1)) := by
  rw [next?, nextAll, List.head?_drop, getElem?_siblings]

/-- The previous sibling is the child of the parent at the index before. -/
theorem prev?_eq (n : Node) :
    n.prev? =
      if n.indexInParent = 0 then none else n.parent?.bind (·.child? (n.indexInParent - 1)) := by
  rw [prev?, prevAll, List.head?_reverse, List.getLast?_take]
  split
  · rfl
  · next h =>
    have hle := n.indexInParent_le
    have hlt : n.indexInParent - 1 < n.siblings.length := by omega
    rw [← getElem?_siblings, List.getElem?_eq_getElem hlt, Option.some_or]

theorem next?_eq_some_iff (h : n.tree.Preordered) :
    n.next? = some m ↔
      ∃ p, n.parent? = some p ∧ m.parent? = some p ∧ m.indexInParent = n.indexInParent + 1 := by
  rw [next?_eq, Option.bind_eq_some_iff]
  refine exists_congr fun p => and_congr_right fun hp => ?_
  exact child?_eq_some_iff ((parent?_eq_some_iff.mp hp).1 ▸ h)

theorem prev?_eq_some_iff (h : n.tree.Preordered) :
    n.prev? = some m ↔
      ∃ p, n.parent? = some p ∧ m.parent? = some p ∧ m.indexInParent + 1 = n.indexInParent := by
  rw [prev?_eq]
  split
  · next hzero =>
    simp only [reduceCtorEq, false_iff, not_exists, not_and]
    intro p _ _
    omega
  · next hpos =>
    rw [Option.bind_eq_some_iff]
    refine exists_congr fun p => and_congr_right fun hp => ?_
    rw [child?_eq_some_iff ((parent?_eq_some_iff.mp hp).1 ▸ h)]
    exact and_congr_right fun _ => by omega

theorem tree_of_next? (hm : n.next? = some m) : m.tree = n.tree :=
  tree_of_mem_siblings (List.mem_of_mem_drop (List.mem_of_mem_head? hm))

theorem tree_of_prev? (hm : n.prev? = some m) : m.tree = n.tree :=
  tree_of_mem_siblings (List.mem_of_mem_take (List.mem_reverse.mp (List.mem_of_mem_head? hm)))

/-- A step to the next sibling is undone by a step to the previous one. -/
theorem next?_iff_prev? (h : n.tree.Preordered) : n.next? = some m ↔ m.prev? = some n := by
  constructor
  · intro hm
    obtain ⟨p, hp, hmp, hindex⟩ := (next?_eq_some_iff h).mp hm
    exact (prev?_eq_some_iff (tree_of_next? hm ▸ h)).mpr ⟨p, hmp, hp, hindex.symm⟩
  · intro hm
    obtain ⟨p, hmp, hp, hindex⟩ := (prev?_eq_some_iff (tree_of_prev? hm ▸ h)).mp hm
    exact (next?_eq_some_iff h).mpr ⟨p, hp, hmp, hindex.symm⟩

theorem prev?_iff_next? (h : n.tree.Preordered) : n.prev? = some m ↔ m.next? = some n :=
  ⟨fun hm => (next?_iff_prev? (tree_of_prev? hm ▸ h)).mpr hm,
    fun hm => (next?_iff_prev? (tree_of_next? hm ▸ h)).mp hm⟩

/-! ## Steps in one direction -/

/-- The following siblings are the next one and those that follow it. -/
theorem nextAll_eq (h : n.tree.Preordered) :
    n.nextAll = n.next?.elim [] fun m => m :: m.nextAll := by
  cases hnext : n.nextAll with
  | nil => rw [next?, hnext]; rfl
  | cons m l =>
    have hm : n.next? = some m := by rw [next?, hnext, List.head?_cons]
    obtain ⟨p, hp, hmp, hindex⟩ := (next?_eq_some_iff h).mp hm
    have hrest : m.nextAll = l := by
      rw [nextAll, siblings_eq hmp, ← siblings_eq hp, hindex, ← List.tail_drop, ← nextAll, hnext,
        List.tail_cons]
    rw [hm, Option.elim_some, hrest]

/-- The preceding siblings are the previous one and those that precede it. -/
theorem prevAll_eq (h : n.tree.Preordered) :
    n.prevAll = n.prev?.elim [] fun m => m :: m.prevAll := by
  cases hprev : n.prevAll with
  | nil => rw [prev?, hprev]; rfl
  | cons m l =>
    have hm : n.prev? = some m := by rw [prev?, hprev, List.head?_cons]
    obtain ⟨p, hp, hmp, hindex⟩ := (prev?_eq_some_iff h).mp hm
    obtain ⟨hlt, -⟩ := siblings_indexInParent (mem_siblings_self h hp)
    have hrest : m.prevAll = l := by
      rw [prevAll, siblings_eq hmp, ← siblings_eq hp, Nat.eq_sub_of_add_eq hindex,
        ← List.dropLast_take hlt, ← List.tail_reverse, ← prevAll, hprev, List.tail_cons]
    rw [hm, Option.elim_some, hrest]

end Node

end StructuralSearch
