import Mathlib.Data.List.Sort
import StructuralSearch.Proofs.Tree.Layout
import StructuralSearch.Proofs.Tree.Navigation

/-!
# Subtrees

The subtree of a node is given by parents: it has the node in it, and every node that has it among
its ancestors. In a list in pre-order, these are the node and a run of nodes behind it, and the runs
of its children follow one another.

* `Node.InSubtree`: a node is another one or below it.

Results:
1. `Node.mem_preorder_iff`: the subtree of a node is what is listed from it to the end of its run.
2. `Node.mem_ancestors_iff_children`: what is below a node is in the subtree of one of its children.
3. `Node.preorder_eq`: a subtree in pre-order is its root, and then the subtrees of the children.
-/

namespace StructuralSearch

namespace Tree

variable {t : Tree} {i j : Nat}

/-- The run of a node in a subtree ends where that of the root of the subtree ends, or before. -/
theorem subtreeEnd_le_subtreeEnd (hj : j < t.size) (hij : i ≤ j) (hend : j < t.subtreeEnd i) :
    t.subtreeEnd j ≤ t.subtreeEnd i := by
  by_contra hout
  have hsize := subtreeEnd_le hj
  obtain ⟨p, hp, hjp⟩ := exists_parent_of_lt_subtreeEnd hend (Nat.lt_of_not_le hout)
  have := parent_subtreeEnd_lt (by omega) hp
  omega

end Tree

namespace Node

variable {n m k c d p : Node}

/-! ## Ancestors -/

theorem parent?_eq_some_iff :
    n.parent? = some m ↔ m.tree = n.tree ∧ n.record.parent = some m.id ∧ m.id < n.id := by
  obtain ⟨tree, id⟩ := m
  simp only [parent?, Option.map_eq_some_iff, Option.filter_eq_some_iff, decide_eq_true_eq,
    Node.mk.injEq]
  constructor
  · rintro ⟨_, ⟨hp, hlt⟩, rfl, rfl⟩
    exact ⟨rfl, hp, hlt⟩
  · rintro ⟨rfl, hp, hlt⟩
    exact ⟨id, ⟨hp, hlt⟩, rfl, rfl⟩

theorem mem_ancestors_iff :
    m ∈ n.ancestors ↔ ∃ p, n.parent? = some p ∧ (m = p ∨ m ∈ p.ancestors) := by
  rw [ancestors]
  split
  · next hp => simp [hp]
  · next p hp => simp [hp]

/-- What holds of the children of a node, and of a child if it holds of the parent, holds below the
node. -/
theorem ancestors_induction {P : Node → Prop} (parent : ∀ {k}, k.parent? = some m → P k)
    (step : ∀ {k p}, k.parent? = some p → m ∈ p.ancestors → P p → P k) (h : m ∈ n.ancestors) :
    P n := by
  induction n using ancestors.induct with
  | case1 n hnone =>
    obtain ⟨p, hp, -⟩ := mem_ancestors_iff.mp h
    simp [hnone] at hp
  | case2 n p hp ih =>
    obtain ⟨q, hq, hm⟩ := mem_ancestors_iff.mp h
    obtain rfl : p = q := Option.some.inj (hp.symm.trans hq)
    rcases hm with rfl | hm
    · exact parent hp
    · exact step hp hm (ih hm)

theorem ancestors_trans (h : m ∈ n.ancestors) (hc : c ∈ m.ancestors) : c ∈ n.ancestors := by
  refine ancestors_induction (P := fun k => c ∈ k.ancestors) (fun hp => ?_) (fun hp _ ih => ?_) h
  · exact mem_ancestors_iff.mpr ⟨m, hp, Or.inr hc⟩
  · exact mem_ancestors_iff.mpr ⟨_, hp, Or.inr ih⟩

theorem ancestors_eq_nil (hp : n.parent? = none) : n.ancestors = [] := by
  rw [ancestors]
  split
  · rfl
  · next q hq => cases hp.symm.trans hq

theorem ancestors_eq_cons (hp : n.parent? = some p) : n.ancestors = p :: p.ancestors := by
  rw [ancestors]
  split
  · next hnone => cases hp.symm.trans hnone
  · next q hq => rw [Option.some.inj (hp.symm.trans hq)]

/-- An ancestor is listed before the node. -/
theorem id_lt_of_mem_ancestors (h : m ∈ n.ancestors) : m.id < n.id :=
  ancestors_induction (P := fun k => m.id < k.id) id_parent?_lt
    (fun hp _ ih => Nat.lt_trans ih (id_parent?_lt hp)) h

theorem not_mem_ancestors_self (n : Node) : n ∉ n.ancestors :=
  fun h => Nat.lt_irrefl _ (id_lt_of_mem_ancestors h)

/-- A node with a parent is listed. -/
theorem lt_size_of_parent? (h : n.parent? = some m) : n.id < n.tree.size := by
  obtain ⟨-, hp, -⟩ := parent?_eq_some_iff.mp h
  by_contra hout
  have hnone : n.tree.records[n.id]? = none :=
    List.getElem?_eq_none_iff.mpr (Nat.le_of_not_lt hout)
  simp [record, Tree.record, hnone, Record.detached] at hp

theorem parent?_of_mem_children (h : c ∈ n.children) : c.parent? = some n := by
  obtain ⟨j, hj, rfl⟩ := List.mem_map.mp h
  exact parent?_eq_some_iff.mpr ⟨rfl, Tree.parent_of_mem_childIds hj, (Tree.mem_childIds hj).1⟩

theorem tree_of_mem_children (h : c ∈ n.children) : c.tree = n.tree :=
  (parent?_eq_some_iff.mp (parent?_of_mem_children h)).1.symm

theorem lt_size_of_mem_children (h : c ∈ n.children) : c.id < c.tree.size :=
  lt_size_of_parent? (parent?_of_mem_children h)

theorem mem_children_iff (h : n.tree.Preordered) : c ∈ n.children ↔ c.parent? = some n := by
  refine ⟨parent?_of_mem_children, fun hc => ?_⟩
  have hsize := lt_size_of_parent? hc
  obtain ⟨htree, hp, hlt⟩ := parent?_eq_some_iff.mp hc
  obtain ⟨tree, id⟩ := c
  obtain rfl : n.tree = tree := htree
  exact List.mem_map_of_mem (h.mem_childIds hsize hp hlt)

/-! ## Subtrees -/

/-- The node is the root of the subtree or below it. -/
def InSubtree (k n : Node) : Prop := k = n ∨ n ∈ k.ancestors

theorem inSubtree_of_parent? (hp : k.parent? = some m) (hm : m.InSubtree n) : k.InSubtree n :=
  Or.inr (mem_ancestors_iff.mpr ⟨m, hp, hm.imp_left Eq.symm⟩)

theorem InSubtree.trans (hd : d.InSubtree c) (hc : c.InSubtree n) : d.InSubtree n := by
  rcases hd with rfl | hd
  · exact hc
  · rcases hc with rfl | hc
    · exact Or.inr hd
    · exact Or.inr (ancestors_trans hd hc)

/-- A node that is above another is not in its subtree. -/
theorem not_inSubtree_of_mem_ancestors (h : m ∈ n.ancestors) : ¬ m.InSubtree n := by
  rintro (rfl | hn)
  · exact not_mem_ancestors_self m h
  · exact Nat.lt_asymm (id_lt_of_mem_ancestors h) (id_lt_of_mem_ancestors hn)

theorem inSubtree_of_mem_children (hc : c ∈ n.children) : c.InSubtree n :=
  inSubtree_of_parent? (parent?_of_mem_children hc) (Or.inl rfl)

/-- Of two nodes whose subtrees share a node, one is above the other or the same. -/
theorem inSubtree_or_mem_ancestors (hc : d.InSubtree c) (hk : d.InSubtree k) :
    k.InSubtree c ∨ k ∈ c.ancestors := by
  rcases hc with rfl | hc
  · exact hk.imp_left fun heq => Or.inl heq.symm
  · -- from the child of `c` down to `d`, each node is `k`, or its parent is in the subtree of `k`
    refine ancestors_induction
      (P := fun x => x.InSubtree k → k.InSubtree c ∨ k ∈ c.ancestors) (fun hp hk => ?_)
      (fun hp hc ih hk => ?_) hc hk
    · rcases hk with rfl | hk
      · exact Or.inl (inSubtree_of_parent? hp (Or.inl rfl))
      · rw [ancestors_eq_cons hp, List.mem_cons] at hk
        exact hk.imp_left Or.inl
    · rcases hk with rfl | hk
      · exact Or.inl (inSubtree_of_parent? hp (Or.inr hc))
      · rw [ancestors_eq_cons hp, List.mem_cons] at hk
        exact ih (hk.imp_left Eq.symm)

/-- The way from a node down to another goes through one child. -/
theorem child_unique (hc : c ∈ n.children) (hm : m ∈ n.children) (hdc : d.InSubtree c)
    (hdm : d.InSubtree m) : m = c := by
  have habove : ∀ {x y}, x ∈ n.children → y ∈ n.children → x ∉ y.ancestors := by
    intro x y hx hy hxy
    rw [ancestors_eq_cons (parent?_of_mem_children hy), List.mem_cons] at hxy
    have hin := inSubtree_of_mem_children hx
    rcases hxy with rfl | hxy
    · exact Nat.lt_irrefl _ (id_parent?_lt (parent?_of_mem_children hx))
    · exact not_inSubtree_of_mem_ancestors hxy hin
  rcases inSubtree_or_mem_ancestors hdc hdm with (heq | h) | h
  · exact heq
  · exact absurd h (habove hc hm)
  · exact absurd h (habove hm hc)

/-- What is below a node is in the subtree of one of its children. -/
theorem mem_ancestors_iff_children (h : n.tree.Preordered) :
    n ∈ k.ancestors ↔ ∃ c ∈ n.children, k.InSubtree c := by
  constructor
  · intro hk
    refine ancestors_induction (P := fun k => ∃ c ∈ n.children, k.InSubtree c) (fun hp => ?_)
      (fun hp _ ih => ?_) hk
    · exact ⟨_, (mem_children_iff h).mpr hp, Or.inl rfl⟩
    · obtain ⟨c, hc, hpc⟩ := ih
      exact ⟨c, hc, inSubtree_of_parent? hp hpc⟩
  · rintro ⟨c, hc, hk⟩
    have hn : n ∈ c.ancestors :=
      mem_ancestors_iff.mpr ⟨n, parent?_of_mem_children hc, Or.inl rfl⟩
    rcases hk with rfl | hk
    · exact hn
    · exact ancestors_trans hk hn

/-! ## Subtrees in pre-order -/

theorem mem_preorder_iff_id :
    k ∈ n.preorder ↔ k.tree = n.tree ∧ n.id ≤ k.id ∧ k.id < n.subtreeEnd := by
  obtain ⟨tree, id⟩ := k
  simp only [preorder, subtreeEnd, Tree.subtreeEnd, List.mem_map, List.mem_range'_1, Node.mk.injEq]
  constructor
  · rintro ⟨_, ⟨hlo, hhi⟩, rfl, rfl⟩
    exact ⟨rfl, hlo, by omega⟩
  · rintro ⟨rfl, hlo, hhi⟩
    exact ⟨id, ⟨hlo, by omega⟩, rfl, rfl⟩

theorem mem_preorder_self (n : Node) : n ∈ n.preorder :=
  mem_preorder_iff_id.mpr ⟨rfl, Nat.le_refl _, n.tree.lt_subtreeEnd n.id⟩

/-- What is listed for a child is listed for the node. -/
theorem preorder_subset (h : c ∈ n.children) : c.preorder ⊆ n.preorder := by
  intro k hk
  obtain ⟨j, hj, rfl⟩ := List.mem_map.mp h
  obtain ⟨hlo, hsize⟩ := Tree.mem_childIds hj
  obtain ⟨htree, hle, hend⟩ := mem_preorder_iff_id.mp hk
  have hrun := Tree.subtreeEnd_le_subtreeEnd hsize (Nat.le_of_lt hlo)
    (Tree.lt_subtreeEnd_of_mem_childIds hj)
  exact mem_preorder_iff_id.mpr ⟨htree, Nat.le_trans (Nat.le_of_lt hlo) hle,
    Nat.lt_of_lt_of_le hend hrun⟩

/-- A child of a listed node is listed. -/
theorem mem_preorder_of_parent? (h : n.tree.Preordered) (hp : k.parent? = some m)
    (hm : m ∈ n.preorder) : k ∈ n.preorder := by
  obtain ⟨htree, hparent, hlt⟩ := parent?_eq_some_iff.mp hp
  obtain ⟨hmtree, hlo, hhi⟩ := mem_preorder_iff_id.mp hm
  have hktree : k.tree = n.tree := htree.symm.trans hmtree
  have hsize := lt_size_of_parent? hp
  rw [record, hktree] at hparent
  rw [hktree] at hsize
  exact mem_preorder_iff_id.mpr
    ⟨hktree, Nat.le_of_lt (Nat.lt_of_le_of_lt hlo hlt), h.lt_subtreeEnd hsize hparent hlo hhi⟩

/-- A node that is listed behind the root of the subtree has its parent there. -/
theorem exists_parent?_of_mem_preorder (h : n.tree.Preordered) (hn : n.id < n.tree.size)
    (hk : k ∈ n.preorder) (hne : k ≠ n) : ∃ p, k.parent? = some p ∧ p ∈ n.preorder := by
  obtain ⟨htree, hlo, hhi⟩ := mem_preorder_iff_id.mp hk
  obtain ⟨tree, id⟩ := k
  obtain rfl : tree = n.tree := htree
  have hlt : n.id < id := Nat.lt_of_le_of_ne hlo fun heq => hne (congrArg (Node.mk n.tree) heq.symm)
  have hsize : id < n.tree.size := Nat.lt_of_lt_of_le hhi (Tree.subtreeEnd_le hn)
  obtain ⟨p, hp, hnp⟩ := Tree.exists_parent_of_lt_subtreeEnd hlt hhi
  obtain ⟨q, hq, hqid⟩ := h.parent id (Nat.zero_lt_of_lt hlt) hsize
  obtain rfl : p = q := Option.some.inj (hp.symm.trans hq)
  exact ⟨⟨n.tree, p⟩, parent?_eq_some_iff.mpr ⟨rfl, hp, hqid⟩,
    mem_preorder_iff_id.mpr ⟨rfl, hnp, Nat.lt_trans hqid hhi⟩⟩

/-- A subtree is what is listed from its root to the end of the run. -/
theorem mem_preorder_iff (h : n.tree.Preordered) (hn : n.id < n.tree.size) :
    k ∈ n.preorder ↔ k.InSubtree n := by
  constructor
  · intro hk
    induction hid : k.id using Nat.strongRecOn generalizing k with
    | ind id ih =>
      by_cases heq : k = n
      · exact Or.inl heq
      · obtain ⟨p, hp, hin⟩ := exists_parent?_of_mem_preorder h hn hk heq
        have hlt : p.id < id := hid ▸ id_parent?_lt hp
        exact inSubtree_of_parent? hp (ih p.id hlt hin rfl)
  · rintro (rfl | hk)
    · exact k.mem_preorder_self
    · refine ancestors_induction (P := fun k => k ∈ n.preorder) (fun hp => ?_)
        (fun hp _ ih => ?_) hk
      · exact mem_preorder_of_parent? h hp n.mem_preorder_self
      · exact mem_preorder_of_parent? h hp ih

/-- The runs of the children of a node follow one another. -/
theorem pairwise_runs (n : Node) : n.children.Pairwise fun a b => a.subtreeEnd ≤ b.id := by
  rw [children, List.pairwise_map]
  refine (n.tree.pairwise_childIds n.id).imp_of_mem fun {i j} hi hj hij => ?_
  show n.tree.subtreeEnd i ≤ j
  by_contra hout
  -- the later child would be below the earlier one
  obtain ⟨p, hp, hip⟩ := Tree.exists_parent_of_lt_subtreeEnd hij (Nat.lt_of_not_le hout)
  obtain rfl := Option.some.inj ((Tree.parent_of_mem_childIds hj).symm.trans hp)
  have := (Tree.mem_childIds hi).1
  omega

/-- A subtree in pre-order is its root, and then the subtrees of the children. -/
theorem preorder_eq (h : n.tree.Preordered) (hn : n.id < n.tree.size) :
    n.preorder = n :: n.children.flatMap preorder := by
  -- both lists are in the order of places, and they have the same nodes
  refine List.Pairwise.eq_of_mem_iff (pairwise_preorder n) ?_ fun k => ?_
  · refine .cons (fun k hk => ?_) (List.pairwise_flatMap.mpr ⟨fun c _ => pairwise_preorder c, ?_⟩)
    · obtain ⟨c, hc, hk⟩ := List.mem_flatMap.mp hk
      obtain ⟨-, -, hlt⟩ := parent?_eq_some_iff.mp (parent?_of_mem_children hc)
      exact Nat.lt_of_lt_of_le hlt (mem_preorder_iff_id.mp hk).2.1
    · refine n.pairwise_runs.imp fun {a b} hab x hx y hy => ?_
      exact Nat.lt_of_lt_of_le (mem_preorder_iff_id.mp hx).2.2
        (Nat.le_trans hab (mem_preorder_iff_id.mp hy).2.1)
  · rw [mem_preorder_iff h hn, InSubtree, mem_ancestors_iff_children h, List.mem_cons,
      List.mem_flatMap]
    refine or_congr_right (exists_congr fun c => and_congr_right fun hc => ?_)
    exact (mem_preorder_iff (tree_of_mem_children hc ▸ h) (lt_size_of_mem_children hc)).symm

theorem descendants_eq (h : n.tree.Preordered) (hn : n.id < n.tree.size) :
    n.descendants = n.children.flatMap preorder := by
  rw [descendants, preorder_eq h hn, List.tail_cons]

end Node

end StructuralSearch
