import StructuralSearch.Proofs.Tree

/-!
# Walking in a tree

Every walk from a node stays in its tree: it comes to nodes that the tree lists, or to the node that
it started from.

* `Node.OfTree`: the nodes of a tree, and one node that need not be listed.

Results:
1. `Node.OfTree.trans`, `Node.OfTree.listed`: from a listed node, only listed nodes are reached.
2. `Node.ofTree_children`, `Node.ofTree_preorder`, `Node.ofTree_following`, and so on: related nodes
   are of the same tree.
3. `Node.pairwise_preorder`: the order of the nodes below a node.
-/

namespace StructuralSearch

namespace Node

/-- A node of the tree of `origin`: `origin` itself or one that the tree lists. -/
def OfTree (origin n : Node) : Prop :=
  n.tree = origin.tree ∧ (n.id < origin.tree.size ∨ n.id = origin.id)

variable {origin n m : Node}

theorem ofTree_self (n : Node) : n.OfTree n := ⟨rfl, Or.inr rfl⟩

/-- Nodes of the tree of a node of a tree are nodes of that tree. -/
theorem OfTree.trans (h : OfTree origin n) (k : OfTree n m) : OfTree origin m := by
  obtain ⟨htree, hid⟩ := h
  obtain ⟨htree', hid'⟩ := k
  refine ⟨htree'.trans htree, ?_⟩
  rcases hid' with hid' | hid'
  · exact Or.inl (htree ▸ hid')
  · rwa [hid']

/-- In the tree of a listed node, all nodes are listed. -/
theorem OfTree.listed {t : Tree} {id : Nat} (h : OfTree ⟨t, id⟩ n) (hid : id < t.size) :
    n.tree = t ∧ n.id < t.size :=
  ⟨h.1, h.2.elim (fun hlt => hlt) fun heq => heq ▸ hid⟩

theorem ofTree_children (h : OfTree origin n) (hm : m ∈ n.children) : OfTree origin m := by
  obtain ⟨htree, -⟩ := h
  obtain ⟨id, hid, rfl⟩ := List.mem_map.mp hm
  exact ⟨htree, Or.inl (htree ▸ (Tree.mem_childIds hid).2)⟩

theorem ofTree_parent? (h : OfTree origin n) (hm : n.parent? = some m) : OfTree origin m := by
  obtain ⟨htree, hid⟩ := h
  have hlt := id_parent?_lt hm
  obtain ⟨i, hi, rfl⟩ := Option.map_eq_some_iff.mp hm
  refine ⟨htree, Or.inl ?_⟩
  rcases hid with hid | -
  · exact Nat.lt_trans hlt hid
  · -- a node that is not listed has no parent
    by_cases hlisted : n.id < n.tree.size
    · exact htree ▸ Nat.lt_trans hlt hlisted
    · have hnone : n.tree.records[n.id]? = none :=
        List.getElem?_eq_none_iff.mpr (Nat.le_of_not_lt hlisted)
      simp [record, Tree.record, hnone, Record.detached] at hi

theorem ofTree_ancestors (h : OfTree origin n) (hm : m ∈ n.ancestors) : OfTree origin m := by
  induction n using ancestors.induct with
  | case1 n hnone =>
    rw [ancestors] at hm
    split at hm
    · exact absurd hm List.not_mem_nil
    · next p hp => simp [hnone] at hp
  | case2 n p hp ih =>
    have hparent := ofTree_parent? h hp
    rw [ancestors] at hm
    split at hm
    · exact absurd hm List.not_mem_nil
    · next q hq =>
      obtain rfl : p = q := Option.some.inj (hp.symm.trans hq)
      rcases List.mem_cons.mp hm with rfl | hm
      · exact hparent
      · exact ih hparent hm

theorem ofTree_preorder (h : OfTree origin n) (hm : m ∈ n.preorder) : OfTree origin m := by
  obtain ⟨htree, hid⟩ := h
  obtain ⟨id, hmem, rfl⟩ := List.mem_map.mp hm
  obtain ⟨hlo, hhi⟩ := List.mem_range'_1.mp hmem
  refine ⟨htree, ?_⟩
  rcases Nat.eq_or_lt_of_le hlo with rfl | hlt
  · exact hid
  · -- below the node there are only nodes that are listed
    have hlen := n.tree.extent_le n.id
    refine Or.inl (htree ▸ ?_)
    show id < n.tree.size
    omega

theorem ofTree_siblings (h : OfTree origin n) (hm : m ∈ n.siblings) : OfTree origin m := by
  rw [siblings] at hm
  cases hp : n.parent? with
  | none => simp [hp] at hm
  | some p =>
    rw [hp] at hm
    exact ofTree_children (ofTree_parent? h hp) hm

theorem ofTree_nextAll (h : OfTree origin n) (hm : m ∈ n.nextAll) : OfTree origin m :=
  ofTree_siblings h (List.mem_of_mem_drop hm)

theorem ofTree_prevAll (h : OfTree origin n) (hm : m ∈ n.prevAll) : OfTree origin m :=
  ofTree_siblings h (List.mem_of_mem_take (List.mem_reverse.mp hm))

theorem ofTree_following (h : OfTree origin n) (hm : m ∈ n.following) : OfTree origin m := by
  obtain ⟨k, hk, hnext⟩ := List.mem_flatMap.mp hm
  rcases List.mem_cons.mp hk with rfl | hk
  · exact ofTree_nextAll h hnext
  · exact ofTree_nextAll (ofTree_ancestors h hk) hnext

theorem ofTree_preceding (h : OfTree origin n) (hm : m ∈ n.preceding) : OfTree origin m := by
  obtain ⟨k, hk, hprev⟩ := List.mem_flatMap.mp hm
  rcases List.mem_cons.mp hk with rfl | hk
  · exact ofTree_prevAll h hprev
  · exact ofTree_prevAll (ofTree_ancestors h hk) hprev

/-- The nodes below a node are listed in the order of their places. -/
theorem pairwise_preorder (n : Node) : n.preorder.Pairwise fun a b => a.id < b.id := by
  rw [preorder, List.pairwise_map]
  exact List.pairwise_lt_range'

end Node

end StructuralSearch
