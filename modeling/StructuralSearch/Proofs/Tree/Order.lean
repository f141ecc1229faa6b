import Mathlib.Data.List.Pairwise
import StructuralSearch.Proofs.Tree.Subtree

/-!
# Before and after a node

Seen from a node, every node of its tree is an ancestor, is in the subtree, or comes after or before
the subtree. What comes after is in the subtrees of the following siblings of the node and of its
ancestors, what comes before in those of their preceding siblings.

* `Node.Side`, `Node.LiesOn`: where a node lies, seen from another one.

Results:
1. `Node.children_eq_append`: a node between its preceding and its following siblings.
2. `Node.exists_mem_following_iff`, `Node.exists_mem_preceding_iff`: the nodes that come after and
   before a node.
3. `Node.pairwise_following`, `Node.pairwise_preceding`: the order of the subtrees in which they
   are.
4. `Node.sides_in_document_order`: every node lies on one side, and the sides are in order.
-/

namespace StructuralSearch

namespace Node

variable {n m p c : Node}

/-! ## Siblings -/

theorem siblings_eq (hp : n.parent? = some p) : n.siblings = p.children := by
  rw [siblings, hp, Option.map_some, Option.getD_some]

theorem siblings_eq_nil (hp : n.parent? = none) : n.siblings = [] := by
  rw [siblings, hp, Option.map_none, Option.getD_none]

theorem exists_parent?_of_mem_siblings (hm : m ∈ n.siblings) :
    ∃ p, n.parent? = some p ∧ m ∈ p.children := by
  cases hp : n.parent? with
  | none => simp [siblings_eq_nil hp] at hm
  | some p => exact ⟨p, rfl, siblings_eq hp ▸ hm⟩

theorem mem_siblings_self (h : n.tree.Preordered) (hp : n.parent? = some p) : n ∈ n.siblings := by
  rw [siblings_eq hp]
  exact (mem_children_iff ((parent?_eq_some_iff.mp hp).1 ▸ h)).mpr hp

theorem tree_of_mem_siblings (hm : m ∈ n.siblings) : m.tree = n.tree := by
  obtain ⟨p, hp, hmp⟩ := exists_parent?_of_mem_siblings hm
  exact (tree_of_mem_children hmp).trans (parent?_eq_some_iff.mp hp).1

/-- Siblings have the same siblings. -/
theorem siblings_of_mem (hm : m ∈ n.siblings) : m.siblings = n.siblings := by
  obtain ⟨p, hp, hmp⟩ := exists_parent?_of_mem_siblings hm
  rw [siblings_eq hp, siblings_eq (parent?_of_mem_children hmp)]

theorem pairwise_id_children (n : Node) : n.children.Pairwise fun a b => a.id < b.id := by
  rw [children, List.pairwise_map]
  exact n.tree.pairwise_childIds n.id

theorem pairwise_siblings (n : Node) : n.siblings.Pairwise fun a b => a.id < b.id := by
  rw [siblings]
  cases n.parent? with
  | none => exact .nil
  | some p => exact p.pairwise_id_children

/-- The index of a node in its parent is its place among the siblings. -/
theorem siblings_indexInParent (hn : n ∈ n.siblings) :
    ∃ h : n.indexInParent < n.siblings.length, n.siblings[n.indexInParent] = n := by
  have hindex : n.indexInParent = n.siblings.findIdx (·.id == n.id) := by
    rw [indexInParent, if_neg]
    simpa using List.ne_nil_of_mem hn
  have hlt : n.indexInParent < n.siblings.length :=
    hindex ▸ List.findIdx_lt_length_of_exists ⟨n, hn, by simp⟩
  have hid : (n.siblings[n.indexInParent].id == n.id) = true := by
    simp only [hindex]
    exact List.findIdx_getElem (w := hindex ▸ hlt)
  refine ⟨hlt, ?_⟩
  have htree := tree_of_mem_siblings (List.getElem_mem hlt)
  cases hget : n.siblings[n.indexInParent] with
  | mk tree id =>
    rw [hget] at hid htree
    obtain rfl : tree = n.tree := htree
    exact congrArg (Node.mk n.tree) (beq_iff_eq.mp hid)

/-- A node stands between its preceding and its following siblings. -/
theorem children_eq_append (h : n.tree.Preordered) (hp : n.parent? = some p) :
    p.children = n.prevAll.reverse ++ n :: n.nextAll := by
  obtain ⟨hlt, hget⟩ := siblings_indexInParent (mem_siblings_self h hp)
  calc p.children
      = n.siblings := (siblings_eq hp).symm
    _ = n.siblings.take n.indexInParent ++ n.siblings.drop n.indexInParent :=
        (List.take_append_drop ..).symm
    _ = n.prevAll.reverse ++ n :: n.nextAll := by
        rw [List.drop_eq_getElem_cons hlt, hget, prevAll, List.reverse_reverse, nextAll]

/-- The siblings before a node end before it, and those after it begin behind its subtree. -/
theorem runs_of_siblings (h : n.tree.Preordered) (hp : n.parent? = some p) :
    (n.prevAll.Pairwise fun a b => b.subtreeEnd ≤ a.id) ∧
      (n.nextAll.Pairwise fun a b => a.subtreeEnd ≤ b.id) ∧
      (∀ a ∈ n.prevAll, a.subtreeEnd ≤ n.id) ∧ ∀ a ∈ n.nextAll, n.subtreeEnd ≤ a.id := by
  have hruns := p.pairwise_runs
  rw [children_eq_append h hp, List.pairwise_append, List.pairwise_reverse,
    List.pairwise_cons] at hruns
  obtain ⟨hprev, ⟨hafter, hnext⟩, hbefore⟩ := hruns
  exact ⟨hprev, hnext, fun a ha => hbefore a (List.mem_reverse.mpr ha) n List.mem_cons_self,
    hafter⟩

theorem prevAll_subset (h : n.tree.Preordered) (hp : n.parent? = some p) :
    n.prevAll ⊆ p.children := by
  intro a ha
  rw [children_eq_append h hp]
  exact List.mem_append_left _ (List.mem_reverse.mpr ha)

theorem nextAll_subset (h : n.tree.Preordered) (hp : n.parent? = some p) :
    n.nextAll ⊆ p.children := by
  intro a ha
  rw [children_eq_append h hp]
  exact List.mem_append_right _ (List.mem_cons_of_mem _ ha)

/-! ## Places -/

/-- A subtree by places. -/
theorem inSubtree_iff_id (h : n.tree.Preordered) (hn : n.id < n.tree.size) :
    m.InSubtree n ↔ m.tree = n.tree ∧ n.id ≤ m.id ∧ m.id < n.subtreeEnd :=
  (mem_preorder_iff h hn).symm.trans mem_preorder_iff_id

theorem places_of_inSubtree_child (h : p.tree.Preordered) (hc : c ∈ p.children)
    (hm : m.InSubtree c) : c.id ≤ m.id ∧ m.id < c.subtreeEnd :=
  ((inSubtree_iff_id (tree_of_mem_children hc ▸ h) (lt_size_of_mem_children hc)).mp hm).2

/-- Ancestors by places. -/
theorem mem_ancestors_iff_id (h : n.tree.Preordered) (hmt : m.tree = n.tree)
    (hm : m.id < n.tree.size) :
    m ∈ n.ancestors ↔ m.id < n.id ∧ n.id < m.subtreeEnd := by
  have hsubtree := inSubtree_iff_id (n := m) (m := n) (hmt ▸ h) (hmt ▸ hm)
  constructor
  · intro hmem
    exact ⟨id_lt_of_mem_ancestors hmem, (hsubtree.mp (Or.inr hmem)).2.2⟩
  · rintro ⟨hlt, hend⟩
    rcases hsubtree.mpr ⟨hmt.symm, Nat.le_of_lt hlt, hend⟩ with rfl | hmem
    · exact absurd hlt (Nat.lt_irrefl _)
    · exact hmem

/-- A node without a parent is the first of the list, and everything else is below it. -/
theorem root_of_parent?_eq_none (h : n.tree.Preordered) (hn : n.id < n.tree.size)
    (hp : n.parent? = none) : n.id = 0 ∧ n.tree.size ≤ n.subtreeEnd := by
  have hid : n.id = 0 := by
    by_contra hne
    obtain ⟨i, hi, hlt⟩ := h.parent n.id (Nat.pos_of_ne_zero hne) hn
    have hsome : n.parent? = some ⟨n.tree, i⟩ := parent?_eq_some_iff.mpr ⟨rfl, hi, hlt⟩
    cases hp.symm.trans hsome
  refine ⟨hid, Nat.le_of_not_lt fun hlt => ?_⟩
  obtain ⟨i, hi, -⟩ := h.parent n.subtreeEnd (Nat.zero_lt_of_lt (n.tree.lt_subtreeEnd n.id)) hlt
  have := Tree.parent_subtreeEnd_lt hlt hi
  omega

section

variable (h : n.tree.Preordered) (hp : n.parent? = some p)

include h hp

/-- The parent of a node is in the same tree, is listed before it, and ends behind it. -/
theorem parent?_places :
    p.tree.Preordered ∧ p.id < p.tree.size ∧ p.tree = n.tree ∧ p.id < n.id ∧
      n.subtreeEnd ≤ p.subtreeEnd := by
  obtain ⟨htree, -, hlt⟩ := parent?_eq_some_iff.mp hp
  have hsize := lt_size_of_parent? hp
  have hpre : p.tree.Preordered := htree ▸ h
  have hps : p.id < p.tree.size := htree ▸ Nat.lt_trans hlt hsize
  have hend := ((inSubtree_iff_id hpre hps).mp (inSubtree_of_parent? hp (Or.inl rfl))).2.2
  refine ⟨hpre, hps, htree, hlt, ?_⟩
  rw [subtreeEnd, subtreeEnd, htree] at *
  exact Tree.subtreeEnd_le_subtreeEnd hsize (Nat.le_of_lt hlt) hend

/-- What is below the parent is in the subtree of the node or of one of its siblings. -/
theorem exists_sibling_of_lt (hmt : m.tree = n.tree) (hlo : p.id < m.id)
    (hhi : m.id < p.subtreeEnd) :
    (∃ c ∈ n.prevAll, m.InSubtree c) ∨ m.InSubtree n ∨ ∃ c ∈ n.nextAll, m.InSubtree c := by
  obtain ⟨hpre, hps, htree, -⟩ := parent?_places h hp
  have hin : m.InSubtree p :=
    (inSubtree_iff_id hpre hps).mpr ⟨hmt.trans htree.symm, Nat.le_of_lt hlo, hhi⟩
  rcases hin with rfl | habove
  · exact absurd hlo (Nat.lt_irrefl _)
  · obtain ⟨c, hc, hm⟩ := (mem_ancestors_iff_children hpre).mp habove
    rw [children_eq_append h hp, List.mem_append, List.mem_reverse, List.mem_cons] at hc
    rcases hc with hc | rfl | hc
    · exact Or.inl ⟨c, hc, hm⟩
    · exact Or.inr (Or.inl hm)
    · exact Or.inr (Or.inr ⟨c, hc, hm⟩)

/-- What comes after a node below its parent is in the subtrees of the following siblings. -/
theorem exists_mem_nextAll_iff (hmt : m.tree = n.tree) :
    (∃ c ∈ n.nextAll, m.InSubtree c) ↔ n.subtreeEnd ≤ m.id ∧ m.id < p.subtreeEnd := by
  obtain ⟨hpre, hps, htree, hpn, -⟩ := parent?_places h hp
  obtain ⟨-, -, hprev, hnext⟩ := runs_of_siblings h hp
  constructor
  · rintro ⟨c, hc, hm⟩
    have hcp := nextAll_subset h hp hc
    have hinp := hm.trans (inSubtree_of_mem_children hcp)
    have hlo := (places_of_inSubtree_child hpre hcp hm).1
    exact ⟨Nat.le_trans (hnext c hc) hlo, ((inSubtree_iff_id hpre hps).mp hinp).2.2⟩
  · rintro ⟨hlo, hhi⟩
    have hn := n.tree.lt_subtreeEnd n.id
    have hafter : n.id < m.id := Nat.lt_of_lt_of_le hn hlo
    rcases exists_sibling_of_lt h hp hmt (Nat.lt_trans hpn hafter) hhi with ⟨c, hc, hm⟩ | hm | hm
    · have hinc := places_of_inSubtree_child hpre (prevAll_subset h hp hc) hm
      have := hprev c hc
      omega
    · have hinn := (inSubtree_iff_id h (lt_size_of_parent? hp)).mp hm
      omega
    · exact hm

/-- What comes before a node below its parent is in the subtrees of the preceding siblings. -/
theorem exists_mem_prevAll_iff (hmt : m.tree = n.tree) :
    (∃ c ∈ n.prevAll, m.InSubtree c) ↔ p.id < m.id ∧ m.id < n.id := by
  obtain ⟨hpre, hps, htree, hpn, hend⟩ := parent?_places h hp
  obtain ⟨-, -, hprev, hnext⟩ := runs_of_siblings h hp
  constructor
  · rintro ⟨c, hc, hm⟩
    have hcp := prevAll_subset h hp hc
    have hinc := places_of_inSubtree_child hpre hcp hm
    have := hprev c hc
    have := id_parent?_lt (parent?_of_mem_children hcp)
    omega
  · rintro ⟨hlo, hhi⟩
    have hn := n.tree.lt_subtreeEnd n.id
    have hbelow : m.id < p.subtreeEnd := by
      simp only [subtreeEnd] at *
      omega
    rcases exists_sibling_of_lt h hp hmt hlo hbelow with hm | hm | ⟨c, hc, hm⟩
    · exact hm
    · have hinn := (inSubtree_iff_id h (lt_size_of_parent? hp)).mp hm
      omega
    · have hinc := places_of_inSubtree_child hpre (nextAll_subset h hp hc) hm
      have := hnext c hc
      simp only [subtreeEnd] at *
      omega

end

/-! ## What comes after and before -/

theorem following_eq (hp : n.parent? = some p) : n.following = n.nextAll ++ p.following := by
  rw [following, ancestors_eq_cons hp, List.flatMap_cons, following]

theorem following_eq_nil (hp : n.parent? = none) : n.following = [] := by
  rw [following, ancestors_eq_nil hp, List.flatMap_singleton, nextAll, siblings_eq_nil hp,
    List.drop_nil]

theorem preceding_eq (hp : n.parent? = some p) : n.preceding = n.prevAll ++ p.preceding := by
  rw [preceding, ancestors_eq_cons hp, List.flatMap_cons, preceding]

theorem preceding_eq_nil (hp : n.parent? = none) : n.preceding = [] := by
  rw [preceding, ancestors_eq_nil hp, List.flatMap_singleton, prevAll, siblings_eq_nil hp,
    List.take_nil, List.reverse_nil]

/-- What comes after the subtree of a node is in the subtrees of the nodes that follow. -/
theorem exists_mem_following_iff (h : n.tree.Preordered) (hn : n.id < n.tree.size)
    (hmt : m.tree = n.tree) (hm : m.id < n.tree.size) :
    (∃ f ∈ n.following, m.InSubtree f) ↔ n.subtreeEnd ≤ m.id := by
  induction n using ancestors.induct with
  | case1 n hp =>
    have hroot := (root_of_parent?_eq_none h hn hp).2
    simp only [following_eq_nil hp, List.not_mem_nil, false_and, exists_false, false_iff]
    omega
  | case2 n p hp ih =>
    obtain ⟨hpre, hps, htree, -, hend⟩ := parent?_places h hp
    have hstep := ih hpre hps (hmt.trans htree.symm) (htree ▸ hm)
    simp only [following_eq hp, List.mem_append, or_and_right, exists_or, hstep,
      exists_mem_nextAll_iff h hp hmt]
    omega

/-- What comes before a node and is no ancestor is in the subtrees of the nodes that precede. -/
theorem exists_mem_preceding_iff (h : n.tree.Preordered) (hn : n.id < n.tree.size)
    (hmt : m.tree = n.tree) (hm : m.id < n.tree.size) :
    (∃ f ∈ n.preceding, m.InSubtree f) ↔ m.id < n.id ∧ m ∉ n.ancestors := by
  induction n using ancestors.induct with
  | case1 n hp =>
    have hroot := (root_of_parent?_eq_none h hn hp).1
    simp only [preceding_eq_nil hp, List.not_mem_nil, false_and, exists_false, false_iff]
    omega
  | case2 n p hp ih =>
    obtain ⟨hpre, hps, htree, hpn, -⟩ := parent?_places h hp
    have hstep := ih hpre hps (hmt.trans htree.symm) (htree ▸ hm)
    have hparent : m = p ↔ m.id = p.id := by
      obtain ⟨tree, id⟩ := m
      obtain rfl : tree = p.tree := hmt.trans htree.symm
      exact ⟨congrArg Node.id, congrArg (Node.mk p.tree)⟩
    have habove : m ∈ p.ancestors → m.id < p.id := id_lt_of_mem_ancestors
    simp only [preceding_eq hp, List.mem_append, or_and_right, exists_or, hstep,
      exists_mem_prevAll_iff h hp hmt, ancestors_eq_cons hp, List.mem_cons, hparent, not_or]
    constructor
    · rintro (⟨hlo, hhi⟩ | ⟨hlt, hnot⟩)
      · exact ⟨hhi, by omega, fun hmem => absurd (habove hmem) (by omega)⟩
      · exact ⟨by omega, by omega, hnot⟩
    · rintro ⟨hlt, hne, hnot⟩
      rcases Nat.lt_or_gt_of_ne hne with hlt' | hgt
      · exact Or.inr ⟨hlt', hnot⟩
      · exact Or.inl ⟨hgt, hlt⟩

/-- The subtrees of the nodes that follow come one after another, behind the node. -/
theorem pairwise_following (h : n.tree.Preordered) (hn : n.id < n.tree.size) :
    (∀ f ∈ n.following, n.subtreeEnd ≤ f.id) ∧
      n.following.Pairwise fun a b => a.subtreeEnd ≤ b.id := by
  have hbehind : ∀ {n : Node}, n.tree.Preordered → n.id < n.tree.size → ∀ f ∈ n.following,
      n.subtreeEnd ≤ f.id := by
    intro n h hn f hf
    obtain ⟨htree, hsize⟩ := (ofTree_following (ofTree_self n) hf).listed hn
    exact (exists_mem_following_iff h hn htree hsize).mp ⟨f, hf, Or.inl rfl⟩
  refine ⟨hbehind h hn, ?_⟩
  induction n using ancestors.induct with
  | case1 n hp => simp [following_eq_nil hp]
  | case2 n p hp ih =>
    obtain ⟨hpre, hps, htree, -⟩ := parent?_places h hp
    obtain ⟨-, hnext, -⟩ := runs_of_siblings h hp
    rw [following_eq hp, List.pairwise_append]
    refine ⟨hnext, ih hpre hps, fun a ha b hb => ?_⟩
    obtain ⟨-, -, hat, -, hend⟩ :=
      parent?_places (tree_of_mem_children (nextAll_subset h hp ha) ▸ hpre)
        (parent?_of_mem_children (nextAll_subset h hp ha))
    exact Nat.le_trans hend (hbehind hpre hps b hb)

/-- The subtrees of the nodes that precede come one before another, before the node. -/
theorem pairwise_preceding (h : n.tree.Preordered) (hn : n.id < n.tree.size) :
    (∀ f ∈ n.preceding, f.subtreeEnd ≤ n.id) ∧
      n.preceding.Pairwise fun a b => b.subtreeEnd ≤ a.id := by
  have hbefore : ∀ {n : Node}, n.tree.Preordered → n.id < n.tree.size → ∀ f ∈ n.preceding,
      f.subtreeEnd ≤ n.id := by
    intro n h hn f hf
    obtain ⟨htree, hsize⟩ := (ofTree_preceding (ofTree_self n) hf).listed hn
    obtain ⟨hlt, hnot⟩ := (exists_mem_preceding_iff h hn htree hsize).mp ⟨f, hf, Or.inl rfl⟩
    rw [mem_ancestors_iff_id h htree hsize] at hnot
    omega
  refine ⟨hbefore h hn, ?_⟩
  induction n using ancestors.induct with
  | case1 n hp => simp [preceding_eq_nil hp]
  | case2 n p hp ih =>
    obtain ⟨hpre, hps, -⟩ := parent?_places h hp
    obtain ⟨hprev, -⟩ := runs_of_siblings h hp
    rw [preceding_eq hp, List.pairwise_append]
    refine ⟨hprev, ih hpre hps, fun a ha b hb => ?_⟩
    have hpa := id_parent?_lt (parent?_of_mem_children (prevAll_subset h hp ha))
    exact Nat.le_trans (hbefore hpre hps b hb) (Nat.le_of_lt hpa)

/-! ## Sides -/

/-- Where a node lies, seen from another one. -/
inductive Side
  | above
  | inside
  /-- In the subtree of a node that follows. -/
  | after (top : Node)
  /-- In the subtree of a node that precedes. -/
  | before (top : Node)

/-- The node `m` lies on a side of `n`. -/
def LiesOn (n m : Node) : Side → Prop
  | .above => m ∈ n.ancestors
  | .inside => m.InSubtree n
  | .after top => top ∈ n.following ∧ m.InSubtree top
  | .before top => top ∈ n.preceding ∧ m.InSubtree top

/-- Sides by places: a node is before the subtree, in it or behind it. -/
theorem places_of_liesOn (h : n.tree.Preordered) (hn : n.id < n.tree.size)
    (hmt : m.tree = n.tree) (hm : m.id < n.tree.size) {s : Side} (hs : LiesOn n m s) :
    match s with
    | .above => m.id < n.id ∧ m ∈ n.ancestors
    | .inside => n.id ≤ m.id ∧ m.id < n.subtreeEnd
    | .after _ => n.subtreeEnd ≤ m.id
    | .before _ => m.id < n.id ∧ m ∉ n.ancestors := by
  cases s with
  | above => exact ⟨id_lt_of_mem_ancestors hs, hs⟩
  | inside => exact ((inSubtree_iff_id h hn).mp hs).2
  | after top => exact (exists_mem_following_iff h hn hmt hm).mp ⟨top, hs⟩
  | before top => exact (exists_mem_preceding_iff h hn hmt hm).mp ⟨top, hs⟩

theorem exists_liesOn (h : n.tree.Preordered) (hn : n.id < n.tree.size)
    (hmt : m.tree = n.tree) (hm : m.id < n.tree.size) : ∃ s, LiesOn n m s := by
  rcases Nat.lt_or_ge m.id n.id with hlt | hge
  · by_cases habove : m ∈ n.ancestors
    · exact ⟨.above, habove⟩
    · obtain ⟨top, htop⟩ := (exists_mem_preceding_iff h hn hmt hm).mpr ⟨hlt, habove⟩
      exact ⟨.before top, htop⟩
  · rcases Nat.lt_or_ge m.id n.subtreeEnd with hlt | hge'
    · exact ⟨.inside, (inSubtree_iff_id h hn).mpr ⟨hmt, hge, hlt⟩⟩
    · obtain ⟨top, htop⟩ := (exists_mem_following_iff h hn hmt hm).mpr hge'
      exact ⟨.after top, htop⟩

/-- A node is in the subtree of one member at most of a list whose subtrees do not overlap. -/
theorem eq_of_inSubtree {l : List Node} {a b : Node} (h : n.tree.Preordered)
    (hlisted : ∀ a ∈ l, a.tree = n.tree ∧ a.id < n.tree.size)
    (hl : l.Pairwise fun a b => a.subtreeEnd ≤ b.id ∨ b.subtreeEnd ≤ a.id) (ha : a ∈ l)
    (hb : b ∈ l) (hma : m.InSubtree a) (hmb : m.InSubtree b) : a = b := by
  have hrun : ∀ {a}, a ∈ l → m.InSubtree a → a.id ≤ m.id ∧ m.id < a.subtreeEnd := by
    intro a ha hm
    obtain ⟨htree, hsize⟩ := hlisted a ha
    exact ((inSubtree_iff_id (htree ▸ h) (htree ▸ hsize)).mp hm).2
  by_contra hne
  have hruna := hrun ha hma
  have hrunb := hrun hb hmb
  have : Std.Symm fun a b : Node => a.subtreeEnd ≤ b.id ∨ b.subtreeEnd ≤ a.id :=
    ⟨fun _ _ => Or.symm⟩
  have := hl.forall ha hb hne
  omega

theorem liesOn_unique (h : n.tree.Preordered) (hn : n.id < n.tree.size)
    (hmt : m.tree = n.tree) (hm : m.id < n.tree.size) {s s' : Side} (hs : LiesOn n m s)
    (hs' : LiesOn n m s') : s = s' := by
  have hplace := places_of_liesOn h hn hmt hm hs
  have hplace' := places_of_liesOn h hn hmt hm hs'
  have hend : n.id < n.subtreeEnd := n.tree.lt_subtreeEnd n.id
  cases s <;> cases s' <;> dsimp only at hplace hplace'
  case above.above => rfl
  case inside.inside => rfl
  case above.before => exact absurd hplace.2 hplace'.2
  case before.above => exact absurd hplace'.2 hplace.2
  case after.after top top' =>
    refine congrArg Side.after (eq_of_inSubtree h ?_ ?_ hs.1 hs'.1 hs.2 hs'.2)
    · exact fun f hf => (ofTree_following (ofTree_self n) hf).listed hn
    · exact (pairwise_following h hn).2.imp Or.inl
  case before.before top top' =>
    refine congrArg Side.before (eq_of_inSubtree h ?_ ?_ hs.1 hs'.1 hs.2 hs'.2)
    · exact fun f hf => (ofTree_preceding (ofTree_self n) hf).listed hn
    · exact (pairwise_preceding h hn).2.imp Or.inr
  -- the other sides are apart from each other in the list
  all_goals omega

/-- Seen from a node, every node of its tree is an ancestor, in the subtree, in the subtree of one
node that follows or in that of one node that precedes, and only one of these. Nodes that follow are
in the order of the list and begin where the node ends, or later; nodes that precede are in reverse
order and end where the node begins, or earlier. -/
theorem sides_in_document_order (h : n.tree.WellFormed) (hn : n.id < n.tree.size) :
    (∀ m : Node, m.tree = n.tree → m.id < n.tree.size → ∃! s, LiesOn n m s) ∧
    (n.following.Pairwise fun a b => a.id < b.id) ∧
    (n.preceding.Pairwise fun a b => b.id < a.id) ∧
    (∀ f ∈ n.following, n.stop ≤ f.start) ∧ ∀ f ∈ n.preceding, f.stop ≤ n.start := by
  obtain ⟨hafter, hfollowing⟩ := pairwise_following h.preordered hn
  obtain ⟨hbefore, hpreceding⟩ := pairwise_preceding h.preordered hn
  refine ⟨fun m hmt hm => ?_, ?_, ?_, fun f hf => ?_, fun f hf => ?_⟩
  · obtain ⟨s, hs⟩ := exists_liesOn h.preordered hn hmt hm
    exact ⟨s, hs, fun s' hs' => liesOn_unique h.preordered hn hmt hm hs' hs⟩
  · exact hfollowing.imp fun hab => Nat.lt_of_lt_of_le (Tree.lt_subtreeEnd _ _) hab
  · exact hpreceding.imp fun hab => Nat.lt_of_lt_of_le (Tree.lt_subtreeEnd _ _) hab
  · obtain ⟨htree, hsize⟩ := (ofTree_following (ofTree_self n) hf).listed hn
    rw [start, record, htree]
    exact Tree.stop_le_start h (hafter f hf) hsize
  · obtain ⟨htree, -⟩ := (ofTree_preceding (ofTree_self n) hf).listed hn
    have hle := hbefore f hf
    rw [subtreeEnd, htree] at hle
    rw [stop, record, htree]
    exact Tree.stop_le_start h hle hn

end Node

/-! ## An example -/

/-- The text `xyz!`, in which the letters make a word. -/
def threeLetters : Tree where
  stamp := 0
  language := .parsing fun _ => none
  source := "xyz!".toList
  records :=
    [.plain none "program" true 0 4, .plain (some 0) "word" true 0 3,
      .plain (some 1) "letter" true 0 1, .plain (some 1) "letter" true 1 2,
      .plain (some 1) "letter" true 2 3, .plain (some 0) "!" false 3 4]

/-- The letter in the middle is followed by a letter and, behind the word, by the mark. -/
theorem sides_of_letter :
    threeLetters.WellFormed ∧ (⟨threeLetters, 3⟩ : Node).following.map Node.id = [4, 5] ∧
      (⟨threeLetters, 3⟩ : Node).preceding.map Node.id = [2] ∧
      (∃! s, Node.LiesOn ⟨threeLetters, 3⟩ ⟨threeLetters, 5⟩ s) ∧
      ∀ f ∈ (⟨threeLetters, 3⟩ : Node).following, (⟨threeLetters, 3⟩ : Node).stop ≤ f.start := by
  have hwell : threeLetters.WellFormed := by decide
  obtain ⟨hsides, -, -, hfollowing, -⟩ :=
    Node.sides_in_document_order (n := ⟨threeLetters, 3⟩) hwell (by decide)
  exact ⟨hwell, by decide +kernel, by decide +kernel, hsides ⟨threeLetters, 5⟩ rfl (by decide),
    hfollowing⟩

end StructuralSearch
