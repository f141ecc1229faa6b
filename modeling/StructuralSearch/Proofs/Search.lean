import StructuralSearch.Proofs.Tree.Subtree
import StructuralSearch.Search

/-!
# Searching a subtree

A search tries the places of a subtree one after another, and continues behind the run of a node
that matches. That is a matter of places only. In a tree in pre-order the runs are the subtrees, so
what is found are the outermost matches.

Results:
1. `Tree.pairwise_findAllFrom`: each match is listed behind the runs of those before it.
2. `Tree.exists_mem_findAllFrom`: what matches is in the run of a match that was found.
3. `Node.find_eq_head?`: the first match.
4. `Node.findAll_outermost`: what a search of a subtree finds.
-/

namespace StructuralSearch

namespace Tree

variable {t : Tree} {m : Matcher} {id stop : Nat} {x : Match}

/-- Matches are found at the places that are searched, each tried on its own and without
bindings. -/
theorem mem_findAllFrom (h : x ∈ t.findAllFrom m id stop) :
    x.node.tree = t ∧ id ≤ x.node.id ∧ x.node.id < stop ∧ m x.node .empty = some x.env := by
  induction id using findAllFrom.induct t m stop with
  | case1 id hlt e he ih =>
    rw [findAllFrom, if_pos hlt, he] at h
    rcases List.mem_cons.mp h with rfl | h
    · exact ⟨rfl, Nat.le_refl _, hlt, he⟩
    · obtain ⟨htree, hle, hfound⟩ := ih h
      exact ⟨htree, Nat.le_trans (Nat.le_of_lt (t.lt_subtreeEnd id)) hle, hfound⟩
  | case2 id hlt he ih =>
    rw [findAllFrom, if_pos hlt, he] at h
    obtain ⟨htree, hle, hfound⟩ := ih h
    exact ⟨htree, Nat.le_of_succ_le hle, hfound⟩
  | case3 id hlt =>
    rw [findAllFrom, if_neg hlt] at h
    exact absurd h List.not_mem_nil

/-- Each match is listed behind the subtrees of those before it. -/
theorem pairwise_findAllFrom (t : Tree) (m : Matcher) (id stop : Nat) :
    (t.findAllFrom m id stop).Pairwise fun a b => t.subtreeEnd a.node.id ≤ b.node.id := by
  induction id using findAllFrom.induct t m stop with
  | case1 id hlt e he ih =>
    rw [findAllFrom, if_pos hlt, he]
    refine .cons ?_ ih
    intro b hb
    exact (mem_findAllFrom hb).2.1
  | case2 id hlt he ih =>
    rw [findAllFrom, if_pos hlt, he]
    exact ih
  | case3 id hlt =>
    rw [findAllFrom, if_neg hlt]
    exact .nil

/-- What matches is in the run of a match that was found. -/
theorem exists_mem_findAllFrom {j : Nat} (hid : id ≤ j) (hj : j < stop)
    (h : (m ⟨t, j⟩ .empty).isSome = true) :
    ∃ x ∈ t.findAllFrom m id stop, x.node.id ≤ j ∧ j < t.subtreeEnd x.node.id := by
  induction id using findAllFrom.induct t m stop with
  | case1 id hlt e he ih =>
    rw [findAllFrom, if_pos hlt, he]
    by_cases hin : j < t.subtreeEnd id
    · exact ⟨_, List.mem_cons_self, hid, hin⟩
    · obtain ⟨x, hx, hrun⟩ := ih (Nat.le_of_not_lt hin)
      exact ⟨x, List.mem_cons_of_mem _ hx, hrun⟩
  | case2 id hlt he ih =>
    rw [findAllFrom, if_pos hlt, he]
    have hne : id ≠ j := by
      rintro rfl
      simp [he] at h
    exact ih (Nat.lt_of_le_of_ne hid hne)
  | case3 id hlt => omega

/-- A search finds nothing if nothing in front of its end matches. -/
theorem findAllFrom_eq_nil (h : ∀ i < stop, m ⟨t, i⟩ .empty = none) :
    t.findAllFrom m id stop = [] := by
  rw [List.eq_nil_iff_forall_not_mem]
  intro x hx
  obtain ⟨htree, -, hlt, hmatch⟩ := mem_findAllFrom hx
  obtain ⟨⟨tree, i⟩, e⟩ := x
  obtain rfl : tree = t := htree
  cases (h i hlt).symm.trans hmatch

/-- Up to the first match, a search tries every place. -/
theorem head?_findAllFrom (t : Tree) (m : Matcher) (id stop : Nat) :
    (t.findAllFrom m id stop).head? =
      (List.range' id (stop - id)).findSome? fun i => (m ⟨t, i⟩ .empty).map (⟨⟨t, i⟩, ·⟩) := by
  induction id using findAllFrom.induct t m stop with
  | case1 id hlt e he ih =>
    obtain ⟨k, hk⟩ := Nat.exists_eq_succ_of_ne_zero (Nat.sub_ne_zero_of_lt hlt)
    rw [findAllFrom, if_pos hlt, he, hk, List.range'_succ, List.findSome?_cons, he]
    rfl
  | case2 id hlt he ih =>
    have hk : stop - id = stop - (id + 1) + 1 := by omega
    rw [findAllFrom, if_pos hlt, he, hk, List.range'_succ, List.findSome?_cons, he]
    exact ih
  | case3 id hlt =>
    rw [findAllFrom, if_neg hlt, Nat.sub_eq_zero_of_le (Nat.le_of_not_lt hlt)]
    rfl

end Tree

namespace Node

variable {n : Node} {m : Matcher}

/-- The first match is the first of all matches. -/
theorem find_eq_head? (n : Node) (m : Matcher) : n.find m = (n.findAll m).head? := by
  have hlength : n.subtreeEnd - n.id = n.tree.extent n.id + 1 := by
    simp only [subtreeEnd, Tree.subtreeEnd]
    omega
  rw [findAll, Tree.head?_findAllFrom, hlength, find, preorder, List.findSome?_map]
  rfl

/-- A search finds nothing if nothing in the subtree matches. -/
theorem findAll_eq_nil (h : ∀ i < n.subtreeEnd, m ⟨n.tree, i⟩ .empty = none) :
    n.findAll m = [] ∧ n.find m = none := by
  have hnil : n.findAll m = [] := Tree.findAllFrom_eq_nil h
  exact ⟨hnil, by rw [find_eq_head?, hnil, List.head?_nil]⟩

/-- A search finds something if the node itself matches. -/
theorem findAll_ne_nil {e : Env} (h : m n .empty = some e) :
    n.findAll m ≠ [] ∧ n.find m ≠ none := by
  have hsome : (m ⟨n.tree, n.id⟩ .empty).isSome = true := Option.isSome_of_eq_some h
  obtain ⟨x, hx, -⟩ := Tree.exists_mem_findAllFrom (Nat.le_refl n.id)
    (n.tree.lt_subtreeEnd n.id) hsome
  have hne : n.findAll m ≠ [] := List.ne_nil_of_mem hx
  exact ⟨hne, by rwa [find_eq_head?, ne_eq, List.head?_eq_none_iff]⟩

/-- What is found is listed in the subtree that is searched. -/
theorem mem_preorder_of_mem_findAll {x : Match} (hx : x ∈ n.findAll m) : x.node ∈ n.preorder := by
  obtain ⟨htree, hle, hlt, -⟩ := Tree.mem_findAllFrom hx
  exact mem_preorder_iff_id.mpr ⟨htree, hle, hlt⟩

/-- In a tree in pre-order, the runs of what is found are subtrees. -/
theorem mem_preorder_iff_of_mem_findAll (h : n.tree.Preordered) (hn : n.id < n.tree.size)
    {x : Match} (hx : x ∈ n.findAll m) {k : Node} : k ∈ x.node.preorder ↔ k.InSubtree x.node := by
  obtain ⟨htree, -, hlt, -⟩ := Tree.mem_findAllFrom hx
  have hlisted : x.node.id < n.tree.size := Nat.lt_of_lt_of_le hlt (Tree.subtreeEnd_le hn)
  rw [← htree] at h hlisted
  exact mem_preorder_iff h hlisted

/-- What a search of a subtree finds are nodes of the subtree, in pre-order, each with what it binds
on its own. No node is in the subtrees of two of them, and every node that matches is in the subtree
of one. The first of them is what a search for one match finds. -/
theorem findAll_outermost (h : n.tree.Preordered) (hn : n.id < n.tree.size) (m : Matcher) :
    ((n.findAll m).map Match.node).Sublist n.preorder ∧
    ((n.findAll m).Pairwise fun a b =>
      a.node.id < b.node.id ∧ ∀ k : Node, ¬ (k.InSubtree a.node ∧ k.InSubtree b.node)) ∧
    (∀ x ∈ n.findAll m, x.node.InSubtree n ∧ m x.node .empty = some x.env) ∧
    (∀ k : Node, k.InSubtree n → (m k .empty).isSome = true →
      ∃ x ∈ n.findAll m, k.InSubtree x.node) ∧
    n.find m = (n.findAll m).head? ∧ (n.find m = none ↔ n.findAll m = []) := by
  have hruns : (n.findAll m).Pairwise fun a b => n.tree.subtreeEnd a.node.id ≤ b.node.id :=
    n.tree.pairwise_findAllFrom m n.id n.subtreeEnd
  have hfirst := find_eq_head? n m
  refine ⟨?sublist, ?disjoint, ?found, ?outermost, hfirst, ?none⟩
  case sublist =>
    have hordered : ((n.findAll m).map Match.node).Pairwise fun a b => a.id < b.id :=
      List.pairwise_map.mpr (hruns.imp fun hab =>
        Nat.lt_of_lt_of_le (n.tree.lt_subtreeEnd _) hab)
    have hnodup : ((n.findAll m).map Match.node).Nodup :=
      hordered.imp fun {a b} hab heq => absurd (congrArg Node.id heq) (Nat.ne_of_lt hab)
    refine List.sublist_of_subperm_of_pairwise ?_ hordered n.pairwise_preorder
    refine List.subperm_of_subset hnodup fun k hk => ?_
    obtain ⟨x, hx, rfl⟩ := List.mem_map.mp hk
    exact mem_preorder_of_mem_findAll hx
  case disjoint =>
    refine hruns.imp_of_mem fun {a b} ha hb hab => ?_
    refine ⟨Nat.lt_of_lt_of_le (n.tree.lt_subtreeEnd _) hab, fun k ⟨hka, hkb⟩ => ?_⟩
    rw [← mem_preorder_iff_of_mem_findAll h hn ha, mem_preorder_iff_id] at hka
    rw [← mem_preorder_iff_of_mem_findAll h hn hb, mem_preorder_iff_id] at hkb
    -- the run of the second match begins where that of the first has ended, or later
    have hend : k.id < n.tree.subtreeEnd a.node.id := by
      rw [← (Tree.mem_findAllFrom ha).1]
      exact hka.2.2
    exact absurd (Nat.le_trans hab hkb.2.1) (Nat.not_le_of_lt hend)
  case found =>
    intro x hx
    obtain ⟨-, -, -, hmatch⟩ := Tree.mem_findAllFrom hx
    exact ⟨(mem_preorder_iff h hn).mp (mem_preorder_of_mem_findAll hx), hmatch⟩
  case outermost =>
    intro k hk hmatch
    obtain ⟨htree, hlo, hhi⟩ := mem_preorder_iff_id.mp ((mem_preorder_iff h hn).mpr hk)
    obtain ⟨tree, id⟩ := k
    obtain rfl : tree = n.tree := htree
    obtain ⟨x, hx, hle, hlt⟩ := Tree.exists_mem_findAllFrom hlo hhi hmatch
    refine ⟨x, hx, (mem_preorder_iff_of_mem_findAll h hn hx).mp ?_⟩
    have htree := (Tree.mem_findAllFrom hx).1
    exact mem_preorder_iff_id.mpr ⟨htree.symm, hle, by rwa [subtreeEnd, htree]⟩
  case none => rw [hfirst, List.head?_eq_none_iff]

end Node

/-! ## An example -/

/-- The text `--a -b`. -/
def negations : Tree where
  stamp := 0
  language := .parsing fun _ => none
  source := "--a -b".toList
  records :=
    [.plain none "program" true 0 6, .plain (some 0) "negation" true 0 3,
      .plain (some 1) "-" false 0 1, .plain (some 1) "negation" true 1 3,
      .plain (some 3) "-" false 1 2, .plain (some 3) "name" true 2 3,
      .plain (some 0) "negation" true 4 6, .plain (some 6) "-" false 4 5,
      .plain (some 6) "name" true 5 6]

/-- Matches negations. -/
def isNegation : Matcher := fun n e => if n.kind = "negation" then some e else none

/-- The inner negation is left out; it lies below one that was found. -/
theorem findAll_negations :
    negations.WellFormed ∧ (negations.root.findAll isNegation).map (·.node.id) = [1, 6] ∧
      (isNegation ⟨negations, 3⟩ .empty).isSome = true ∧
      ∃ x ∈ negations.root.findAll isNegation, Node.InSubtree ⟨negations, 3⟩ x.node := by
  have hwell : negations.WellFormed := by decide
  have hmatch : (isNegation ⟨negations, 3⟩ .empty).isSome = true := by decide
  have hroot : negations.root.id < negations.size := by decide
  have hin : Node.InSubtree ⟨negations, 3⟩ negations.root :=
    (Node.mem_preorder_iff hwell.preordered hroot).mp
      (Node.mem_preorder_iff_id.mpr ⟨rfl, by decide⟩)
  obtain ⟨-, -, -, houter, -⟩ :=
    Node.findAll_outermost (n := negations.root) hwell.preordered hroot isNegation
  exact ⟨hwell, by decide +kernel, hmatch, houter _ hin hmatch⟩

end StructuralSearch
