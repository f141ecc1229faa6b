import StructuralSearch.Proofs.Evaluation.Searches
import StructuralSearch.Proofs.Tree.Subtree

/-!
# The walks of relations

A relation tries related nodes in a fixed order. A step to the neighbor, a walk to the end of the
tree and a walk up to a stop rule are programmed differently, and beneath a node the last goes from
a node to its children where the second takes the list of all nodes. They try nodes of the same
walk all the same.

* `Rule.walk`: what a relation tries, in order, if nothing stops it.

Results:
1. `Rule.ofTree_candidates`, `Rule.ofTree_walk`: related nodes are of the same tree.
2. `Rule.exists_of_judgeRelation`: a relation that accepts returns what its target returns at some
   node of the walk.
3. `Rule.judgeRelation_of_satisfied`: a stop rule that is satisfied everywhere stops nothing.
-/

namespace StructuralSearch

namespace Rule

variable {r : Relation} {field : Option String} {origin n : Node} {c : Node × Bool}

/-! ## Related nodes -/

theorem ofTree_candidates (hn : Node.OfTree origin n) (hc : c ∈ candidates r field n) :
    Node.OfTree origin c.1 := by
  cases r with
  | inside =>
    obtain ⟨⟨ancestor, child⟩, hmem, rfl⟩ := List.mem_map.mp hc
    exact Node.ofTree_ancestors hn (List.of_mem_zip hmem).1
  | has => exact absurd hc List.not_mem_nil
  | precedes =>
    obtain ⟨m, hm, rfl⟩ := List.mem_map.mp hc
    exact Node.ofTree_following hn hm
  | follows =>
    obtain ⟨m, hm, rfl⟩ := List.mem_map.mp hc
    exact Node.ofTree_preceding hn hm

/-- The neighbor is among the nodes of the walk. -/
theorem mem_candidates_of_neighbor? (hc : neighbor? r field n = some c) :
    c ∈ candidates r field n := by
  cases r with
  | inside =>
    obtain ⟨p, hp, rfl⟩ := Option.map_eq_some_iff.mp hc
    refine List.mem_map.mpr ⟨(p, n), ?_, rfl⟩
    rw [steps, Node.ancestors]
    split
    · next hnone => simp [hp] at hnone
    · next q hq =>
      obtain rfl : p = q := Option.some.inj (hp.symm.trans hq)
      exact List.mem_cons_self
  | has => simp [neighbor?] at hc
  | precedes =>
    obtain ⟨m, hm, rfl⟩ := Option.map_eq_some_iff.mp hc
    refine List.mem_map_of_mem (List.mem_flatMap.mpr ⟨n, List.mem_cons_self, ?_⟩)
    exact List.mem_of_mem_head? hm
  | follows =>
    obtain ⟨m, hm, rfl⟩ := Option.map_eq_some_iff.mp hc
    refine List.mem_map_of_mem (List.mem_flatMap.mpr ⟨n, List.mem_cons_self, ?_⟩)
    exact List.mem_of_mem_head? hm

theorem ofTree_neighbor? (hn : Node.OfTree origin n) (hc : neighbor? r field n = some c) :
    Node.OfTree origin c.1 := ofTree_candidates hn (mem_candidates_of_neighbor? hc)

/-- What a relation tries, in order, if nothing stops it. -/
def walk (r : Relation) (field : Option String) (n : Node) : List Node :=
  match r with
  | .has => (n.children.filter (throughField field)).flatMap Node.preorder
  | r => ((candidates r field n).filter (·.2)).map (·.1)

theorem mem_walk_of_candidates (hc : c ∈ candidates r field n) (heligible : c.2 = true) :
    c.1 ∈ walk r field n := by
  cases r with
  | has => exact absurd hc List.not_mem_nil
  | inside | precedes | follows =>
    exact List.mem_map_of_mem (List.mem_filter.mpr ⟨hc, heligible⟩)

theorem ofTree_walk {m : Node} (hn : Node.OfTree origin n) (hm : m ∈ walk r field n) :
    Node.OfTree origin m := by
  cases r with
  | has =>
    obtain ⟨c, hc, hm⟩ := List.mem_flatMap.mp hm
    exact Node.ofTree_preorder (Node.ofTree_children hn (List.mem_of_mem_filter hc)) hm
  | inside | precedes | follows =>
    obtain ⟨c, hc, rfl⟩ := List.mem_map.mp hm
    exact ofTree_candidates hn (List.mem_of_mem_filter hc)

/-! ## What a relation tries -/

section

variable {target : Node → Verdict} {e : Env}

/-- Without a boundary, a relation tries the whole walk. -/
theorem judgeRelation_toEnd (r : Relation) (field : Option String) (n : Node)
    (target : Node → Verdict) :
    judgeRelation r .toEnd field n target = firstVerdict target (walk r field n) := by
  cases r <;> rfl

/-- A candidate that is accepted is eligible. -/
theorem of_judgeCandidate (h : judgeCandidate target c = .accepted e) :
    c.2 = true ∧ target c.1 = .accepted e := by
  rw [judgeCandidate] at h
  split at h
  · next heligible => exact ⟨heligible, h⟩
  · cases h

theorem exists_of_getD {c : Option (Node × Bool)}
    (h : (c.map (judgeCandidate target)).getD .rejected = .accepted e) :
    ∃ found, c = some found ∧ judgeCandidate target found = .accepted e := by
  cases c with
  | none => cases h
  | some found => exact ⟨found, rfl, h⟩

theorem exists_of_searchWhile {stop : Judgement} {cs : List (Node × Bool)}
    (h : searchWhile stop target cs = .accepted e) :
    ∃ c ∈ cs, c.2 = true ∧ target c.1 = .accepted e := by
  induction cs with
  | nil => cases h
  | cons c cs ih =>
    rw [searchWhile] at h
    split at h
    · cases h
    · cases h
    · rcases exists_of_orElse h with h | h
      · exact ⟨c, List.mem_cons_self, of_judgeCandidate h⟩
      · obtain ⟨d, hd, h⟩ := ih h
        exact ⟨d, List.mem_cons_of_mem c hd, h⟩

theorem exists_of_searchBelow {stop : Judgement} (h : searchBelow stop target n = .accepted e) :
    ∃ m ∈ n.preorder, target m = .accepted e := by
  induction n using searchBelow.induct stop with
  | case1 n hs => cases (searchBelow_of_unsettled hs).symm.trans h
  | case2 n hs => cases (searchBelow_of_rejected hs).symm.trans h
  | case3 n _ hs ih =>
    rw [searchBelow, hs] at h
    rcases exists_of_orElse h with h | h
    · exact ⟨n, n.mem_preorder_self, h⟩
    · obtain ⟨c, -, h⟩ := exists_of_firstVerdict h
      obtain ⟨m, hm, h⟩ := ih c h
      exact ⟨m, Node.preorder_subset c.2 hm, h⟩

theorem exists_of_judgeBelow {stop : StopBy Judgement}
    (h : judgeBelow stop field n target = .accepted e) :
    ∃ m ∈ walk .has field n, target m = .accepted e := by
  cases stop with
  | neighbor =>
    obtain ⟨m, hm, h⟩ := exists_of_firstVerdict h
    exact ⟨m, List.mem_flatMap.mpr ⟨m, hm, m.mem_preorder_self⟩, h⟩
  | toEnd => exact exists_of_firstVerdict h
  | rule stop =>
    rw [judgeBelow_rule] at h
    obtain ⟨c, hc, h⟩ := exists_of_firstVerdict h
    obtain ⟨m, hm, h⟩ := exists_of_searchBelow h
    exact ⟨m, List.mem_flatMap.mpr ⟨c, hc, hm⟩, h⟩

/-- A relation that accepts returns what its target returns at some node of the walk. -/
theorem exists_of_judgeRelation {stop : StopBy Judgement}
    (h : judgeRelation r stop field n target = .accepted e) :
    ∃ m ∈ walk r field n, target m = .accepted e := by
  cases r with
  | has => exact exists_of_judgeBelow h
  | inside | precedes | follows =>
    cases stop with
    | neighbor =>
      obtain ⟨c, hc, h⟩ := exists_of_getD h
      obtain ⟨heligible, h⟩ := of_judgeCandidate h
      exact ⟨c.1, mem_walk_of_candidates (mem_candidates_of_neighbor? hc) heligible, h⟩
    | toEnd => exact exists_of_firstVerdict h
    | rule stop =>
      obtain ⟨c, hc, heligible, h⟩ := exists_of_searchWhile h
      exact ⟨c.1, mem_walk_of_candidates hc heligible, h⟩

/-! ## Stop rules that stop nothing -/

variable {stop : Judgement}

theorem searchWhile_of_satisfied {cs : List (Node × Bool)}
    (h : ∀ c ∈ cs, ∃ e, stop c.1 .empty = .accepted e) :
    searchWhile stop target cs = firstVerdict target ((cs.filter (·.2)).map (·.1)) := by
  induction cs with
  | nil => rfl
  | cons c cs ih =>
    obtain ⟨⟨e, he⟩, hcs⟩ := List.forall_mem_cons.mp h
    obtain ⟨m, eligible⟩ := c
    rw [searchWhile, he, ih hcs]
    cases eligible <;> rfl

/-- The search from a node to its children goes through the subtree in pre-order. -/
theorem searchBelow_of_satisfied (h : n.tree.Preordered) (hn : n.id < n.tree.size)
    (hstop : ∀ m ∈ n.preorder, ∃ e, stop m .empty = .accepted e) :
    searchBelow stop target n = firstVerdict target n.preorder := by
  induction n using searchBelow.induct stop with
  | case1 n hs =>
    obtain ⟨e, he⟩ := hstop n n.mem_preorder_self
    cases hs.symm.trans he
  | case2 n hs =>
    obtain ⟨e, he⟩ := hstop n n.mem_preorder_self
    cases hs.symm.trans he
  | case3 n _ hs ih =>
    have hchild : ∀ c ∈ n.children,
        searchBelow stop target c = firstVerdict target c.preorder := by
      intro c hc
      exact ih ⟨c, hc⟩ (Node.tree_of_mem_children hc ▸ h) (Node.lt_size_of_mem_children hc)
        fun m hm => hstop m (Node.preorder_subset hc hm)
    rw [searchBelow_of_accepted hs, Node.preorder_eq h hn, firstVerdict, firstVerdict_flatMap,
      firstVerdict_congr hchild]

/-- A stop rule that is satisfied at every node of the tree stops nothing. -/
theorem judgeRelation_of_satisfied (h : n.tree.Preordered)
    (hstop : ∀ m, n.OfTree m → ∃ e, stop m .empty = .accepted e) :
    judgeRelation r (.rule stop) field n target = judgeRelation r .toEnd field n target := by
  rw [judgeRelation_toEnd]
  cases r with
  | has =>
    have hstart : ∀ c ∈ n.children.filter (throughField field),
        searchBelow stop target c = firstVerdict target c.preorder := by
      intro c hc
      have hchild := List.mem_of_mem_filter hc
      refine searchBelow_of_satisfied (Node.tree_of_mem_children hchild ▸ h)
        (Node.lt_size_of_mem_children hchild) fun m hm => ?_
      exact hstop m (Node.ofTree_preorder (Node.ofTree_children (Node.ofTree_self n) hchild) hm)
    rw [judgeRelation, judgeBelow_rule, firstVerdict_congr hstart]
    exact (firstVerdict_flatMap _ _).symm
  | inside | precedes | follows =>
    exact searchWhile_of_satisfied fun c hc =>
      hstop c.1 (ofTree_candidates (Node.ofTree_self n) hc)

end

end Rule

end StructuralSearch
