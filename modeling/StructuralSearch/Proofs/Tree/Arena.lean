import Mathlib.Data.List.Induction
import StructuralSearch.Proofs.Tree.Listing
import StructuralSearch.Proofs.Tree.Siblings

/-!
# The arena agrees with the parents

What an arena keeps of a node can all be read off the parents in the list of nodes: its children are
the later nodes that have it as their parent, its index counts the siblings before it, and its
subtree ends where the run of nodes below it ends. So nodes can be navigated either way.

* `Arena.Walked`: the arena of a walk that has come to some nodes.
* `Arena.Ended`: the ends are known from some node on.
* `Node.Consistent`: what the arena and navigation say of a node.

Results:
1. `Arena.Walked.add`, `Arena.walked_foldl`: one step of the walk, and the whole walk.
2. `Arena.Ended.setEnd`, `Arena.getElem?_close`: one step of the pass, and the whole pass.
3. `Tree.Preordered.getElem?_arena`: the entry of a node.
4. `Node.consistent_of_lists`: the arena of a listed tree and navigation in it.
-/

namespace StructuralSearch

/-! ## The nodes that the walk adds -/

namespace Arena

variable {arena : List Entry} {rs : List Record} {r : Record} {i p : Nat}

/-- The later nodes that have the node at `id` as their parent. -/
def childrenIn (rs : List Record) (id : Nat) : List Nat :=
  Shape.childPlaces id (id + 1) (rs.drop (id + 1))

/-- The number of siblings that are listed before the node. -/
def siblingsBefore (rs : List Record) (i : Nat) (r : Record) : Nat :=
  (r.parent.map fun p => (childrenIn (rs.take i) p).length).getD 0

theorem childrenIn_eq_nil (h : rs.length ≤ i + 1) : childrenIn rs i = [] := by
  rw [childrenIn, List.drop_eq_nil_of_le h]
  rfl

theorem childrenIn_append (h : i < rs.length) (rs' : List Record) :
    childrenIn (rs ++ rs') i = childrenIn rs i ++ Shape.childPlaces i rs.length rs' := by
  have hplace : i + 1 + (rs.drop (i + 1)).length = rs.length := by
    rw [List.length_drop]
    omega
  rw [childrenIn, List.drop_append_of_le_length h, Shape.childPlaces_append, hplace]
  rfl

theorem siblingsBefore_append (h : i ≤ rs.length) (rs' : List Record) :
    siblingsBefore (rs ++ rs') i r = siblingsBefore rs i r := by
  rw [siblingsBefore, siblingsBefore, List.take_append_of_le_length h]

/-- What is known of a node when the walk has come to the nodes. -/
def entryIn (rs : List Record) (i : Nat) (r : Record) : Entry :=
  ⟨r, childrenIn rs i, siblingsBefore rs i r, 0⟩

/-- The arena when the walk has come to the nodes. -/
structure Walked (arena : List Entry) (rs : List Record) : Prop where
  length : arena.length = rs.length
  entry : ∀ i, arena[i]? = rs[i]?.map (entryIn rs i)

theorem Walked.childrenAt (h : Walked arena rs) (i : Nat) :
    Arena.childrenAt arena i = childrenIn rs i := by
  rw [Arena.childrenAt, h.entry, Option.map_map]
  rcases Nat.lt_or_ge i rs.length with hlt | hge
  · rw [List.getElem?_eq_getElem hlt]
    rfl
  · rw [List.getElem?_eq_none hge, childrenIn_eq_nil (Nat.le_succ_of_le hge)]
    rfl

theorem length_add (arena : List Entry) (r : Record) : (add arena r).length = arena.length + 1 := by
  rw [add]
  split <;> simp

theorem getElem?_add_self (arena : List Entry) (r : Record) :
    (add arena r)[arena.length]? =
      some ⟨r, [], (r.parent.map fun p => (childrenAt arena p).length).getD 0, 0⟩ := by
  rw [add]
  cases r.parent with
  | none => simp
  | some p => simp

/-- A node that was there gets the new one as a child, if it is the parent. -/
theorem getElem?_add_of_lt (h : i < arena.length) (r : Record) :
    (add arena r)[i]? = arena[i]?.map fun e =>
      { e with children := e.children ++ if r.parent = some i then [arena.length] else [] } := by
  rw [add]
  cases hr : r.parent with
  | none => simp [List.getElem?_append_left h]
  | some p =>
    simp only
    rw [List.getElem?_append_left (by rwa [List.length_modify]), List.getElem?_modify]
    by_cases hp : p = i
    · simp [hp]
    · simp [hp]

/-- One step of the walk. -/
theorem Walked.add (h : Walked arena rs) (r : Record) : Walked (add arena r) (rs ++ [r]) := by
  refine ⟨by rw [length_add, h.length, List.length_append, List.length_singleton], fun i => ?_⟩
  rcases Nat.lt_trichotomy i rs.length with hlt | rfl | hgt
  · rw [getElem?_add_of_lt (h.length ▸ hlt), h.entry, List.getElem?_append_left hlt,
      Option.map_map, h.length]
    refine congrArg (Option.map · _) (funext fun r' => ?_)
    simp only [Function.comp_apply, entryIn, childrenIn_append hlt, Shape.childPlaces_cons,
      siblingsBefore_append (Nat.le_of_lt hlt)]
    rw [Shape.childPlaces_eq_nil (List.forall_mem_nil _), List.append_nil]
  · rw [← h.length, getElem?_add_self, h.length, List.getElem?_concat_length, Option.map_some,
      entryIn, siblingsBefore, List.take_left, childrenIn_eq_nil (by simp)]
    simp only [h.childrenAt]
  · have hlength : (Arena.add arena r).length ≤ i := by
      rw [length_add, h.length]
      exact hgt
    rw [List.getElem?_eq_none hlength,
      List.getElem?_eq_none (by rw [List.length_append]; exact hgt)]
    rfl

/-- The walk finds of each node its children and the number of the siblings before it. -/
theorem walked_foldl (rs : List Record) : Walked (rs.foldl add []) rs := by
  induction rs using List.reverseRecOn with
  | nil => exact ⟨rfl, fun i => rfl⟩
  | append_singleton rs r ih =>
    rw [List.foldl_concat]
    exact ih.add r

/-! ## The pass from the last node to the first -/

/-- The ends are known from the node at `k` on, and nothing else differs. -/
def Ended (ends : Nat → Nat) (k : Nat) (before after : List Entry) : Prop :=
  ∀ i, after[i]? = before[i]?.map fun e => if k ≤ i then { e with subtreeEnd := ends i } else e

/-- The end of a subtree is that of the last child, and children come after their parents. -/
structure EndsBy (ends : Nat → Nat) (arena : List Entry) : Prop where
  eq : ∀ i < arena.length, ends i = ((childrenAt arena i).getLast?.map ends).getD (i + 1)
  later : ∀ i, ∀ c ∈ childrenAt arena i, i < c ∧ c < arena.length

variable {ends : Nat → Nat} {k m : Nat} {arena' : List Entry}

/-- The ends of the children are known when that of the node is found. -/
theorem Ended.endAt (h : Ended ends (k + 1) arena arena') (hends : EndsBy ends arena)
    (hk : k < arena.length) : endAt arena' k = ends k := by
  have hsame : childrenAt arena' k = childrenAt arena k := by
    rw [childrenAt, h, Option.map_map, childrenAt]
    refine congrArg (Option.getD · _) (congrArg (Option.map · _) (funext fun e => ?_))
    rw [Function.comp_apply, if_neg (Nat.not_succ_le_self k)]
  rw [Arena.endAt, hsame, hends.eq k hk]
  cases hlast : (childrenAt arena k).getLast? with
  | none => rfl
  | some c =>
    obtain ⟨hkc, hc⟩ := hends.later k c (List.mem_of_getLast? hlast)
    simp [h c, List.getElem?_eq_getElem hc, Nat.succ_le_of_lt hkc]

/-- One step of the pass. -/
theorem Ended.setEnd (h : Ended ends (k + 1) arena arena') (hends : EndsBy ends arena)
    (hk : k < arena.length) : Ended ends k arena (setEnd k arena') := by
  intro i
  rw [Arena.setEnd, List.getElem?_modify, h.endAt hends hk, h i]
  cases arena[i]? with
  | none => rfl
  | some e =>
    rcases Nat.lt_trichotomy k i with hlt | rfl | hgt
    · simp [Nat.ne_of_lt hlt, Nat.le_of_lt hlt, Nat.succ_le_of_lt hlt]
    · simp [Nat.not_succ_le_self k]
    · simp [Nat.ne_of_gt hgt, Nat.not_le_of_lt hgt, Nat.not_le_of_lt (Nat.lt_succ_of_lt hgt)]

theorem ended_foldr (hends : EndsBy ends arena) (h : k + m = arena.length) :
    Ended ends k arena ((List.range' k m).foldr setEnd arena) := by
  induction m generalizing k with
  | zero =>
    intro i
    rcases Nat.lt_or_ge i k with hlt | hge
    · simp [Nat.not_le_of_lt hlt]
    · simp [List.getElem?_eq_none (show arena.length ≤ i by omega)]
  | succ m ih =>
    rw [List.range'_succ, List.foldr_cons]
    exact (ih (by omega)).setEnd hends (by omega)

/-- The pass finds the ends, if a subtree ends where that of the last child ends. -/
theorem getElem?_close (hends : EndsBy ends arena) (i : Nat) :
    (close arena)[i]? = arena[i]?.map fun e => { e with subtreeEnd := ends i } := by
  rw [close, List.range_eq_range', ended_foldr hends (Nat.zero_add _) i]
  simp

end Arena

/-! ## The arena of a tree in pre-order -/

namespace Tree

variable {t : Tree} {i c : Nat}

/-- In pre-order, the children of a node are all later nodes that have it as their parent. -/
theorem Preordered.childrenIn_eq (h : t.Preordered) (i : Nat) :
    Arena.childrenIn t.records i = t.childIds i := by
  have hfront : t.descendantRecords i <+: t.records.drop (i + 1) := List.takeWhile_prefix _
  have hrun : t.descendantRecords i ++ t.records.drop (t.subtreeEnd i) =
      t.records.drop (i + 1) := by
    have happend := List.prefix_iff_eq_append.mp hfront
    rwa [List.drop_drop] at happend
  have hbehind : Shape.childPlaces i (t.subtreeEnd i) (t.records.drop (t.subtreeEnd i)) = [] := by
    refine Shape.childPlaces_eq_nil fun r hr hp => ?_
    obtain ⟨k, hk, rfl⟩ := List.mem_drop_iff_getElem.mp hr
    have hj : t.subtreeEnd i + k < t.records.length := by omega
    rw [← record_eq hj] at hp
    have := h.lt_subtreeEnd hj hp (Nat.le_refl i) (t.lt_subtreeEnd i)
    omega
  rw [Arena.childrenIn, ← hrun, Shape.childPlaces_append]
  show t.childIds i ++ Shape.childPlaces i (t.subtreeEnd i) _ = _
  rw [hbehind, List.append_nil]

/-- A node that is not the last of its subtree is followed by a child. -/
theorem Preordered.succ_mem_childIds (h : t.Preordered) (hi : i < t.size)
    (hend : i + 1 < t.subtreeEnd i) : i + 1 ∈ t.childIds i := by
  have hsize : i + 1 < t.size := Nat.lt_of_lt_of_le hend (subtreeEnd_le hi)
  obtain ⟨p, hp, hip⟩ := exists_parent_of_lt_subtreeEnd (Nat.lt_succ_self i) hend
  obtain ⟨q, hq, hqi⟩ := h.parent (i + 1) (Nat.succ_pos i) hsize
  obtain rfl : p = q := Option.some.inj (hp.symm.trans hq)
  obtain rfl : p = i := by omega
  exact h.mem_childIds hsize hp hqi

/-- The first child comes right after the node. -/
theorem Preordered.head?_childIds (h : t.Preordered) (hc : (t.childIds i).head? = some c) :
    c = i + 1 := by
  have hmem : c ∈ t.childIds i := List.mem_of_mem_head? hc
  obtain ⟨hic, hsize⟩ := Tree.mem_childIds hmem
  by_contra hne
  have hfirst := h.succ_mem_childIds (Nat.lt_trans hic hsize)
    (Nat.lt_of_le_of_lt (Nat.succ_le_of_lt hic) (lt_subtreeEnd_of_mem_childIds hmem))
  obtain ⟨l, hl⟩ := List.head?_eq_some_iff.mp hc
  have hsorted := t.pairwise_childIds i
  rw [hl, List.pairwise_cons] at hsorted
  rw [hl, List.mem_cons] at hfirst
  rcases hfirst with heq | hfirst
  · exact hne heq.symm
  · have := hsorted.1 _ hfirst
    omega

/-- What is listed right behind the subtree of a child, and still below the node, is a child. -/
theorem Preordered.subtreeEnd_mem_childIds (h : t.Preordered) (hi : i < t.size)
    (hc : c ∈ t.childIds i) (hend : t.subtreeEnd c < t.subtreeEnd i) :
    t.subtreeEnd c ∈ t.childIds i := by
  obtain ⟨hic, -⟩ := Tree.mem_childIds hc
  have hcj := t.lt_subtreeEnd c
  have hj : t.subtreeEnd c < t.size := Nat.lt_of_lt_of_le hend (subtreeEnd_le hi)
  obtain ⟨p, hp, hip⟩ := exists_parent_of_lt_subtreeEnd (Nat.lt_trans hic hcj) hend
  have hpc := parent_subtreeEnd_lt hj hp
  obtain ⟨q, hq, hpq⟩ := h.between c _ p hcj hj hp hpc
  obtain rfl : i = q := Option.some.inj ((parent_of_mem_childIds hc).symm.trans hq)
  obtain rfl : p = i := Nat.le_antisymm hpq hip
  exact h.mem_childIds hj hp (Nat.lt_trans hic hcj)

/-- A subtree ends where that of the last child ends. -/
theorem Preordered.subtreeEnd_eq (h : t.Preordered) (hi : i < t.size) :
    t.subtreeEnd i = ((t.childIds i).getLast?.map t.subtreeEnd).getD (i + 1) := by
  cases hlast : (t.childIds i).getLast? with
  | none =>
    have hnil : t.childIds i = [] := List.getLast?_eq_none_iff.mp hlast
    have hle := t.lt_subtreeEnd i
    by_contra hne
    rw [Option.map_none, Option.getD_none] at hne
    have hfirst := h.succ_mem_childIds hi (by omega)
    simp [hnil] at hfirst
  | some c =>
    have hmem : c ∈ t.childIds i := List.mem_of_getLast? hlast
    obtain ⟨hic, hc⟩ := Tree.mem_childIds hmem
    have hle := subtreeEnd_le_subtreeEnd hc (Nat.le_of_lt hic)
      (lt_subtreeEnd_of_mem_childIds hmem)
    refine Nat.le_antisymm (Nat.le_of_not_lt fun hlt => ?_) hle
    -- there would be a child behind the last one
    have hchild := h.subtreeEnd_mem_childIds hi hmem hlt
    obtain ⟨l, hl⟩ := List.getLast?_eq_some_iff.mp hlast
    have hsorted := t.pairwise_childIds i
    have hcj := t.lt_subtreeEnd c
    rw [hl, List.pairwise_append] at hsorted
    rw [hl, List.mem_append, List.mem_singleton] at hchild
    rcases hchild with hchild | heq
    · have := hsorted.2.2 _ hchild c (List.mem_singleton_self c)
      omega
    · omega

/-- What the arena keeps of a node. -/
theorem Preordered.getElem?_arena (h : t.Preordered) (hi : i < t.size) :
    t.arena[i]? = some ⟨t.record i, t.childIds i,
      Arena.siblingsBefore t.records i (t.record i), t.subtreeEnd i⟩ := by
  have hwalked := Arena.walked_foldl t.records
  have hchildren : ∀ i, Arena.childrenAt (t.records.foldl Arena.add []) i = t.childIds i :=
    fun i => (hwalked.childrenAt i).trans (h.childrenIn_eq i)
  have hends : Arena.EndsBy t.subtreeEnd (t.records.foldl Arena.add []) := by
    constructor
    · intro i hi
      rw [hchildren]
      exact h.subtreeEnd_eq (Nat.lt_of_lt_of_eq hi hwalked.length)
    · intro i c hc
      rw [hchildren] at hc
      exact hwalked.length ▸ Tree.mem_childIds hc
  have hget : t.records[i]? = some (t.record i) := by
    rw [record_eq hi]
    exact List.getElem?_eq_getElem hi
  rw [arena, Arena.getElem?_close hends, hwalked.entry, hget, Option.map_some, Option.map_some,
    Arena.entryIn, h.childrenIn_eq]

end Tree

namespace Node

variable {n m p : Node}

/-- The index of a node counts the siblings before it. -/
theorem siblingsBefore_eq (h : n.tree.Preordered) (hn : n.id < n.tree.size) :
    Arena.siblingsBefore n.tree.records n.id n.record = n.indexInParent := by
  cases hp : n.parent? with
  | none =>
    -- a parent that is not listed before the node has no children there
    rw [indexInParent, siblings_eq_nil hp, Arena.siblingsBefore]
    cases hparent : n.record.parent with
    | none => rfl
    | some i =>
      have hle : n.id ≤ i := by
        by_contra hlt
        have hsome : n.parent? = some ⟨n.tree, i⟩ :=
          parent?_eq_some_iff.mpr ⟨rfl, hparent, Nat.lt_of_not_le hlt⟩
        cases hp.symm.trans hsome
      have hnil : Arena.childrenIn (n.tree.records.take n.id) i = [] :=
        Arena.childrenIn_eq_nil (by rw [List.length_take]; omega)
      simp [hnil]
  | some p =>
    obtain ⟨htree, hparent, hlt⟩ := parent?_eq_some_iff.mp hp
    -- the children of the parent are those before the node, the node, and others
    have hsplit : n.tree.records =
        n.tree.records.take n.id ++ n.record :: n.tree.records.drop (n.id + 1) := by
      rw [record, Tree.record_eq hn, ← List.drop_eq_getElem_cons hn, List.take_append_drop]
    have hchildren : n.tree.childIds p.id =
        Arena.childrenIn (n.tree.records.take n.id) p.id ++ n.id ::
          Shape.childPlaces p.id (n.id + 1) (n.tree.records.drop (n.id + 1)) := by
      have hlength : (n.tree.records.take n.id).length = n.id := by
        rw [List.length_take]
        exact Nat.min_eq_left (Nat.le_of_lt hn)
      rw [← h.childrenIn_eq]
      conv_lhs => rw [hsplit]
      rw [Arena.childrenIn_append (hlength.symm ▸ hlt), hlength, Shape.childPlaces_cons,
        if_pos hparent, List.singleton_append]
    have hchild : p.child? (Arena.childrenIn (n.tree.records.take n.id) p.id).length = some n := by
      rw [child?, children, List.getElem?_map, htree, hchildren,
        List.getElem?_append_right (Nat.le_refl _), Nat.sub_self]
      rfl
    rw [Arena.siblingsBefore, hparent]
    exact ((child?_eq_some_iff (htree ▸ h)).mp hchild).2.symm

/-- The arena keeps of the node what the parents say, and navigation by it goes forth and back. -/
structure Consistent (n : Node) : Prop where
  entry : n.tree.arena[n.id]? =
    some ⟨n.record, n.children.map Node.id, n.indexInParent, n.subtreeEnd⟩
  parent : n.record.parent = n.parent?.map Node.id
  /-- The places up to the end of the subtree are those of the node and of what is below it. -/
  subtree : ∀ m : Node, m.tree = n.tree →
    (n.id ≤ m.id ∧ m.id < n.subtreeEnd ↔ m = n ∨ n ∈ m.ancestors)
  places : n.preorder.map Node.id = List.range' n.id (n.subtreeEnd - n.id)
  preorder : n.preorder = n :: n.children.flatMap Node.preorder
  descendants : n.descendants = n.children.flatMap Node.preorder
  first : ∀ c, n.children.head? = some c → c.id = n.id + 1
  increasing : n.children.Pairwise fun a b => a.id < b.id
  children : ∀ c, c ∈ n.children ↔ c.parent? = some n
  child : ∀ i c, n.child? i = some c ↔ c.parent? = some n ∧ c.indexInParent = i
  next : n.next? = n.parent?.bind fun p => p.child? (n.indexInParent + 1)
  prev : n.prev? = if n.indexInParent = 0 then none else
    n.parent?.bind fun p => p.child? (n.indexInParent - 1)
  back : ∀ m, (n.next? = some m ↔ m.prev? = some n) ∧ (n.prev? = some m ↔ m.next? = some n)
  nextAll : n.nextAll = n.next?.elim [] fun m => m :: m.nextAll
  prevAll : n.prevAll = n.prev?.elim [] fun m => m :: m.prevAll
  siblings : ∀ p, n.parent? = some p → p.children = n.prevAll.reverse ++ n :: n.nextAll

theorem map_id_children (n : Node) : n.children.map Node.id = n.tree.childIds n.id := by
  rw [Node.children, List.map_map]
  exact List.map_id _

theorem map_id_preorder (n : Node) :
    n.preorder.map Node.id = List.range' n.id (n.subtreeEnd - n.id) := by
  have hlength : n.subtreeEnd - n.id = n.tree.extent n.id + 1 := by
    rw [subtreeEnd, Tree.subtreeEnd]
    omega
  rw [Node.preorder, List.map_map, hlength]
  exact List.map_id _

/-- The parent is read off the list, as the root has none there. -/
theorem parent_record_eq (h : n.tree.Preordered) (hroot : (n.tree.record 0).parent = none)
    (hn : n.id < n.tree.size) : n.record.parent = n.parent?.map Node.id := by
  rcases Nat.eq_zero_or_pos n.id with hzero | hpos
  · rw [parent?, record, hzero, hroot]
    rfl
  · obtain ⟨p, hp, hlt⟩ := h.parent n.id hpos hn
    have hparent : n.parent? = some ⟨n.tree, p⟩ := parent?_eq_some_iff.mpr ⟨rfl, hp, hlt⟩
    rw [hparent]
    exact hp

/-- Whatever tree is listed, its arena agrees with the parents at every node. -/
theorem consistent_of_lists {s : Shape} (h : n.tree.Lists s) (hn : n.id < n.tree.size) :
    n.Consistent := by
  have hpre := h.preordered
  constructor
  case entry =>
    rw [hpre.getElem?_arena hn, map_id_children, ← siblingsBefore_eq hpre hn]
    rfl
  case parent => exact parent_record_eq hpre h.parent_root hn
  case subtree =>
    intro m hm
    have hsubtree := inSubtree_iff_id (m := m) hpre hn
    rw [InSubtree] at hsubtree
    simp [hsubtree, hm]
  case places => exact map_id_preorder n
  case preorder => exact preorder_eq hpre hn
  case descendants => exact descendants_eq hpre hn
  case first =>
    intro c hc
    refine hpre.head?_childIds ?_
    rw [← map_id_children, List.head?_map, hc, Option.map_some]
  case increasing => exact n.pairwise_id_children
  case children => exact fun c => mem_children_iff hpre
  case child => exact fun i c => child?_eq_some_iff hpre
  case next => exact next?_eq n
  case prev => exact prev?_eq n
  case back => exact fun m => ⟨next?_iff_prev? hpre, prev?_iff_next? hpre⟩
  case nextAll => exact nextAll_eq hpre
  case prevAll => exact prevAll_eq hpre
  case siblings => exact fun p hp => children_eq_append hpre hp

end Node

/-! ## An example -/

/-- The tree of `xyz!` with a word of three letters. -/
def threeLettersShape : Shape :=
  .node "program" true "xyz!".toList
    [.node "word" true "xyz".toList
      [.node "letter" true "x".toList [], .node "letter" true "y".toList [],
        .node "letter" true "z".toList []],
      .node "!" false "!".toList []]

/-- The letter in the middle of the word is the child at index 1, between the other two. -/
theorem consistent_letter :
    threeLetters.Lists threeLettersShape ∧ (⟨threeLetters, 3⟩ : Node).Consistent ∧
      threeLetters.arena.map (fun e => (e.children, e.indexInParent, e.subtreeEnd)) =
        [([1, 5], 0, 6), ([2, 3, 4], 0, 5), ([], 0, 3), ([], 1, 4), ([], 2, 5), ([], 1, 6)] := by
  have hlists : threeLetters.Lists threeLettersShape := by
    rw [Tree.Lists, Shape.walk_eq]
    rfl
  exact ⟨hlists, Node.consistent_of_lists hlists (by decide), by decide +kernel⟩

end StructuralSearch
