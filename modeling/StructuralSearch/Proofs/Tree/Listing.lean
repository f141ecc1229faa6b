import StructuralSearch.Tree.Arena
import StructuralSearch.Proofs.Tree.Flattening
import StructuralSearch.Proofs.Tree.Order

/-!
# Listing an inductive tree

The cursor comes to the nodes of an inductive tree in pre-order. What a list says of parents does
not depend on the texts of the nodes, so that every inductive tree, of whatever form, is listed as a
list in pre-order; and every list in pre-order with nothing above its first node comes about in this
way.

* `Tree.Lists`: a tree lists the nodes of an inductive tree.

Results:
1. `Shape.walk_eq`: the walk of the cursor lists the nodes recursively.
2. `Tree.Lists.preordered`: what lists an inductive tree is in pre-order.
3. `Node.map_parent_shape`: the nodes below a node in pre-order are listed with its shape.
4. `Tree.exists_lists_iff`: the lists that list an inductive tree.
-/

namespace StructuralSearch

/-! ## The walk of the cursor -/

namespace Shape

theorem walkFrom_row {ss : List Shape}
    (ih : ∀ s ∈ ss, ∀ (id offset : Nat) parents row above,
      walkFrom id parents ((s :: row) :: above) =
        (s.records parents.head? id offset).map Record.parent ++
          walkFrom (id + (s.records parents.head? id offset).length) parents (row :: above))
    (id p offset : Nat) (parents : List Nat) (above : List (List Shape)) :
    walkFrom id (p :: parents) (ss :: above) =
      (listRecords p id offset ss).map Record.parent ++
        walkFrom (id + (listRecords p id offset ss).length) parents above := by
  induction ss generalizing id offset with
  | nil =>
    rw [walkFrom, listRecords, List.map_nil, List.nil_append, List.tail_cons]
    rfl
  | cons s ss ihs =>
    obtain ⟨ihs₁, ihs₂⟩ := List.forall_mem_cons.mp ih
    rw [ihs₁ id offset, ihs ihs₂ _ (offset + Text.byteLength s.text), listRecords]
    simp only [List.head?_cons, List.map_append, List.length_append, List.append_assoc,
      Nat.add_assoc]

/-- The cursor comes to all nodes of a subtree before it goes on with the siblings. -/
theorem walkFrom_cons (s : Shape) (id offset : Nat) (parents : List Nat) (row : List Shape)
    (above : List (List Shape)) :
    walkFrom id parents ((s :: row) :: above) =
      (s.records parents.head? id offset).map Record.parent ++
        walkFrom (id + (s.records parents.head? id offset).length) parents (row :: above) := by
  induction s using Shape.induct generalizing id offset parents row above with
  | node kind named text children ih =>
    rw [records_eq]
    cases children with
    | nil =>
      rw [walkFrom]
      rfl
    | cons c cs =>
      rw [walkFrom, walkFrom_row ih (id + 1) id offset]
      simp only [Shape.children, List.map_cons, List.length_cons, List.cons_append]
      rw [Nat.add_right_comm, Nat.add_assoc id]

theorem walk_eq (s : Shape) : s.walk = (s.records none 0 0).map Record.parent := by
  rw [walk, walkFrom_cons s 0 0]
  simp [walkFrom]

/-! ## Listed trees are in pre-order -/

/-- The tree without its text. -/
def blank : Shape → Shape
  | node kind named _ children => node kind named [] (children.map blank)

theorem text_blank (s : Shape) : s.blank.text = [] := by
  obtain ⟨kind, named, text, children⟩ := s
  rw [blank, Shape.text]

theorem joined_blank (s : Shape) : s.blank.All Joined := by
  induction s using Shape.induct with
  | node kind named text children ih =>
    rw [blank]
    refine ⟨Or.inr ?_, fun c hc => ?_⟩
    · refine (List.flatMap_eq_nil_iff.mpr fun c hc => ?_).symm
      obtain ⟨d, -, rfl⟩ := List.mem_map.mp hc
      exact d.text_blank
    · obtain ⟨d, hd, rfl⟩ := List.mem_map.mp hc
      exact ih d hd

theorem parents_listRecords_blank {ss : List Shape}
    (ih : ∀ s ∈ ss, ∀ parent id offset offset',
      (s.blank.records parent id offset).map Record.parent =
        (s.records parent id offset').map Record.parent) (parent id offset offset' : Nat) :
    (listRecords parent id offset (ss.map blank)).map Record.parent =
      (listRecords parent id offset' ss).map Record.parent := by
  induction ss generalizing id offset offset' with
  | nil => rfl
  | cons s ss ihs =>
    obtain ⟨ihs₁, ihs₂⟩ := List.forall_mem_cons.mp ih
    have hparents := ihs₁ (some parent) id offset offset'
    have hlength : (s.blank.records (some parent) id offset).length =
        (s.records (some parent) id offset').length := by
      simpa only [List.length_map] using congrArg List.length hparents
    rw [List.map_cons, listRecords, listRecords, List.map_append, List.map_append, hparents,
      hlength, ihs ihs₂]

/-- Parents do not depend on the text. -/
theorem parents_records_blank (s : Shape) (parent : Option Nat) (id offset offset' : Nat) :
    (s.blank.records parent id offset).map Record.parent =
      (s.records parent id offset').map Record.parent := by
  induction s using Shape.induct generalizing parent id offset offset' with
  | node kind named text children ih =>
    rw [blank, records_eq, records_eq, List.map_cons, List.map_cons]
    exact congrArg _ (parents_listRecords_blank ih id (id + 1) offset offset')

end Shape

namespace Tree

variable {t t' : Tree} {s : Shape} {i : Nat}

theorem parent_record (t : Tree) (i : Nat) :
    (t.record i).parent = ((t.records.map Record.parent)[i]?).getD none := by
  rw [record, List.getElem?_map]
  cases t.records[i]? <;> rfl

/-- Whether a list is in pre-order is seen from the parents. -/
theorem Preordered.congr (h : t.Preordered)
    (hparents : t'.records.map Record.parent = t.records.map Record.parent) : t'.Preordered := by
  have hparent : ∀ i, (t'.record i).parent = (t.record i).parent := fun i => by
    rw [parent_record, parent_record, hparents]
  have hsize : t'.size = t.size := by
    rw [size, size, ← List.length_map (f := Record.parent), hparents, List.length_map]
  constructor
  · simpa only [hparent, hsize] using h.parent
  · simpa only [hparent, hsize] using h.between

/-- The tree lists the nodes of an inductive tree as the cursor comes to them, each with its
parent. -/
def Lists (t : Tree) (s : Shape) : Prop := t.records.map Record.parent = s.walk

/-- Every inductive tree, of whatever form, is listed in pre-order. -/
theorem Lists.preordered (h : t.Lists s) : t.Preordered := by
  have hblank := (Shape.wellFormed_toTree s.joined_blank).preordered
  refine hblank.congr ?_
  rw [h, Shape.walk_eq]
  exact (s.parents_records_blank none 0 0 0).symm

theorem Lists.parent_root (h : t.Lists s) : (t.record 0).parent = none := by
  rw [parent_record, h, Shape.walk_eq, Shape.records_eq]
  rfl

end Tree

/-! ## Lists in pre-order are listings -/

namespace Node

variable {n : Node}

theorem map_parent_row {l : List Node} {p b m offset : Nat}
    (ih : ∀ c ∈ l, ∀ offset, (c.shape.records (some p) c.id offset).map Record.parent =
      c.preorder.map fun k => k.record.parent)
    (hids : (l.flatMap Node.preorder).map Node.id = List.range' b m) :
    (Shape.listRecords p b offset (l.map shape)).map Record.parent =
      (l.flatMap Node.preorder).map fun k => k.record.parent := by
  induction l generalizing b m offset with
  | nil => rfl
  | cons c l ihl =>
    obtain ⟨ihc, ihrest⟩ := List.forall_mem_cons.mp ih
    rw [List.flatMap_cons, List.map_append] at hids
    -- the places start with that of the first sibling, and go on behind its subtree
    obtain rfl : c.id = b := by
      have hhead := congrArg List.head? hids
      rw [Node.preorder, List.range'_succ, List.map_cons, List.map_cons, List.cons_append,
        List.head?_cons] at hhead
      cases m with
      | zero => cases hhead
      | succ m => exact Option.some.inj hhead
    have hrest : (l.flatMap Node.preorder).map Node.id =
        List.range' (c.id + c.preorder.length) (m - c.preorder.length) := by
      have hdrop := congrArg (List.drop c.preorder.length) hids
      rwa [List.drop_left' (List.length_map ..), List.drop_range', Nat.mul_one] at hdrop
    have hlength : (c.shape.records (some p) c.id offset).length = c.preorder.length := by
      simpa only [List.length_map] using congrArg List.length (ihc offset)
    rw [List.map_cons, Shape.listRecords, List.map_append, ihc, hlength, ihl ihrest hrest,
      List.flatMap_cons, List.map_append]

theorem preorder_eq_cons (n : Node) : n.preorder = n :: n.descendants := by
  rw [descendants, Node.preorder, List.range'_succ]
  rfl

/-- The parents of the nodes below a node are listed with the shape of the node. -/
theorem map_parent_shape (h : n.tree.Preordered) (hn : n.id < n.tree.size) (parent : Option Nat)
    (offset : Nat) :
    (n.shape.records parent n.id offset).map Record.parent =
      parent :: n.descendants.map fun k => k.record.parent := by
  induction hsize : n.tree.size - n.id using Nat.strongRecOn generalizing n parent offset with
  | ind size ih =>
    have hids : (n.children.flatMap Node.preorder).map Node.id =
        List.range' (n.id + 1) (n.tree.extent n.id) := by
      rw [← descendants_eq h hn, descendants, Node.preorder, List.range'_succ, List.map_cons,
        List.tail_cons, List.map_map]
      exact List.map_id _
    rw [shape_eq, Shape.records_eq, List.map_cons, descendants_eq h hn]
    refine congrArg _ (map_parent_row (fun c hc offset => ?_) hids)
    have hparent : c.record.parent = some n.id :=
      (parent?_eq_some_iff.mp (parent?_of_mem_children hc)).2.1
    rw [ih _ (hsize ▸ child_smaller hc) (tree_of_mem_children hc ▸ h) (lt_size_of_mem_children hc)
      _ _ rfl, preorder_eq_cons, List.map_cons, hparent]

end Node

namespace Tree

variable {t : Tree}

/-- In pre-order, all nodes are in the subtree of the first. -/
theorem Preordered.map_preorder_root (h : t.Preordered) (hsize : 0 < t.size)
    (hroot : (t.record 0).parent = none) :
    (t.root.preorder.map fun k => k.record.parent) = t.records.map Record.parent := by
  have hparent : t.root.parent? = none := by
    rw [Node.parent?, Node.record, root, hroot]
    rfl
  have hend : t.extent 0 + 1 = t.records.length := by
    have hge := (Node.root_of_parent?_eq_none (n := t.root) h hsize hparent).2
    have hle := subtreeEnd_le hsize
    have hge : t.size ≤ t.subtreeEnd 0 := hge
    rw [subtreeEnd, size] at *
    omega
  refine List.ext_getElem (by simp [Node.preorder, root, hend]) fun i hi hi' => ?_
  rw [List.length_map] at hi'
  simp [Node.preorder, root, Node.record, record_eq hi']

/-- A list of nodes is in pre-order, with nothing above the first node, if and only if it lists an
inductive tree. -/
theorem exists_lists_iff :
    (∃ s, t.Lists s) ↔ 0 < t.size ∧ t.Preordered ∧ (t.record 0).parent = none := by
  constructor
  · rintro ⟨s, h⟩
    refine ⟨?_, h.preordered, h.parent_root⟩
    have hlength := congrArg List.length h
    rw [Shape.walk_eq, Shape.records_eq, List.map_cons, List.length_cons, List.length_map] at hlength
    rw [size]
    omega
  · rintro ⟨hsize, h, hroot⟩
    refine ⟨t.root.shape, ?_⟩
    have hshape := Node.map_parent_shape (n := t.root) h hsize none 0
    rw [Lists, Shape.walk_eq, ← h.map_preorder_root hsize hroot, Node.preorder_eq_cons,
      List.map_cons]
    exact (congrArg (· :: _) hroot).trans hshape.symm

end Tree

end StructuralSearch
