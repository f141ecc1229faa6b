import StructuralSearch.Language
import StructuralSearch.Position

/-!
# Trees and nodes

A tree keeps the parse of a source text as the list of its nodes in pre-order; a node is a tree
with a place in that list. All navigation is read off the parents in the list.

Main declarations:
1. `Tree.extent`: the number of descendants of a node, hence `Tree.subtreeEnd`.
2. `Node.children`, `Node.parent?`, `Node.ancestors`: vertical navigation.
3. `Node.preorder`: a node and its descendants.
4. `Node.shape`: the subtree of a node as an inductive tree.
5. `Node.same`: nodes are equal if they have the same tree and the same byte range.
-/

namespace StructuralSearch

/-- A parsed source text. -/
structure Tree where
  /-- Trees of different parses carry different stamps. -/
  stamp : Nat
  language : Language
  source : Text
  /-- The nodes in pre-order. -/
  records : List Record

/-- A node of a tree, by its place in pre-order. -/
structure Node where
  tree : Tree
  id : Nat

namespace Tree

def size (t : Tree) : Nat := t.records.length

def record (t : Tree) (id : Nat) : Record := (t.records[id]?).getD Record.detached

def root (t : Tree) : Node := ⟨t, 0⟩

/-- The records of the descendants of the node at `id`. -/
def descendantRecords (t : Tree) (id : Nat) : List Record :=
  (t.records.drop (id + 1)).takeWhile (Record.isBelow id)

/-- The number of descendants of the node at `id`. -/
def extent (t : Tree) (id : Nat) : Nat := (t.descendantRecords id).length

/-- One past the last place in the subtree of the node at `id`. -/
def subtreeEnd (t : Tree) (id : Nat) : Nat := id + 1 + t.extent id

/-- The places of the children of the node at `id`. -/
def childIds (t : Tree) (id : Nat) : List Nat :=
  ((t.descendantRecords id).zipIdx (id + 1)).filterMap fun (r, j) =>
    if r.parent = some id then some j else none

theorem mem_childIds {t : Tree} {i j : Nat} (h : j ∈ t.childIds i) : i < j ∧ j < t.size := by
  obtain ⟨⟨r, k⟩, hmem, hk⟩ := List.mem_filterMap.1 h
  have hj : k = j := by
    simp only at hk
    split at hk
    · exact Option.some.inj hk
    · exact absurd hk (by simp)
  subst hj
  obtain ⟨hlo, hhi, -⟩ := List.mem_zipIdx hmem
  have hlen : (t.descendantRecords i).length ≤ t.records.length - (i + 1) := by
    rw [← List.length_drop]
    exact (List.takeWhile_sublist _).length_le
  have hpos : 0 < (t.descendantRecords i).length := by omega
  exact ⟨by omega, by simp only [size]; omega⟩

end Tree

namespace Node

def record (n : Node) : Record := n.tree.record n.id

def language (n : Node) : Language := n.tree.language

/-- The grammar's name for this sort of node. -/
def kind (n : Node) : String := n.record.kind

def isNamed (n : Node) : Bool := n.record.named

def isError (n : Node) : Bool := n.record.error

def isMissing (n : Node) : Bool := n.record.missing

def hasError (n : Node) : Bool := n.record.hasError

/-- The field that the node occupies in its parent. -/
def fieldName (n : Node) : Option String := n.record.field

/-- The byte offset at which the node begins. -/
def start (n : Node) : Nat := n.record.start

/-- The byte offset at which the node ends. -/
def stop (n : Node) : Nat := n.record.stop

def span (n : Node) : Span :=
  ⟨.ofOffset n.tree.source n.start, .ofOffset n.tree.source n.stop⟩

/-- The source text of the node. -/
def text (n : Node) : Text := (Text.slice? n.tree.source n.start n.stop).getD []

/-- Whether two nodes have the same tree and cover the same bytes. A node with one child of the
same extent is in this sense equal to the child. -/
def same (a b : Node) : Bool :=
  a.tree.stamp == b.tree.stamp && a.start == b.start && a.stop == b.stop

/-- Nodes are written as kind and span. -/
def render (n : Node) : String := s!"{n.kind}@{n.span.render}"

/-! ## Up and down -/

/-- The children, anonymous ones included, in document order. -/
def children (n : Node) : List Node := (n.tree.childIds n.id).map fun id => ⟨n.tree, id⟩

def namedChildren (n : Node) : List Node := n.children.filter isNamed

def child? (n : Node) (index : Nat) : Option Node := n.children[index]?

def childCount (n : Node) : Nat := n.children.length

def isLeaf (n : Node) : Bool := n.children.isEmpty

/-- The parent; in pre-order a parent comes before its children. -/
def parent? (n : Node) : Option Node :=
  (n.record.parent.filter (· < n.id)).map fun id => ⟨n.tree, id⟩

theorem id_parent?_lt {n p : Node} (h : n.parent? = some p) : p.id < n.id := by
  obtain ⟨i, hi, rfl⟩ := Option.map_eq_some_iff.1 h
  simpa using (Option.filter_eq_some_iff.1 hi).2

/-- The ancestors, from the parent up to the root. -/
def ancestors (n : Node) : List Node :=
  match _h : n.parent? with
  | none => []
  | some p => p :: p.ancestors
termination_by n.id
decreasing_by exact id_parent?_lt _h

/-- One past the last place in the subtree. -/
def subtreeEnd (n : Node) : Nat := n.tree.subtreeEnd n.id

/-- The node and its descendants in pre-order. -/
def preorder (n : Node) : List Node :=
  (List.range' n.id (n.tree.extent n.id + 1)).map fun id => ⟨n.tree, id⟩

/-- The descendants in pre-order. -/
def descendants (n : Node) : List Node := n.preorder.tail

/-! ## Sideways -/

/-- The children of the parent, the node among them. -/
def siblings (n : Node) : List Node := (n.parent?.map children).getD []

/-- The place of the node among the children of its parent. -/
def indexInParent (n : Node) : Nat := if n.siblings.isEmpty then 0 else
  n.siblings.findIdx (·.id == n.id)

/-- The following siblings, nearest first. -/
def nextAll (n : Node) : List Node := n.siblings.drop (n.indexInParent + 1)

/-- The preceding siblings, nearest first. -/
def prevAll (n : Node) : List Node := (n.siblings.take n.indexInParent).reverse

def next? (n : Node) : Option Node := n.nextAll.head?

def prev? (n : Node) : Option Node := n.prevAll.head?

/-- The topmost nodes after this one in document order: its following siblings, then those of
each ancestor. -/
def following (n : Node) : List Node := (n :: n.ancestors).flatMap nextAll

/-- The topmost nodes before this one in document order that are not its ancestors: its preceding
siblings, then those of each ancestor. -/
def preceding (n : Node) : List Node := (n :: n.ancestors).flatMap prevAll

/-! ## Fields -/

/-- The children in the named field. -/
def fieldChildren (n : Node) (name : String) : List Node :=
  n.children.filter fun c => c.fieldName == some name

/-- The first child in the named field. -/
def field? (n : Node) (name : String) : Option Node := (n.fieldChildren name).head?

/-- The node reached by following child indexes. -/
def descend? (n : Node) : List Nat → Option Node
  | [] => some n
  | i :: path => (n.child? i).bind (·.descend? path)

theorem child_smaller {n c : Node} (h : c ∈ n.children) :
    c.tree.size - c.id < n.tree.size - n.id := by
  obtain ⟨i, hi, rfl⟩ := List.mem_map.1 h
  have := Tree.mem_childIds hi
  simp only
  omega

end Node

/-- The subtree of a node: what of it takes part in matching. -/
inductive Shape
  | node (kind : String) (named : Bool) (text : Text) (children : List Shape)
deriving Repr

namespace Shape

def kind : Shape → String
  | node k _ _ _ => k

def named : Shape → Bool
  | node _ n _ _ => n

def text : Shape → Text
  | node _ _ t _ => t

def children : Shape → List Shape
  | node _ _ _ cs => cs

end Shape

namespace Node

/-- The subtree of a node as an inductive tree. -/
def shape (n : Node) : Shape :=
  .node n.kind n.isNamed n.text (n.children.attach.map fun c => c.1.shape)
termination_by n.tree.size - n.id
decreasing_by exact child_smaller c.2

theorem shape_eq (n : Node) :
    n.shape = .node n.kind n.isNamed n.text (n.children.map shape) := by
  rw [shape, List.attach_map_val]

/-- On a stack of nodes, the children of a node are less to go through than the node. -/
theorem shapes_children_smaller (n : Node) (stack : List Node) :
    sizeOf ((n.children ++ stack).map shape) < sizeOf ((n :: stack).map shape) := by
  have happend : ∀ l l' : List Shape, sizeOf (l ++ l') + 1 = sizeOf l + sizeOf l' := by
    intro l l'
    induction l with
    | nil => simp [Nat.add_comm]
    | cons s l ih =>
      simp only [List.cons_append, List.cons.sizeOf_spec]
      omega
  have := happend (n.children.map shape) (stack.map shape)
  rw [List.map_append, List.map_cons, shape_eq n, List.cons.sizeOf_spec, Shape.node.sizeOf_spec]
  omega

end Node

namespace Tree

/-- Whether the parser met an error anywhere. -/
def hasErrors (t : Tree) : Bool := t.root.hasError

end Tree

end StructuralSearch
