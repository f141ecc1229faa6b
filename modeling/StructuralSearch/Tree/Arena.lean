import StructuralSearch.Tree.Basic

/-!
# The arena of a tree

A parser hands its tree over through a cursor, which moves to the first child, to the next sibling
or to the parent. The nodes are listed in the order in which the cursor comes to them, with their
parents. For navigation, an arena keeps with each node also its children, its index among those of
its parent, and the end of its subtree. Children and indexes are filled in during the walk; the ends
follow in a pass from the last node to the first.

Main declarations:
1. `Shape.walk`: the parents of the nodes in the order of the walk.
2. `Arena.add`: the next node of the walk.
3. `Arena.close`: the ends of the subtrees.
4. `Tree.arena`: the arena of a list of nodes.
-/

namespace StructuralSearch

namespace Shape

/-- The parents of the nodes that the cursor comes to, where the next node gets place `id`. The
cursor has descended from the nodes at `parents`, the innermost first, and `rows` are the siblings
that are left at its own level and at those above. -/
def walkFrom (id : Nat) (parents : List Nat) (rows : List (List Shape)) : List (Option Nat) :=
  match rows with
  | [] => []
  | [] :: above => walkFrom id parents.tail above
  | (.node _ _ _ [] :: row) :: above => parents.head? :: walkFrom (id + 1) parents (row :: above)
  | (.node _ _ _ (c :: cs) :: row) :: above =>
    parents.head? :: walkFrom (id + 1) (id :: parents) ((c :: cs) :: row :: above)
termination_by sizeOf rows

/-- The parents of all nodes in pre-order. -/
def walk (s : Shape) : List (Option Nat) := walkFrom 0 [] [[s]]

end Shape

namespace Arena

/-- A node with what navigation asks of it. -/
structure Entry extends Record where
  /-- The places of the children in document order. -/
  children : List Nat
  indexInParent : Nat
  /-- One past the last place in the subtree. -/
  subtreeEnd : Nat
deriving DecidableEq, Repr

/-- The children that are known of the node at `id`. -/
def childrenAt (arena : List Entry) (id : Nat) : List Nat := (arena[id]?.map Entry.children).getD []

/-- The next node of the walk is the last child of its parent so far. -/
def add (arena : List Entry) (r : Record) : List Entry :=
  match r.parent with
  | none => arena ++ [⟨r, [], 0, 0⟩]
  | some p =>
    arena.modify p (fun e => { e with children := e.children ++ [arena.length] }) ++
      [⟨r, [], (childrenAt arena p).length, 0⟩]

/-- A subtree ends where that of the last child ends. -/
def endAt (arena : List Entry) (id : Nat) : Nat :=
  (((childrenAt arena id).getLast?.bind (arena[·]?)).map Entry.subtreeEnd).getD (id + 1)

/-- Finds the end of the subtree of one node. -/
def setEnd (id : Nat) (arena : List Entry) : List Entry :=
  arena.modify id fun e => { e with subtreeEnd := endAt arena id }

/-- The arena with the ends of all subtrees. The pass goes from the last node to the first, so that
the end of a node is found after those of its children. -/
def close (arena : List Entry) : List Entry := (List.range arena.length).foldr setEnd arena

end Arena

/-- The arena of the nodes that are listed. -/
def Tree.arena (t : Tree) : List Arena.Entry := Arena.close (t.records.foldl Arena.add [])

end StructuralSearch
