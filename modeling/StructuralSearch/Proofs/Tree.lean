import Mathlib.Data.List.Basic
import StructuralSearch.Tree.Basic

/-!
# Trees that parsers deliver

Results:
1. `Shape.induct`: induction over inductive trees.
2. `Tree.extent_le`: descendants of a listed node are listed.
3. `Tree.within_root`: in a tree whose nodes lie within their parents, they lie within the root.
-/

namespace StructuralSearch

/-- Proofs over inductive trees go from the children to the node. -/
theorem Shape.induct {P : Shape → Prop}
    (node : ∀ kind named text children, (∀ c ∈ children, P c) → P (.node kind named text children))
    (s : Shape) : P s :=
  @Shape.rec P (fun children => ∀ c ∈ children, P c) node (fun _ hc => absurd hc List.not_mem_nil)
    (fun _ _ hc hcs => List.forall_mem_cons.mpr ⟨hc, hcs⟩) s

namespace Node

theorem kind_shape (n : Node) : n.shape.kind = n.kind := by
  rw [shape_eq]
  rfl

theorem isNamed_shape (n : Node) : n.shape.named = n.isNamed := by
  rw [shape_eq]
  rfl

theorem text_shape (n : Node) : n.shape.text = n.text := by
  rw [shape_eq]
  rfl

theorem children_shape (n : Node) : n.shape.children = n.children.map shape := by
  rw [shape_eq]
  rfl

end Node

namespace Tree

/-- The descendants of a node are among the nodes after it. -/
theorem extent_le (t : Tree) (id : Nat) : t.extent id ≤ t.size - (id + 1) := by
  rw [size, ← List.length_drop]
  exact (List.takeWhile_sublist _).length_le

theorem subtreeEnd_le {t : Tree} {id : Nat} (h : id < t.size) : t.subtreeEnd id ≤ t.size := by
  have := t.extent_le id
  simp only [subtreeEnd]
  omega

/-- A parse whose nodes cover slices of the source, each within its parent, which is listed
earlier. -/
structure Nested (t : Tree) : Prop where
  nonempty : 0 < t.size
  parent : ∀ id, 0 < id → id < t.size → ∃ p, (t.record id).parent = some p ∧ p < id
  slice : ∀ id, id < t.size →
    ∃ m, t.source.slice? (t.record id).start (t.record id).stop = some m
  within : ∀ id p, id < t.size → (t.record id).parent = some p →
    (t.record p).start ≤ (t.record id).start ∧ (t.record id).stop ≤ (t.record p).stop

/-- Every node lies within the root. -/
theorem within_root {t : Tree} (h : t.Nested) {id : Nat} (hid : id < t.size) :
    t.root.start ≤ (t.record id).start ∧ (t.record id).stop ≤ t.root.stop := by
  induction id using Nat.strongRecOn with
  | ind id ih =>
    rcases Nat.eq_zero_or_pos id with rfl | hpos
    · exact ⟨Nat.le_refl _, Nat.le_refl _⟩
    · obtain ⟨p, hp, hlt⟩ := h.parent id hpos hid
      obtain ⟨hstart, hstop⟩ := h.within id p hid hp
      obtain ⟨hstart', hstop'⟩ := ih p hlt (by omega)
      omega

end Tree

/-! ## Trees for examples -/

/-- A node of a parse without errors and fields. -/
def Record.plain (parent : Option Nat) (kind : String) (named : Bool) (start stop : Nat) : Record :=
  ⟨parent, kind, named, false, false, false, start, stop, none⟩

/-- A language whose grammar has every kind and field, with some parser. -/
def Language.parsing (parse : Text → Option (List Record)) : Language where
  name := "example"
  sigil := '$'
  expando := '_'
  extensions := []
  builtin := none
  grammar := ⟨parse, fun _ => true, fun _ => true⟩

end StructuralSearch
