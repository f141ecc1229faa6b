import StructuralSearch.NameMap

/-!
# Orders of dependencies

Names refer to names. Walking along the references from each name in turn, every name is left after
all that it refers to, unless the walk comes back to a name that it has not left yet.

Main declarations:
1. `Dependency.visit`: the walk from one name.
2. `Dependency.order`: the names of a graph, each after those that it refers to.
-/

namespace StructuralSearch

namespace Dependency

/-- The names that each name refers to, in the order in which the references are followed. -/
abbrev Graph := NameMap (List String)

/-- Why there is no order. -/
inductive Fault
  /-- The name refers back to itself. -/
  | cyclic (name : String)
  /-- The name is referred to and not in the graph. -/
  | undefined (name : String)
deriving DecidableEq, Repr

/-- The names of a graph that are not on a path. -/
def left (g : Graph) (path : List String) : List String :=
  (NameMap.names g).filter fun n => !path.contains n

theorem length_left_cons_lt {g : Graph} {path : List String} {name : String} {refs : List String}
    (hdef : g.find? name = some refs) (hpath : path.contains name = false) :
    (left g (name :: path)).length < (left g path).length := by
  have hmem : name ∈ NameMap.names g := List.mem_map.2 ⟨_, NameMap.mem_of_find? hdef, rfl⟩
  have hsplit : left g (name :: path) = (left g path).filter fun n => n != name := by
    simp only [left, List.filter_filter]
    congr 1
    funext n
    by_cases h : n = name <;> simp [h]
  rw [hsplit]
  refine List.length_filter_lt_length_iff_exists.2 ⟨name, ?_, by simp⟩
  simp only [left, List.mem_filter]
  exact ⟨hmem, by simpa using hpath⟩

/-- The names that have been left after a walk from `name`, in the order of leaving them. The walk
stands at the names of `path`, and `done` have been left before. -/
def visit (g : Graph) (path done : List String) (name : String) : Except Fault (List String) :=
  if done.contains name then .ok done
  else if _hpath : path.contains name then .error (.cyclic name)
  else
    match _hdef : g.find? name with
    | none => .error (.undefined name)
    | some refs => do
      let done ← refs.foldlM (visit g (name :: path)) done
      return done ++ [name]
termination_by (left g path).length
decreasing_by exact length_left_cons_lt _hdef (by simpa using _hpath)

/-- The names of a graph, each after those that it refers to. -/
def order (g : Graph) : Except Fault (List String) := (NameMap.names g).foldlM (visit g []) []

example : (order [("a", ["b"]), ("b", [])]).toOption = some ["b", "a"] := by decide +kernel
example : order [("a", ["b"]), ("b", ["a"])] matches .error (.cyclic "a") := by decide +kernel
example : order [("a", ["c"])] matches .error (.undefined "c") := by decide +kernel

end Dependency

end StructuralSearch
