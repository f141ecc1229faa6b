import StructuralSearch.NameMap
import StructuralSearch.Metavariable
import StructuralSearch.Tree.Basic

/-!
# Environments

An environment binds names to the nodes that metavariables matched, and names of transforms to the
texts that they produced. Environments are values: a branch of a search that fails leaves no trace.

Main declarations:
1. `Env.bindSingle`, `Env.bindMultiple`: binding within one pattern, where a repeated name has to
   match nodes of the same kinds and texts.
2. `Env.merge`: joining two environments, where a repeated name has to be bound to equal nodes.
3. `Env.capturedText`: the source text that a name captured.
-/

namespace StructuralSearch

/-- What a match has bound. -/
structure Env where
  single : NameMap Node
  multiple : NameMap (List Node)
  transformed : NameMap Text

namespace Env

def empty : Env := ⟨.empty, .empty, .empty⟩

def isEmpty (e : Env) : Bool := e.single.isEmpty && e.multiple.isEmpty && e.transformed.isEmpty

/-- The node that a name captured. -/
def node? (e : Env) (name : String) : Option Node := e.single.find? name

/-- The run of nodes that a name captured; an unbound name has the empty run. -/
def run (e : Env) (name : String) : List Node := (e.multiple.find? name).getD []

/-- The text that a transform produced. -/
def transformed? (e : Env) (name : String) : Option Text := e.transformed.find? name

/-- The source from the first node of a run to its last. -/
def runText : List Node → Text
  | [] => []
  | n :: ns =>
    (Text.slice? n.tree.source n.start ((n :: ns).getLast (List.cons_ne_nil n ns)).stop).getD []

/-- The source text that a name captured. -/
def capturedText (e : Env) (name : String) : Option Text :=
  match e.node? name with
  | some n => some n.text
  | none => (e.multiple.find? name).map runText

/-- Whether two nodes have the same kind and text. -/
def alike (a b : Node) : Bool := a.kind == b.kind && a.text == b.text

/-- Whether two runs agree node by node. -/
def alikeRun (a b : List Node) : Bool :=
  a.length == b.length && (a.zip b).all fun (x, y) => alike x y

/-- Whether two runs hold equal nodes. -/
def sameRun (a b : List Node) : Bool :=
  a.length == b.length && (a.zip b).all fun (x, y) => x.same y

/-- Binds a name to a node; a bound name has to have captured a node that is alike. -/
def bindSingle (e : Env) (name : String) (n : Node) : Option Env :=
  if name = Metavariable.anonymous then some e
  else
    match e.single.find? name with
    | some bound => if alike bound n then some e else none
    | none => some { e with single := e.single.insert name n }

/-- Binds a name to a run; a bound name has to have captured a run that is alike. -/
def bindMultiple (e : Env) (name : String) (ns : List Node) : Option Env :=
  if name = Metavariable.anonymous then some e
  else
    match e.multiple.find? name with
    | some bound => if alikeRun bound ns then some e else none
    | none => some { e with multiple := e.multiple.insert name ns }

/-- The bindings of both environments, unless a name is bound to different nodes; of two transform
results with one name the second counts. -/
def merge (a b : Env) : Option Env :=
  if NameMap.compatible Node.same a.single b.single &&
      NameMap.compatible sameRun a.multiple b.multiple then
    some ⟨a.single.union b.single, a.multiple.union b.multiple,
      a.transformed.override b.transformed⟩
  else none

/-- Stores the result of a transform. -/
def setTransformed (e : Env) (name : String) (value : Text) : Env :=
  { e with transformed := e.transformed.insert name value }

/-- Whether two environments bind the same names to equal things. -/
def same (a b : Env) : Bool :=
  NameMap.same Node.same a.single b.single && NameMap.same sameRun a.multiple b.multiple &&
    NameMap.same (· == ·) a.transformed b.transformed

@[simp] theorem merge_empty (a : Env) : a.merge empty = some a := by
  simp [merge, empty, NameMap.empty, NameMap.compatible, NameMap.union, NameMap.override]

end Env

end StructuralSearch
