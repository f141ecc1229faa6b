import StructuralSearch.Search

/-!
# Templates and rewriting

A template is replacement text with references to metavariables. Expanding it copies its text,
deletes the references named `_`, and puts what a match has bound in the place of the other
references; a reference with nothing bound stays as written.

Main declarations:
1. `Template.parse`, `Template.render`: reading and expanding templates.
2. `rewrite`: one edit per match, committed to the text of a node.
3. `RewriteRule`: a pattern with a template for its matches.
-/

namespace StructuralSearch

/-- A piece of a template. -/
inductive TemplatePart
  | text (t : Text)
  /-- A reference, with its spelling. -/
  | reference (name : String) (arity : Arity) (raw : Text)
deriving DecidableEq, Repr

/-- Replacement text with references. -/
structure Template where
  parts : List TemplatePart
deriving DecidableEq, Repr

namespace Template

/-- The number of sigils that a reference is written with. -/
def sigilCount : Arity → Nat
  | .single => 1
  | .multiple => 3

def partOfSegment (sigil : Char) : Segment → TemplatePart
  | .literal t => .text t
  | .malformed t _ => .text t
  | .metavariable v =>
    .reference v.name v.arity (List.replicate (sigilCount v.arity) sigil ++ v.name.toList)

/-- The template of a text; a malformed run of sigils is plain text. -/
def parse (language : Language) (t : Text) : Template :=
  ⟨(Segment.split language.sigil t).map (partOfSegment language.sigil)⟩

/-- The names that a template refers to, `_` excepted, in order. -/
def referencedNames (t : Template) : List String :=
  NameMap.orderedNames <| t.parts.filterMap fun part =>
    match part with
    | .reference name _ _ => if name = Metavariable.anonymous then none else some name
    | .text _ => none

/-- What is put in the place of a reference. -/
def value? (e : Env) (name : String) : Arity → Option Text
  | .single => ((e.node? name).map Node.text).or ((e.transformed? name).or (e.capturedText name))
  | .multiple => (e.capturedText name).or (e.transformed? name)

def renderPart (e : Env) : TemplatePart → Text
  | .text t => t
  | .reference name arity raw =>
    if name = Metavariable.anonymous then [] else (value? e name arity).getD raw

/-- The template with the bindings of a match put in. -/
def render (t : Template) (e : Env) : Text := t.parts.flatMap (renderPart e)

end Template

/-- A rewritten text and the number of edits that were asked for. -/
structure Rewritten where
  output : Text
  replacements : Nat
deriving DecidableEq, Repr

namespace Rewritten

def hasChanges (r : Rewritten) : Bool := 0 < r.replacements

end Rewritten

/-- Commits the edits that `fix` gives for the matches under a node to the text of that node. -/
def rewrite (root : Node) (m : Matcher) (fix : Match → Option Edit) :
    Except SyntaxError Rewritten := do
  let edits := (root.findAll m).filterMap fix
  return ⟨← root.commitEdits edits, edits.length⟩

/-- A pattern and the template that replaces its matches. -/
structure RewriteRule where
  pattern : Pattern
  template : Template

namespace RewriteRule

/-- Joins a pattern and a replacement that refers to metavariables of the pattern only. -/
def make (pattern : Pattern) (replacement : Text) : Except SyntaxError RewriteRule :=
  let template := Template.parse pattern.language replacement
  let bindable := pattern.metavariables.map Metavariable.name
  match template.referencedNames.find? fun name => !bindable.contains name with
  | some name => .error (.invalidReplacement s!"'{name}' is not bound by the pattern")
  | none => .ok ⟨pattern, template⟩

/-- Rewrites every match in a source text. -/
def apply (rule : RewriteRule) (source : Text) : Except SyntaxError Rewritten := do
  let tree ← Tree.parse rule.pattern.language source 0
  rewrite tree.root rule.pattern.matchNode fun m =>
    some (m.node.replace (rule.template.render m.env))

end RewriteRule

end StructuralSearch
