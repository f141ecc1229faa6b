import StructuralSearch.Edit
import StructuralSearch.Error
import StructuralSearch.Tree.Basic

/-!
# Parsing, parse diagnostics and edits of a tree

`Tree.parse` asks the grammar of a language for a tree. `Tree.diagnostics` lists what the parser
had to recover from. Edits are committed against a node, whose text is then the result, or against
a whole tree.
-/

namespace StructuralSearch

namespace Tree

/-- The tree of a source text. -/
def parse (language : Language) (source : Text) (stamp : Nat) : Except SyntaxError Tree :=
  match language.grammar.parse source with
  | some records => .ok ⟨stamp, language, source, records⟩
  | none => .error (.parse language.name "no tree produced")

/-- Applies edits to the whole source. -/
def commitEdits (t : Tree) (edits : List Edit) : Except SyntaxError Text :=
  (Edit.commit t.source 0 edits).mapError fun fault => .edit fault.message

end Tree

namespace Node

/-- The edit that replaces the text of a node. -/
def replace (n : Node) (text : Text) : Edit := ⟨n.start, n.stop, text⟩

/-- Applies edits, at offsets of the whole source, to the text of a node. -/
def commitEdits (n : Node) (edits : List Edit) : Except SyntaxError Text :=
  (Edit.commit n.text n.start edits).mapError fun fault => .edit fault.message

end Node

/-- A place where the parser met an error. -/
structure Diagnostic where
  span : Span
  /-- The source of the node, shortened. -/
  snippet : Text
  /-- The kind of the node, if the parser inserted it. -/
  missing : Option String
deriving DecidableEq, Repr

namespace Diagnostic

/-- The number of characters of source that a diagnostic shows. -/
def snippetLength : Nat := 48

def shorten (t : Text) : Text :=
  if t.length ≤ snippetLength then t else t.take snippetLength ++ "...".toList

def ofNode (n : Node) : Diagnostic :=
  ⟨n.span, shorten n.text, if n.isMissing then some n.kind else none⟩

def render (d : Diagnostic) : String :=
  let (line, column) := d.span.start.oneBased
  match d.missing with
  | some kind => s!"{line}:{column}: missing {kind}"
  | none => s!"{line}:{column}: syntax error near `{String.ofList d.snippet}`"

end Diagnostic

namespace Tree

/-- The error nodes and the inserted nodes in document order. -/
def diagnostics (t : Tree) : List Diagnostic :=
  (t.root.preorder.filter fun n => n.isError || n.isMissing).map Diagnostic.ofNode

end Tree

end StructuralSearch
