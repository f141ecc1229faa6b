import StructuralSearch.Text.Quoted
import StructuralSearch.Tree.Basic

/-!
# Developers' texts

Positions, spans, nodes and languages spelled out field by field.
-/

namespace StructuralSearch

def Position.inspect (p : Position) : String :=
  s!"Pos \x7b line: {p.line}, column: {p.column}, index: {p.index} \x7d"

def Span.inspect (s : Span) : String :=
  s!"Range \x7b start: {s.start.inspect}, end: {s.stop.inspect} \x7d"

def Node.inspect (n : Node) : String :=
  s!"Node \x7b kind: {Text.quoted n.kind}, range: {n.span.inspect} \x7d"

def Language.inspect (l : Language) : String :=
  let name := Text.quoted l.name
  let sigil := Text.quotedChar l.sigil
  s!"Language \x7b name: {name}, meta_var_char: {sigil}, dynamic: {l.builtin.isNone}, .. \x7d"

end StructuralSearch
