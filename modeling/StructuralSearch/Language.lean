import StructuralSearch.Text.Blank

/-!
# Languages and their grammars

A grammar is known by three answers: the parse of a text, whether a kind of node exists, and
whether a field exists. A language joins a name, a grammar and the two characters that patterns
use: the sigil that introduces a metavariable and the expando that stands in for it while a
pattern is parsed.

A parse lists the nodes of the tree in pre-order; `Record` is one entry of the list.
-/

namespace StructuralSearch

/-- One node of a parse, in a list of all nodes in pre-order. -/
structure Record where
  /-- The place of the parent in the list; the root has none. -/
  parent : Option Nat
  kind : String
  /-- Named nodes are those that the grammar names, unlike punctuation and keywords. -/
  named : Bool
  /-- The node wraps text that the parser could not place. -/
  error : Bool
  /-- The parser inserted the node to recover from an error. -/
  missing : Bool
  /-- The node or a descendant is an error. -/
  hasError : Bool
  /-- The byte offset at which the node begins. -/
  start : Nat
  /-- The byte offset at which the node ends. -/
  stop : Nat
  /-- The field that the node occupies in its parent. -/
  field : Option String
deriving DecidableEq, Repr

namespace Record

/-- What is read at a place outside the list. -/
def detached : Record := ⟨none, "", false, false, false, false, 0, 0, none⟩

/-- Whether the node lies below the node at `id`, for a node listed after it: in pre-order, the
descendants of a node are the run of nodes after it whose parents are not earlier than it. -/
def isBelow (id : Nat) (r : Record) : Bool := r.parent.any (id ≤ ·)

end Record

/-- What a grammar can be asked. -/
structure Grammar where
  /-- The nodes of the parse of a text, unless the parser gives up. -/
  parse : Text → Option (List Record)
  hasKind : String → Bool
  hasField : String → Bool

/-- The languages known without registration. -/
inductive Builtin
  | rust
  | python
  | typescript
deriving DecidableEq, Repr

/-- Whether two names agree when the case of ASCII letters is ignored. -/
def sameIgnoringCase (a b : String) : Bool :=
  a.toList.map Char.toLower == b.toList.map Char.toLower

namespace Builtin

def all : List Builtin := [rust, python, typescript]

/-- The name under which a builtin language is registered. -/
def name : Builtin → String
  | rust => "rust"
  | python => "python"
  | typescript => "typescript"

/-- The names that select a builtin language, whatever their case. -/
def aliases : Builtin → List String
  | rust => ["rust", "rs"]
  | python => ["python", "py"]
  | typescript => ["typescript", "ts", "tsx", "javascript", "js", "jsx"]

/-- The file extensions of a builtin language. -/
def extensions : Builtin → List String
  | rust => ["rs"]
  | python => ["py", "pyi"]
  | typescript => ["ts", "tsx", "mts", "cts", "js", "jsx", "mjs", "cjs"]

/-- The builtin language that a name or alias selects. -/
def ofName? (text : String) : Option Builtin :=
  all.find? fun b => b.aliases.any (sameIgnoringCase text)

example : ofName? "JSX" = some typescript := by decide
example : ofName? "rust " = none := by decide

end Builtin

/-- A language: its name, its grammar and its conventions. -/
structure Language where
  name : String
  /-- The character that introduces a metavariable. -/
  sigil : Char
  /-- The character that metavariables are spelled with while a pattern is parsed. -/
  expando : Char
  extensions : List String
  /-- The builtin language, unless the grammar was loaded from a library. -/
  builtin : Option Builtin
  grammar : Grammar

namespace Language

/-- The sigil of a language that names no other. -/
def defaultSigil : Char := '$'

/-- The expando of a language that names no other. -/
def defaultExpando : Char := '_'

/-- A builtin language over its grammar. -/
def ofBuiltin (b : Builtin) (grammar : Grammar) : Language :=
  ⟨b.name, defaultSigil, defaultExpando, b.extensions, some b, grammar⟩

/-- Languages are told apart by their names. -/
def same (a b : Language) : Bool := a.name == b.name

end Language

end StructuralSearch
