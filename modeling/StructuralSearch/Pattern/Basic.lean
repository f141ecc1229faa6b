import StructuralSearch.Metavariable
import StructuralSearch.Strictness
import StructuralSearch.Tree.Parse

/-!
# Patterns

A pattern is a piece of code with metavariables. To parse it, each metavariable is replaced by a
placeholder identifier. Code that does not parse on its own is tried again inside a function body,
for the languages whose functions are known. The node that candidates are compared with is the
first node of a selected kind, or else what is left of the tree when nodes with one child are
stepped through.

Main declarations:
1. `Pattern.prepare`: the metavariables of a source and its text with placeholders.
2. `Pattern.wrappings`: the function bodies that are tried for code that does not parse.
3. `Pattern.effectiveRoot`: the node that candidates are compared with.
4. `Pattern.compile`: all of it.
-/

namespace StructuralSearch

/-- A pattern that is ready to be matched. -/
structure Pattern where
  /-- The pattern as written. -/
  source : Text
  language : Language
  /-- The metavariables in the order of the source, those that do not capture included. -/
  metavariables : List Metavariable
  /-- The tree that the pattern lives in. -/
  tree : Tree
  /-- The place of the node that candidates are compared with. -/
  rootId : Nat
  strictness : Strictness

/-- Code whose tree holds the node to compare with, and how that node is chosen. -/
structure PatternContext where
  context : Text
  /-- The kind of the node to compare with. -/
  selector : Option String
deriving DecidableEq, Repr

namespace Pattern

/-- The metavariables of a source and its text with placeholders in their stead. -/
def prepare (language : Language) (source : Text) :
    Except Malformation (List Metavariable × Text) :=
  (Segment.split language.sigil source).foldlM (fun (vars, text) segment =>
    match segment with
    | .literal piece => .ok (vars, text ++ piece)
    | .metavariable var =>
      .ok (vars ++ [var], text ++ Placeholder.encode language.expando var.name var.arity)
    | .malformed _ why => .error why) ([], [])

/-- The name of the function that code is wrapped in. -/
def wrapperName : Text := "__heddle_pattern_wrapper__".toList

/-- The function bodies that are tried for code that does not parse, in this order. -/
def wrappings (builtin : Builtin) (code : Text) : List Text :=
  match builtin with
  | .rust =>
    let statement := code.trimEnd
    let body (ending : String) : Text :=
      "fn ".toList ++ wrapperName ++ "() \x7b ".toList ++ statement ++ ending.toList
    match statement.getLast? with
    | some ';' | some '}' => [body " \x7d"]
    | _ => [body " \x7d", body "; \x7d"]
  | .python =>
    ["def ".toList ++ wrapperName ++ "():\n".toList ++
      code.lines.flatMap fun line => "    ".toList ++ line ++ ['\n']]
  | .typescript =>
    ["function ".toList ++ wrapperName ++ "() \x7b ".toList ++ code ++ " \x7d".toList]

/-- The first of several texts that parses without errors. -/
def firstClean (language : Language) : List Text → Except SyntaxError (Option Tree)
  | [] => .ok none
  | text :: rest => do
    let tree ← Tree.parse language text 0
    if tree.hasErrors then firstClean language rest else return some tree

/-- The tree that a prepared pattern lives in, and whether it is that of a wrapping. Code that
parses in no wrapping keeps its own tree. -/
def parsePrepared (language : Language) (code : Text) : Except SyntaxError (Tree × Bool) := do
  let plain ← Tree.parse language code 0
  if !plain.hasErrors then return (plain, false)
  match language.builtin with
  | none => return (plain, false)
  | some builtin =>
    match ← firstClean language (wrappings builtin code) with
    | some wrapped => return (wrapped, true)
    | none => return (plain, false)

/-- What a wrapping holds: the only statement of the function body, or else the body. -/
def unwrapped (root : Node) : Node :=
  match root.namedChildren.head? with
  | none => root
  | some wrapper =>
    let block := wrapper.namedChildren.find? fun c => Text.contains "block".toList c.kind.toList
    match (wrapper.field? "body").or block with
    | none => wrapper
    | some body =>
      match body.namedChildren with
      | [only] => only
      | _ => body

/-- The first node below with no child or several. -/
def throughSingleChildren (n : Node) : Node :=
  match _h : n.children with
  | [c] => throughSingleChildren c
  | _ => n
termination_by n.tree.size - n.id
decreasing_by exact Node.child_smaller (by simp [_h])

/-- The node that candidates are compared with when no kind is selected. -/
def effectiveRoot (language : Language) (tree : Tree) (wrapped : Bool) :
    Except SyntaxError Node :=
  let start := if wrapped then unwrapped tree.root else tree.root
  let root := throughSingleChildren start
  if !wrapped && !tree.hasErrors && root.id == tree.root.id && root.namedChildren.length > 1 then
    .error (.patternCompile language.name "pattern has multiple top-level nodes")
  else .ok root

/-- The first node of a kind. -/
def selected (tree : Tree) (kind : String) : Except SyntaxError Node :=
  match tree.root.preorder.find? (·.kind == kind) with
  | some n => .ok n
  | none => .error (.noSelectorInContext kind)

/-- Compiles a pattern that may select a node of its context. -/
def compileIn (language : Language) (context : PatternContext) : Except SyntaxError Pattern := do
  if context.context.isBlankText then
    throw (.patternCompile language.name "pattern has no content")
  let (vars, code) ← (prepare language context.context).mapError
    fun why => .invalidMetavariable why.message
  let (tree, wrapped) ← parsePrepared language code
  let root ← match context.selector with
    | some kind => selected tree kind
    | none => effectiveRoot language tree wrapped
  return ⟨context.context, language, vars, tree, root.id, .default⟩

/-- Compiles a pattern that is compared as a whole. -/
def compile (language : Language) (source : Text) : Except SyntaxError Pattern :=
  compileIn language ⟨source, none⟩

/-- The pattern at another strictness. -/
def withStrictness (p : Pattern) (level : Strictness) : Pattern := { p with strictness := level }

/-- The node that candidates are compared with. -/
def root (p : Pattern) : Node := ⟨p.tree, p.rootId⟩

/-- Whether the pattern has no metavariables. -/
def isLiteral (p : Pattern) : Bool := p.metavariables.isEmpty

/-- Whether the pattern did not parse cleanly. -/
def isNoisy (p : Pattern) : Bool := p.tree.hasErrors

end Pattern

end StructuralSearch
