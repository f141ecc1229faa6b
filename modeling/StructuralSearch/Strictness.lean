import StructuralSearch.Language

/-!
# Strictness levels

A strictness level says which nodes of a pattern and which nodes of a candidate may be left without
a partner when their children are aligned, and whether the texts of leaves are compared.

| level       | pattern leaves out | candidate leaves out | leaf text |
|-------------|--------------------|----------------------|-----------|
| `cst`       | nothing            | nothing              | compared  |
| `smart`     | nothing            | unnamed              | compared  |
| `ast`       | unnamed            | unnamed              | compared  |
| `relaxed`   | unnamed, comments  | unnamed, comments    | compared  |
| `signature` | unnamed, comments  | unnamed, comments    | ignored   |
-/

namespace StructuralSearch

inductive Strictness
  | cst
  | smart
  | ast
  | relaxed
  | signature
deriving DecidableEq, Repr

namespace Strictness

def all : List Strictness := [cst, smart, ast, relaxed, signature]

def name : Strictness → String
  | cst => "cst"
  | smart => "smart"
  | ast => "ast"
  | relaxed => "relaxed"
  | signature => "signature"

/-- The level of a pattern that names none. -/
def default : Strictness := smart

/-- The level with this name, whatever its case. -/
def ofName? (text : String) : Option Strictness := all.find? (sameIgnoringCase text ·.name)

/-- Whether a kind of node is a comment. -/
def isCommentKind (kind : String) : Bool := Text.contains "comment".toList kind.toList

/-- Whether a node of a pattern may go without a partner. -/
def skipsGoal (level : Strictness) (kind : String) (named : Bool) : Bool :=
  match level with
  | cst | smart => false
  | ast => !named
  | relaxed | signature => !named || isCommentKind kind

/-- Whether a candidate may go without a partner. -/
def skipsCandidate (level : Strictness) (kind : String) (named : Bool) : Bool :=
  match level with
  | cst => false
  | smart | ast => !named
  | relaxed | signature => !named || isCommentKind kind

/-- Whether the texts of leaves are compared. -/
def comparesText (level : Strictness) : Bool := level != signature

/-- Where a level leaves out pattern nodes, it also leaves out such candidates. -/
theorem skipsCandidate_of_skipsGoal {level : Strictness} {kind : String} {named : Bool}
    (h : level.skipsGoal kind named = true) : level.skipsCandidate kind named = true := by
  cases level <;> simp_all [skipsGoal, skipsCandidate]

example : ofName? "AST" = some ast := by decide
example : ofName? "sm art" = none := by decide

end Strictness

end StructuralSearch
