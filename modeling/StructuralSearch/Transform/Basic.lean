import StructuralSearch.Dependency
import StructuralSearch.Env
import StructuralSearch.Regex.Basic
import StructuralSearch.Rule.Error
import StructuralSearch.Transform.Words

/-!
# Transforms

A transform reads a capture or the result of another transform. The transforms of a rule are put in
an order in which each comes after the one that it reads; a transform whose source has no value
leaves its name without a value.

Main declarations:
1. `Transform.apply`: what a transform makes of a text.
2. `Transforms.compile`: the transforms of a rule in order.
3. `Transforms.apply`: the results of all of them in an environment.
-/

namespace StructuralSearch

/-- A transform that is ready to be applied. -/
inductive Transform
  | substring (start stop : Option Int)
  | replace (regex : Regex) (replacement : Text)
  | convert (target : LetterCase) (separators : Option (List Separator))

namespace Transform

def compile : TransformOperation → Except Regex.Fault Transform
  | .substring start stop => .ok (.substring start stop)
  | .replace regex replacement => do
    return .replace (← Regex.compile regex.toList) replacement.toList
  | .convert target separators => .ok (.convert target separators)

/-- The place in a text of `length` characters that a signed index means: a negative index counts
from the end, and no index lies outside of the text. -/
def resolveIndex (length : Nat) (default : Nat) : Option Int → Nat
  | none => default
  | some i => if i < 0 then length - i.natAbs else min i.toNat length

/-- The characters from `start` up to `stop`. -/
def slice (start stop : Option Int) (t : Text) : Text :=
  let lo := resolveIndex t.length 0 start
  let hi := resolveIndex t.length t.length stop
  (t.drop lo).take (hi - lo)

/-- What a transform makes of a text. -/
def apply : Transform → Text → Text
  | substring start stop, t => slice start stop t
  | replace regex replacement, t => regex.replaceAll replacement t
  | convert target separators, t => target.convert separators t

example : slice (some (-2)) none "a😀b".toList = "😀b".toList := by decide
example : slice (some 2) (some 1) "abc".toList = [] := by decide
example : slice none (some (-(2 ^ 63))) "abc".toList = [] := by decide

end Transform

/-- Where a transform reads its text. -/
inductive TransformSource
  | capture (name : String)
  | transform (name : String)
deriving DecidableEq, Repr

/-- A transform with its name and its source. -/
structure NamedTransform where
  name : String
  source : TransformSource
  transform : Transform

/-- The transforms of a rule in the order of evaluation. -/
abbrev Transforms := List NamedTransform

namespace Transforms

/-- What a transform reads: another transform, or else a capture. -/
def source (sigil : Char) (specs : NameMap TransformSpec) (name : String) (spec : TransformSpec) :
    Except RuleError TransformSource :=
  match Metavariable.ofReference? sigil spec.source.toList with
  | none =>
    .error (.invalidTransform name s!"source '{spec.source}' is not a metavariable")
  | some var =>
    .ok (if specs.contains var.name then .transform var.name else .capture var.name)

/-- The transforms that a source refers to. -/
def dependencies : TransformSource → List String
  | .capture _ => []
  | .transform name => [name]

/-- Why transforms have no order. -/
def orderFault : Dependency.Fault → RuleError
  | .cyclic name => .cyclicTransform name
  | .undefined name => .cyclicTransform name

/-- The transforms of a rule for a language, in the order of evaluation. -/
def compile (language : Language) (specs : NameMap TransformSpec) :
    Except RuleError Transforms := do
  let sources ← specs.mapM fun (name, spec) =>
    (name, ·) <$> source language.sigil specs name spec
  let order ← (Dependency.order (sources.map fun (name, s) => (name, dependencies s))).mapError
    orderFault
  order.filterMapM fun name =>
    match NameMap.find? specs name, NameMap.find? sources name with
    | some spec, some source => do
      let transform ← (Transform.compile spec.operation).mapError
        fun fault => RuleError.invalidTransform name fault.message
      return some ⟨name, source, transform⟩
    | _, _ => return none

def names (ts : Transforms) : List String := ts.map (·.name)

/-- The text that a transform reads, if there is one. -/
def input (e : Env) : TransformSource → Option Text
  | .capture name => e.capturedText name
  | .transform name => e.transformed? name

/-- Stores the result of one transform. -/
def applyOne (e : Env) (t : NamedTransform) : Env :=
  match input e t.source with
  | some text => e.setTransformed t.name (t.transform.apply text)
  | none => e

/-- Stores the results of all transforms. -/
def apply (ts : Transforms) (e : Env) : Env := ts.foldl applyOne e

end Transforms

end StructuralSearch
