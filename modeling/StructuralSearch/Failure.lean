import StructuralSearch.Rule.Error

/-!
# Failures as users see them

Every failure of the layers below is one of three: the configuration is at fault, a capture is not
there, or a sound request could not be carried out.
-/

namespace StructuralSearch

inductive Failure
  | configuration (message : String)
  | notFound (name : String)
  | runtime (message : String)
deriving DecidableEq, Repr

namespace Failure

def message : Failure → String
  | configuration message => s!"configuration error: {message}"
  | notFound name => s!"capture '{name}' not found"
  | runtime message => s!"runtime error: {message}"

def isConfiguration : Failure → Bool
  | configuration _ => true
  | _ => false

/-- How a failure of the language layer is seen. -/
def ofSyntaxError (e : SyntaxError) : Failure :=
  match e with
  | .captureNotFound name => notFound name
  | e => if e.isRegistration then configuration e.message else runtime e.message

/-- How a failure of a rule is seen. -/
def ofRuleError (e : RuleError) : Failure :=
  match e with
  | .language error => ofSyntaxError error
  | e => if e.isConfiguration then configuration e.message else runtime e.message

end Failure

end StructuralSearch
