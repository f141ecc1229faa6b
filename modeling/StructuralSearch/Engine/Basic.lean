import StructuralSearch.Engine.Config
import StructuralSearch.Registry.Basic
import StructuralSearch.Tree.Parse

/-!
# The engine

An engine knows the languages of a registry and parses sources in them.
-/

namespace StructuralSearch

structure Engine where
  registry : Registry

namespace Engine

/-- The engine that knows the builtin languages. -/
def withBuiltins (grammars : Builtin → Grammar) : Engine := ⟨.withBuiltins grammars⟩

/-- The engine that knows the builtin languages and those of a configuration. -/
def fromConfig (grammars : Builtin → Grammar) (loader : Loader) (c : EngineConfig) :
    Except Failure Engine := do
  return ⟨← (Registry.fromConfig grammars loader c.languages).mapError Failure.ofSyntaxError⟩

/-- Makes a language known under a name. -/
def register (e : Engine) (loader : Loader) (name : String) (registration : Registration) :
    Except Failure Engine := do
  return ⟨← (e.registry.register loader name registration).mapError Failure.ofSyntaxError⟩

/-- The language of a name or alias. -/
def language (e : Engine) (name : String) : Except Failure Language :=
  (e.registry.resolve name).mapError .ofSyntaxError

/-- The tree of a source text in a language. -/
def parse (e : Engine) (source : Text) (name : String) (stamp : Nat) : Except Failure Tree := do
  (Tree.parse (← e.language name) source stamp).mapError .ofSyntaxError

end Engine

end StructuralSearch
