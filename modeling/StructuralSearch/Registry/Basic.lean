import StructuralSearch.Registry.Path
import StructuralSearch.Registry.Registration

/-!
# The registry of languages

A registry knows languages by name and says which of them claims a file extension. It only grows: a
name keeps its language and an extension the language that claimed it first. What a library holds is
asked of a loader.

Main declarations:
1. `Registry.register`: makes a language known, or says why not.
2. `Registry.resolve`: the language of a name or alias.
3. `Registry.fromPath`: the language of a file.
-/

namespace StructuralSearch

/-- A grammar from a library, with the version of the interface that it was made for. -/
structure LoadedGrammar where
  version : Nat
  grammar : Grammar

/-- Why a library supplies no usable grammar. -/
inductive LoadFailure
  | unresolved (path reason : String)
  | unopenable (reason : String)
  | missingSymbol (symbol reason : String)
  | incompatible (version : Nat)
deriving DecidableEq, Repr

namespace LoadFailure

def message : LoadFailure → String
  | unresolved path reason => s!"cannot resolve '{path}': {reason}"
  | unopenable reason => s!"cannot open library: {reason}"
  | missingSymbol symbol reason => s!"cannot read symbol '{symbol}': {reason}"
  | incompatible version => s!"incompatible tree-sitter ABI version {version}"

end LoadFailure

/-- What the libraries hold: the grammar at a path under a symbol. -/
abbrev Loader := String → String → Except LoadFailure LoadedGrammar

/-- The oldest interface version that grammars may have. -/
def oldestVersion : Nat := 13

/-- The newest interface version that grammars may have. -/
def newestVersion : Nat := 15

/-- A registry of languages. -/
structure Registry where
  languages : NameMap Language
  /-- The name of the language that claims an extension. -/
  extensions : NameMap String

namespace Registry

def empty : Registry := ⟨.empty, .empty⟩

def size (r : Registry) : Nat := r.languages.length

def isEmpty (r : Registry) : Bool := r.languages.isEmpty

/-- The registered names in order. -/
def names (r : Registry) : List String := NameMap.orderedNames (NameMap.names r.languages)

/-- Adds a language, which claims those of its extensions that are still free. -/
def insert (r : Registry) (l : Language) : Registry :=
  ⟨r.languages.insert l.name l,
    l.extensions.foldl (fun claimed e => claimed.union [(e, l.name)]) r.extensions⟩

/-- The registry of the builtin languages. -/
def withBuiltins (grammars : Builtin → Grammar) : Registry :=
  Builtin.all.foldl (fun r b => r.insert (.ofBuiltin b (grammars b))) empty

/-- The grammar that a registration asks for, if its version is supported. -/
def load (loader : Loader) (registration : Registration) : Except LoadFailure Grammar := do
  let loaded ← loader registration.libraryPath registration.symbol
  if loaded.version < oldestVersion || newestVersion < loaded.version then
    throw (.incompatible loaded.version)
  return loaded.grammar

/-- Makes a language known under a name. -/
def register (r : Registry) (loader : Loader) (name : String) (registration : Registration) :
    Except SyntaxError Registry := do
  let refuse (fault : RegistrationFault) := SyntaxError.invalidRegistration name fault.message
  if Text.isBlankText name.toList then throw (refuse .blankName)
  if r.languages.contains name then throw (.duplicateLanguage name)
  let conventions ← registration.conventions.mapError refuse
  let grammar ← (load loader registration).mapError
    fun failure => .languageLoad name failure.message
  return r.insert ⟨name, conventions.sigil, conventions.expando, conventions.extensions, none,
    grammar⟩

/-- Registers the entries of a map one after the other. -/
def registerAll (r : Registry) (loader : Loader) (entries : NameMap Registration) :
    Except SyntaxError Registry :=
  entries.foldlM (fun r (name, registration) => r.register loader name registration) r

/-- The builtin languages and those of a map in name order. -/
def fromConfig (grammars : Builtin → Grammar) (loader : Loader) (entries : NameMap Registration) :
    Except SyntaxError Registry :=
  (withBuiltins grammars).registerAll loader entries

/-- The language registered under a name. -/
def get? (r : Registry) (name : String) : Option Language := r.languages.find? name

/-- The language registered under a name, or else the registered builtin language that it is an
alias of. -/
def resolve (r : Registry) (name : String) : Except SyntaxError Language :=
  match (r.get? name).or ((Builtin.ofName? name).bind fun b => r.get? b.name) with
  | some l => .ok l
  | none => .error (.unknownLanguage name)

/-- The language that claims the extension of a path, whatever its case. -/
def fromPath (r : Registry) (path : String) : Except SyntaxError Language :=
  let extension := String.ofList (((Path.extension? path.toList).getD []).map Char.toLower)
  match (r.extensions.find? extension).bind r.get? with
  | some l => .ok l
  | none => .error (.unsupportedExtension extension)

end Registry

end StructuralSearch
