import StructuralSearch.Document.Decode
import StructuralSearch.Error
import StructuralSearch.Language

/-!
# Registrations

A registration says where the grammar of a language is found, what its patterns look like and which
file extensions it claims. It is checked before any library is opened.

Main declarations:
1. `Registration.conventions`: the checks, and what they leave.
2. `Registration.decode`, `Registration.encode`: registrations in documents.
-/

namespace StructuralSearch

/-- A request to make a language known. -/
structure Registration where
  libraryPath : String
  /-- The name under which the library exports the grammar. -/
  symbol : String
  sigil : Option Char
  expando : Option Char
  extensions : List String
deriving DecidableEq, Repr

/-- What is wrong with a registration. -/
inductive RegistrationFault
  | blankName
  | blankSymbol
  | sigilIsExpando
  | blankConvention
  | emptyExtension
deriving DecidableEq, Repr

namespace RegistrationFault

def message : RegistrationFault → String
  | blankName => "language name must not be empty"
  | blankSymbol => "language symbol must not be empty"
  | sigilIsExpando => "metavariable and expando characters must differ"
  | blankConvention => "metavariable and expando characters must not be whitespace"
  | emptyExtension => "extensions must not be empty"

end RegistrationFault

/-- What a language's patterns and files look like. -/
structure Conventions where
  sigil : Char
  expando : Char
  extensions : List String
deriving DecidableEq, Repr

namespace Registration

/-- An extension without blanks around it and dots before it, in lower case. -/
def normalExtension (raw : String) : Except RegistrationFault String :=
  let bare := ((Text.trim raw.toList).dropWhile (· == '.')).map Char.toLower
  if bare.isEmpty then .error .emptyExtension else .ok (String.ofList bare)

/-- The conventions of the language, if they are sound. -/
def conventions (r : Registration) : Except RegistrationFault Conventions := do
  if Text.isBlankText r.symbol.toList then throw .blankSymbol
  let sigil := r.sigil.getD Language.defaultSigil
  let expando := r.expando.getD Language.defaultExpando
  if sigil = expando then throw .sigilIsExpando
  if Text.isBlank sigil || Text.isBlank expando then throw .blankConvention
  return ⟨sigil, expando, ← r.extensions.mapM normalExtension⟩

/-- The registration that a value describes. -/
def decode (typing : Typing) (v : Value) : Decoded Registration := do
  let fs ← Decode.fields typing
    ["libraryPath", "languageSymbol", "metaVarChar", "expandoChar", "extensions"] v
  return {
    libraryPath := ← Decode.required fs "libraryPath" Decode.text
    symbol := ← Decode.required fs "languageSymbol" Decode.text
    sigil := ← Decode.optional fs "metaVarChar" Decode.char
    expando := ← Decode.optional fs "expandoChar" Decode.char
    extensions := ← Decode.defaulted fs "extensions" (Decode.list Decode.text) [] }

/-- The entry of a record for an optional character. -/
def charEntry (key : String) (c : Option Char) : List (String × Value) :=
  c.toList.map fun c => (key, .text (String.singleton c))

/-- The value that describes a registration. -/
def encode (r : Registration) : Value :=
  .record <| [("libraryPath", .text r.libraryPath), ("languageSymbol", .text r.symbol)] ++
    charEntry "metaVarChar" r.sigil ++ charEntry "expandoChar" r.expando ++
    [("extensions", .list (r.extensions.map .text))]

example : (conventions ⟨"lib", "sym", none, none, [" ..TS "]⟩).toOption =
    some ⟨'$', '_', ["ts"]⟩ := by decide
example : (conventions ⟨"lib", "sym", some '_', none, []⟩).toOption = none := by decide

end Registration

end StructuralSearch
