/-!
# Failures of the language layer

What can go wrong while languages are looked up and registered, texts are parsed, patterns are
compiled and edits are committed. Each failure is one constructor; `SyntaxError.message` words it.
-/

namespace StructuralSearch

inductive SyntaxError
  /-- No registered language has this name or alias. -/
  | unknownLanguage (name : String)
  /-- No registered language claims this extension. -/
  | unsupportedExtension (extension : String)
  /-- The name is taken. -/
  | duplicateLanguage (name : String)
  /-- The registration was refused before its library was opened. -/
  | invalidRegistration (name reason : String)
  /-- The library supplied no usable grammar. -/
  | languageLoad (name reason : String)
  /-- The grammar was refused by the parser. -/
  | parserInit (language reason : String)
  /-- The parser gave up. -/
  | parse (language reason : String)
  /-- The text of a pattern does not parse to a usable node. -/
  | patternCompile (language reason : String)
  /-- A run of sigils does not form a metavariable. -/
  | invalidMetavariable (reason : String)
  /-- The kind selected in a context does not occur there. -/
  | noSelectorInContext (selector : String)
  /-- A capture that the caller requires is not bound. -/
  | captureNotFound (name : String)
  /-- An edit cannot be applied. -/
  | edit (reason : String)
  /-- A template cannot be expanded. -/
  | invalidReplacement (reason : String)
deriving DecidableEq, Repr

namespace SyntaxError

def message : SyntaxError → String
  | unknownLanguage name => s!"unknown language: '{name}'"
  | unsupportedExtension extension => s!"unsupported file extension: {extension}"
  | duplicateLanguage name => s!"language '{name}' is already registered"
  | invalidRegistration name reason => s!"invalid registration for language '{name}': {reason}"
  | languageLoad name reason => s!"failed to load grammar for '{name}': {reason}"
  | parserInit language reason => s!"failed to initialise parser for {language}: {reason}"
  | parse language reason => s!"failed to parse {language}: {reason}"
  | patternCompile language reason => s!"invalid pattern for {language}: {reason}"
  | invalidMetavariable reason => s!"invalid metavariable syntax: {reason}"
  | noSelectorInContext selector =>
    s!"selector '{selector}' does not occur in the pattern context"
  | captureNotFound name => s!"metavariable '{name}' is not bound in this match"
  | edit reason => s!"edit commit failed: {reason}"
  | invalidReplacement reason => s!"invalid replacement template: {reason}"

/-- Whether the failure lies in what was registered and not in the code that is searched. -/
def isRegistration : SyntaxError → Bool
  | duplicateLanguage _ => true
  | invalidRegistration _ _ => true
  | _ => false

end SyntaxError

end StructuralSearch
