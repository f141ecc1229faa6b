import StructuralSearch.Regex.CharSet
import StructuralSearch.Text.Age
import StructuralSearch.Text.Category
import StructuralSearch.Text.Property
import StructuralSearch.Text.Script

/-!
# Named sets of characters

Regular expressions name sets of characters by their categories, their scripts, their ages and their
properties. Names are compared without regard to case, to blanks, hyphens and underscores between
words, and to `is` in front of them.

Main declarations:
1. `CharSet.category?`, `CharSet.script?`, `CharSet.scriptExtension?`, `CharSet.age?`,
   `CharSet.binary?`: the sets by the kind of name.
2. `CharSet.property?`: the set that a name stands for.
3. `CharSet.propertyValue?`: the set of a property with a value.
-/

namespace StructuralSearch

namespace CharSet

open Text

/-- A name as names are compared. -/
def plainName (name : Text) : String :=
  let (prefixed, rest) := match name with
    | i :: s :: rest => if i.toLower = 'i' ∧ s.toLower = 's' then (true, rest) else (false, name)
    | _ => (false, name)
  let kept := (rest.filter fun c => c.toNat < 0x80 && !" _-".toList.contains c).map Char.toLower
  -- `isc` is a name of its own, not that of `c`
  if prefixed && kept == ['c'] then "isc" else String.ofList kept

/-! ## Categories -/

/-- The characters of some categories. -/
def ofCategories (ks : List Category) : CharSet := unions (ks.map fun k => runs k.runs)

/-- The characters that are in use. -/
def assigned : CharSet := ofCategories Category.all

def category? (name : String) : Option CharSet :=
  match name with
  | "any" => some any
  | "ascii" => some ascii
  | "assigned" => some assigned
  | "unassigned" | "cn" => some (complement assigned)
  | "other" | "c" =>
    some (union (ofCategories [.control, .format, .privateUse]) (complement assigned))
  | name =>
    (Category.all.find? (·.names.contains name)).map (fun k => runs k.runs) <|>
      (Category.groups.find? (·.1.contains name)).map fun group => ofCategories group.2

/-! ## Scripts -/

/-- The characters that belong to a script. -/
def script? (name : String) : Option CharSet := (Script.ofName? name).map fun s => runs s.runs

/-- The characters that are used with a script. Those that belong to no script of their own are used
with any, unless they are used with some scripts only. -/
def scriptExtension? (name : String) : Option CharSet :=
  (Script.ofName? name).map fun s =>
    if s.names.any Script.shared.contains then
      diff (runs s.runs) (unions (Script.all.map fun other => runs other.borrowed))
    else union (runs s.runs) (runs s.borrowed)

/-! ## Ages -/

/-- The characters that were in use by a version. -/
def age? (version : String) : Option CharSet :=
  (Age.upTo? version).map fun versions => unions (versions.map fun v => runs v.runs)

/-! ## Properties -/

def lowercase : CharSet := union (runs Category.lowercase.runs) (runs otherLowercaseRuns)

def uppercase : CharSet := union (runs Category.uppercase.runs) (runs otherUppercaseRuns)

def cased : CharSet := unions [lowercase, uppercase, runs Category.titlecase.runs]

def alphabetic : CharSet :=
  unions [cased, ofCategories [.modifierLetter, .otherLetter, .letterNumber],
    runs otherAlphabeticRuns]

/-- Characters that do not count where a letter ends a word. -/
def caseIgnorable : CharSet :=
  union (ofCategories [.nonspacingMark, .enclosingMark, .format, .modifierLetter, .modifierSymbol])
    (runs innerPunctuationRuns)

/-- Marks that extend the character before them. -/
def extending : CharSet :=
  union (ofCategories [.nonspacingMark, .enclosingMark]) (runs otherExtendRuns)

/-- Characters that are seen and extend no other. -/
def base : CharSet :=
  diff assigned (union extending
    (ofCategories [.control, .format, .privateUse, .lineSeparator, .paragraphSeparator]))

/-- Characters that are ignored where they cannot be shown. -/
def ignorable : CharSet :=
  diff (unions [runs Category.format.runs, runs otherIgnorableRuns, runs variationSelectorRuns])
    (union (runs prefixMarkRuns) (ofRanges [(0xFFF9, 0xFFFB), (0x13430, 0x1343F)]))

/-- Characters that have a meaning in patterns, which names leave to them. -/
def syntactic : CharSet := union (runs patternSyntaxRuns) (runs patternBlankRuns)

/-- Characters that begin names. -/
def nameStart : CharSet :=
  diff (union (runs otherStartRuns) (ofCategories
    [.uppercase, .lowercase, .titlecase, .modifierLetter, .otherLetter, .letterNumber])) syntactic

/-- Characters that go on with names. -/
def nameContinue : CharSet :=
  diff (unions [nameStart, runs otherContinueRuns,
    ofCategories [.nonspacingMark, .spacingMark, .decimal, .connector]]) syntactic

def changesInLowercase : CharSet :=
  diff (union uppercase (runs Category.titlecase.runs)) (runs fixedUppercaseRuns)

def changesInUppercase : CharSet :=
  union (diff lowercase (runs fixedLowercaseRuns)) (runs lateUppercaseRuns)

def changesInTitlecase : CharSet :=
  union (diff changesInUppercase (runs titleStableRuns)) (runs titleChangingRuns)

def changesWhenFolded : CharSet :=
  union (diff changesInLowercase (runs loweredOnlyRuns)) (runs foldedOnlyRuns)

def asciiHexDigit : CharSet := ofRanges [(0x30, 0x39), (0x41, 0x46), (0x61, 0x66)]

/-- Symbols of mathematics that begin names in its formulas. -/
def mathStart : CharSet :=
  ofList ['∂', '∇', '∞', '𝛁', '𝛛', '𝛻', '𝜕', '𝜵', '𝝏', '𝝯', '𝞉', '𝞩', '𝟃']

/-- The properties that characters have or do not have, with their names. -/
def properties : List (List String × CharSet) :=
  [(["alphabetic", "alpha"], alphabetic),
    (["asciihexdigit", "ahex"], asciiHexDigit),
    (["bidicontrol", "bidic"], runs bidiControlRuns),
    (["cased"], cased),
    (["caseignorable", "ci"], caseIgnorable),
    (["changeswhencasefolded", "cwcf"], changesWhenFolded),
    (["changeswhencasemapped", "cwcm"],
      unions [changesInLowercase, changesInUppercase, changesInTitlecase]),
    (["changeswhenlowercased", "cwl"], changesInLowercase),
    (["changeswhentitlecased", "cwt"], changesInTitlecase),
    (["changeswhenuppercased", "cwu"], changesInUppercase),
    (["dash"], runs dashMarkRuns),
    (["defaultignorablecodepoint", "di"], ignorable),
    (["deprecated", "dep"], runs deprecatedRuns),
    (["diacritic", "dia"], runs diacriticRuns),
    (["emoji"], runs emojiRuns),
    (["emojicomponent", "ecomp"], runs emojiComponentRuns),
    (["emojimodifier", "emod"], range 0x1F3FB 0x1F3FF),
    (["emojimodifierbase", "ebase"], runs emojiBaseRuns),
    (["emojipresentation", "epres"], runs emojiPresentationRuns),
    (["extendedpictographic", "extpict"], runs pictographicRuns),
    (["extender", "ext"], runs extenderRuns),
    (["graphemebase", "grbase"], base),
    (["graphemeextend", "grext"], extending),
    (["graphemelink", "grlink"], runs viramaRuns),
    (["hexdigit", "hex"],
      union asciiHexDigit (ofRanges [(0xFF10, 0xFF19), (0xFF21, 0xFF26), (0xFF41, 0xFF46)])),
    (["hyphen"], runs hyphenRuns),
    (["idcompatmathcontinue"], unions [mathStart, ofList ['²', '³', '¹', '⁰'],
      ofRanges [(0x2074, 0x207E), (0x2080, 0x208E)]]),
    (["idcompatmathstart"], mathStart),
    (["idcontinue", "idc"], nameContinue),
    (["idstart", "ids"], nameStart),
    (["ideographic", "ideo"], runs ideographicRuns),
    (["idsbinaryoperator", "idsb"],
      ofRanges [(0x2FF0, 0x2FF1), (0x2FF4, 0x2FFD), (0x31EF, 0x31EF)]),
    (["idstrinaryoperator", "idst"], range 0x2FF2 0x2FF3),
    (["idsunaryoperator", "idsu"], range 0x2FFE 0x2FFF),
    (["joincontrol", "joinc"], range 0x200C 0x200D),
    (["logicalorderexception", "loe"], runs logicalExceptionRuns),
    (["lowercase", "lower"], lowercase),
    (["math"], union (runs Category.mathSymbol.runs) (runs otherMathRuns)),
    (["modifiercombiningmark", "mcm"], runs modifierMarkRuns),
    (["noncharactercodepoint", "nchar"], runs noncharacterRuns),
    (["otheralphabetic", "oalpha"], runs otherAlphabeticRuns),
    (["otherdefaultignorablecodepoint", "odi"], runs otherIgnorableRuns),
    (["othergraphemeextend", "ogrext"], runs otherExtendRuns),
    (["otheridcontinue", "oidc"], runs otherContinueRuns),
    (["otheridstart", "oids"], runs otherStartRuns),
    (["otherlowercase", "olower"], runs otherLowercaseRuns),
    (["othermath", "omath"], runs otherMathRuns),
    (["otheruppercase", "oupper"], runs otherUppercaseRuns),
    (["patternsyntax", "patsyn"], runs patternSyntaxRuns),
    (["patternwhitespace", "patws"], runs patternBlankRuns),
    (["prependedconcatenationmark", "pcm"], runs prefixMarkRuns),
    (["quotationmark", "qmark"], runs quoteRuns),
    (["radical"], runs radicalRuns),
    (["regionalindicator", "ri"], range 0x1F1E6 0x1F1FF),
    (["sentenceterminal", "sterm"], runs sentenceEndRuns),
    (["softdotted", "sd"], runs softDottedRuns),
    (["terminalpunctuation", "term"], runs unitEndRuns),
    (["unifiedideograph", "uideo"], runs unifiedIdeographRuns),
    (["uppercase", "upper"], uppercase),
    (["variationselector", "vs"], runs variationSelectorRuns),
    (["whitespace", "wspace", "space"], blank),
    (["xidcontinue", "xidc"], diff nameContinue (runs unstableContinueRuns)),
    (["xidstart", "xids"], diff nameStart (runs unstableStartRuns))]

def binary? (name : String) : Option CharSet :=
  (properties.find? (·.1.contains name)).map (·.2)

/-! ## Names -/

/-- The set that a name stands for: a property, or else a category or a script. -/
def property? (name : Text) : Option CharSet :=
  let name := plainName name
  binary? name <|> category? name <|> script? name

/-- The set of a property with a value. The classes by which clusters, words and sentences are told
apart are not among them. -/
def propertyValue? (name value : Text) : Option CharSet :=
  let value := plainName value
  match plainName name with
  | "generalcategory" | "gc" => category? value
  | "script" | "sc" => script? value
  | "scriptextensions" | "scx" => scriptExtension? value
  | "age" => age? value
  | _ => none

example : (property? "Is_Uppercase-Letter".toList).map (·.contains 'Δ') = some true := by
  decide +kernel
example : (propertyValue? "sc".toList "Latin".toList).map (·.contains 'Δ') = some false := by
  decide +kernel

end CharSet

end StructuralSearch
