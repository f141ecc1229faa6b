import StructuralSearch.Document.Decode
import StructuralSearch.Text.Basic

/-!
# Transforms as written

A transform derives a text from a capture: a part of it, the result of a replacement, or its words
in another case. A document names the operation by its only key.
-/

namespace StructuralSearch

/-- The case that a text is converted to. -/
inductive LetterCase
  | lower
  | upper
  /-- The first character in upper case. -/
  | capitalize
  | camel
  | snake
  | kebab
  | pascal
deriving DecidableEq, Repr

namespace LetterCase

def all : List LetterCase := [lower, upper, capitalize, camel, snake, kebab, pascal]

def name : LetterCase → String
  | lower => "lowerCase"
  | upper => "upperCase"
  | capitalize => "capitalize"
  | camel => "camelCase"
  | snake => "snakeCase"
  | kebab => "kebabCase"
  | pascal => "pascalCase"

end LetterCase

/-- What ends a word. -/
inductive Separator
  /-- A change of case. -/
  | caseChange
  | dash
  | dot
  | slash
  | space
  | underscore
deriving DecidableEq, Repr

namespace Separator

def all : List Separator := [caseChange, dash, dot, slash, space, underscore]

def name : Separator → String
  | caseChange => "caseChange"
  | dash => "dash"
  | dot => "dot"
  | slash => "slash"
  | space => "space"
  | underscore => "underscore"

end Separator

/-- What a transform does to a text. -/
inductive TransformOperation
  /-- The characters from `start` up to `stop`, counted from the end if negative. -/
  | substring (start stop : Option Int)
  /-- Replaces the matches of a regular expression. -/
  | replace (regex replacement : String)
  /-- Writes the words of the text in a case. -/
  | convert (target : LetterCase) (separators : Option (List Separator))
deriving DecidableEq, Repr

/-- A transform as written. -/
structure TransformSpec where
  /-- The reference to what is transformed. -/
  source : String
  operation : TransformOperation
deriving DecidableEq, Repr

namespace TransformSpec

def decodeSubstring (typing : Typing) (v : Value) : Decoded TransformSpec := do
  let fs ← Decode.fields typing ["source", "startChar", "endChar"] v
  return ⟨← Decode.required fs "source" Decode.text,
    .substring (← Decode.optional fs "startChar" (Decode.integer typing))
      (← Decode.optional fs "endChar" (Decode.integer typing))⟩

def decodeReplace (typing : Typing) (v : Value) : Decoded TransformSpec := do
  let fs ← Decode.fields typing ["source", "replace", "by"] v
  return ⟨← Decode.required fs "source" Decode.text,
    .replace (← Decode.required fs "replace" Decode.text) (← Decode.required fs "by" Decode.text)⟩

def decodeConvert (typing : Typing) (v : Value) : Decoded TransformSpec := do
  let cases := LetterCase.all.map fun c => (c.name, c)
  let separators := Separator.all.map fun s => (s.name, s)
  let fs ← Decode.fields typing ["source", "toCase", "separatedBy"] v
  return ⟨← Decode.required fs "source" Decode.text,
    .convert (← Decode.required fs "toCase" (Decode.keyword cases))
      (← Decode.optional fs "separatedBy" (Decode.list (Decode.keyword separators)))⟩

/-- The transform that a value describes. -/
def decode (typing : Typing) (v : Value) : Decoded TransformSpec := do
  let (key, v) ← Decode.singleEntry v
  match ← Decode.text key with
  | "substring" => decodeSubstring typing v
  | "replace" => decodeReplace typing v
  | "convert" => decodeConvert typing v
  | name => throw (.unknownKeyword name)

def integerEntry (key : String) (i : Option Int) : List (String × Value) :=
  i.toList.map fun i => (key, .integer i)

/-- The value that describes a transform. -/
def encode (t : TransformSpec) : Value :=
  let source : String × Value := ("source", .text t.source)
  let (key, arguments) : String × List (String × Value) := match t.operation with
    | .substring start stop =>
      ("substring", integerEntry "startChar" start ++ integerEntry "endChar" stop)
    | .replace regex replacement =>
      ("replace", [("replace", .text regex), ("by", .text replacement)])
    | .convert target separators =>
      ("convert", ("toCase", .text target.name) :: separators.toList.map fun list =>
        ("separatedBy", .list (list.map fun s => .text s.name)))
  .record [(key, .record (source :: arguments))]

end TransformSpec

end StructuralSearch
