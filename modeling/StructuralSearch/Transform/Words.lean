import StructuralSearch.Text.Case
import StructuralSearch.Text.Cluster
import StructuralSearch.Transform.Spec

/-!
# Words and their case

A text is cut into words at delimiters, which are dropped, and where the case changes: between a
lower-case and an upper-case character, and before the last of several upper-case characters if a
lower-case one follows it. Dots and slashes that separate words are read as spaces first.

Main declarations:
1. `Boundaries.words`: the words of a text.
2. `LetterCase.convert`: a text in another case.
-/

namespace StructuralSearch

/-- Where words end. -/
structure Boundaries where
  caseChange : Bool
  hyphen : Bool
  underscore : Bool
  space : Bool
deriving DecidableEq, Repr

namespace Boundaries

/-- The boundaries that separators ask for. -/
def ofSeparators (separators : List Separator) : Boundaries where
  caseChange := separators.contains .caseChange
  hyphen := separators.contains .dash
  underscore := separators.contains .underscore
  space := separators.any fun s => s == .dot || s == .slash || s == .space

/-- Whether a cluster is a delimiter. -/
def isDelimiter (b : Boundaries) (cluster : Text) : Bool :=
  (b.hyphen && cluster == ['-']) || (b.underscore && cluster == ['_']) ||
    (b.space && cluster == [' '])

/-- Whether a cluster is in upper case and has another. -/
def isUpper (cluster : Text) : Bool :=
  Text.upper cluster != Text.lower cluster && cluster == Text.upper cluster

/-- Whether a cluster is in lower case and has another. -/
def isLower (cluster : Text) : Bool :=
  Text.upper cluster != Text.lower cluster && cluster == Text.lower cluster

/-- Whether a word ends between a cluster and those after it. -/
def cutsBetween (b : Boundaries) (cluster : Text) : List Text → Bool
  | [] => false
  | next :: rest =>
    b.caseChange && isUpper next &&
      (isLower cluster || (isUpper cluster && rest.head?.any isLower))

/-- The words of clusters, with those that are empty; `word` is the word in progress. -/
def wordsFrom (b : Boundaries) (word : Text) : List Text → List Text
  | [] => [word]
  | cluster :: rest =>
    if b.isDelimiter cluster then word :: wordsFrom b [] rest
    else if b.cutsBetween cluster rest then (word ++ cluster) :: wordsFrom b [] rest
    else wordsFrom b (word ++ cluster) rest

/-- The words of a text. -/
def words (b : Boundaries) (t : Text) : List Text :=
  (wordsFrom b [] (Text.clusters t)).filter fun w => !w.isEmpty

end Boundaries

namespace LetterCase

/-- A word with its first character in upper case and the others in lower case. -/
def capitalized : Text → Text
  | [] => []
  | c :: t => Text.upperChar c ++ Text.lower t

/-- Words in camel case. -/
def camelWords : List Text → List Text
  | [] => []
  | w :: rest => Text.lower w :: rest.map capitalized

/-- A text with the separators `.` and `/` as spaces. -/
def withSpaces (separators : List Separator) (t : Text) : Text :=
  t.map fun c =>
    if (c == '.' && separators.contains .dot) || (c == '/' && separators.contains .slash) then ' '
    else c

/-- A text in another case; without separators words end wherever they can. -/
def convert (target : LetterCase) (separators : Option (List Separator)) (t : Text) : Text :=
  let active := separators.getD Separator.all
  let words := (Boundaries.ofSeparators active).words (withSpaces active t)
  match target with
  | lower => Text.lower t
  | upper => Text.upper t
  | capitalize =>
    match t with
    | [] => []
    | c :: rest => Text.upperChar c ++ rest
  | camel => (camelWords words).flatten
  | pascal => (words.map capitalized).flatten
  | snake => List.intercalate ['_'] (words.map Text.lower)
  | kebab => List.intercalate ['-'] (words.map Text.lower)

example : convert snake none "HTTPServer-getURL.x".toList = "http_server_get_url_x".toList := by
  decide +kernel
example : convert camel (some [.dash]) "foo-bar_baz".toList = "fooBar_baz".toList := by
  decide +kernel

end LetterCase

end StructuralSearch
