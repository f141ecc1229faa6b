import StructuralSearch.Document.Json
import StructuralSearch.Document.Yaml.Node

/-!
# YAML

The part of YAML that documents are written in: block mappings and block sequences, lists and
records in brackets, plain scalars and scalars in quotes.

Main declarations:
1. `Yaml.normal`: a text with its line breaks made equal.
2. `Yaml.parse?`: the value of a text.
-/

namespace StructuralSearch

namespace Yaml

/-- The text with a line feed for every line break. -/
def withLineFeeds : Text → Text
  | '\r' :: '\n' :: t => '\n' :: withLineFeeds t
  | '\r' :: t => '\n' :: withLineFeeds t
  | c :: t => c :: withLineFeeds t
  | [] => []

/-- What counts of a text: a byte order mark in front of it does not, nor does what comes after a
character without code. -/
def normal (t : Text) : Text :=
  let t := match t with
    | '\ufeff' :: t => t
    | t => t
  withLineFeeds (t.takeWhile (· != '\x00'))

/-- The value of a text. -/
def parse? (t : Text) : Option Value := document? (tokens (normal t))

example : (parse? "a:\n  - b: 1\n    c: \"x\\n\"\n  - [d, \x7be: f\x7d]\n".toList).map Json.render =
    some "\x7b\"a\":[\x7b\"b\":\"1\",\"c\":\"x\\n\"\x7d,[\"d\",\x7b\"e\":\"f\"\x7d]]\x7d" := by
  decide +kernel
example : (parse? "a: b: c\n".toList).isNone = true := by decide +kernel
example : (parse? "a: [\n".toList).isNone = true := by decide +kernel

end Yaml

end StructuralSearch
