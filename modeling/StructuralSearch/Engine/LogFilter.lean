import StructuralSearch.Language
import StructuralSearch.Regex.Basic
import StructuralSearch.Registry.Path

/-!
# Filters of events

A filter is a list of directives between commas. A directive is a level, or the name of a target,
with a span in brackets and a level after a `=`, if any, such as `store[load]=debug`. A span may
come without target, and may hold a field with a value in braces.

Main declaration: `LogFilter.isValid`, whether a filter can be read.
-/

namespace StructuralSearch

namespace LogFilter

/-- The names of levels. -/
def levels : List String := ["off", "error", "warn", "info", "debug", "trace"]

/-- Whether a text is a level: a name, whatever its case, or a number. -/
def isLevel (t : Text) : Bool :=
  let digits := match t with
    | '+' :: ds => ds
    | ds => ds
  levels.any (sameIgnoringCase (String.ofList t)) ||
    (digits.all Char.isDigit && (Scalar.natural? 10 digits).any (· < levels.length))

/-- Whether a text is the value of a field: a number with a sign before it, or a regular
expression. -/
def isFieldValue (t : Text) : Bool :=
  match t with
  | '+' :: number =>
    (Scalar.decimal? number).isSome || ["inf", "infinity", "nan"].contains (Scalar.lower number)
  | t => (Regex.compile t).toOption.isSome

/-- Whether a text is a field: a name, and perhaps a value after a `=`. -/
def isField (t : Text) : Bool :=
  !t.isEmpty &&
    match t.dropWhile (· != '=') with
    | [] => true
    | _ :: value => isFieldValue (value.takeWhile (· != '='))

/-- A directive: as it is written, and without the blanks around it. Where the reader of the latter
comes to a level or field, the former is taken at the same place, so that a blank in front of a
directive moves them. -/
structure Directive where
  raw : Text
  trimmed : Text
deriving DecidableEq, Repr

namespace Directive

def ofText (t : Text) : Directive := ⟨t, Text.trim t⟩

/-- The written text from the place on where `rest` is left of the trimmed one. -/
def from? (d : Directive) (rest : Text) : Option Text :=
  Text.dropBytes? d.raw (Text.byteLength d.trimmed - Text.byteLength rest)

/-- Whether a level is left, or nothing. -/
def endsInLevel (d : Directive) (rest : Text) : Bool :=
  (d.from? rest).any fun level => level.isEmpty || isLevel level

/-- Whether what is left may follow a span. -/
def endsAfterSpan (d : Directive) : Text → Bool
  | [] => true
  | '=' :: rest => d.endsInLevel rest
  | _ => false

/-- Whether a span is left, and what may follow it. -/
def endsInSpan (d : Directive) (t : Text) : Bool :=
  match t.dropWhile fun c => c != ']' && c != '\x7b' with
  | ']' :: rest => d.endsAfterSpan rest
  | '\x7b' :: field =>
    let length := Text.byteLength (field.takeWhile (· != '\x7d'))
    match field.dropWhile (· != '\x7d') with
    | '\x7d' :: ']' :: rest =>
      ((d.from? field).bind (Text.takeBytes? · length)).any isField && d.endsAfterSpan rest
    | _ => false
  | _ => false

/-- Whether a directive can be read. -/
def isValid (d : Directive) : Bool :=
  match d.trimmed with
  | [] => false
  | '[' :: span => d.endsInSpan span
  | c :: t =>
    (c == '-' || c == ':' || c == '_' || Text.isLetter c || Text.isNumber c) &&
      match t.dropWhile fun c => c != '=' && c != '[' with
      | '=' :: level => d.endsInLevel level
      | '[' :: span => d.endsInSpan span
      | _ => true

end Directive

/-- Whether the directives of a filter can be read. -/
def isValid (filter : String) : Bool :=
  (Path.pieces ',' filter.toList).all fun d => d.isEmpty || (Directive.ofText d).isValid

example : isValid "store[load]=debug, info" = true := by decide +kernel
example : isValid "store=loud" = false := by decide +kernel
example : isValid "a=b=c" = false := by decide +kernel

end LogFilter

end StructuralSearch
