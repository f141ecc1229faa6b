import StructuralSearch.Document.Value
import StructuralSearch.NameMap

/-!
# Reading values as data

Small readers from which the readers of rules and configurations are built. Each takes a value and
gives either data or the reason why the value is not of that form.

A structure is read from a record whose keys are its fields. In a *typed* value, one whose scalars
have types, a key may be the place of a field in the order of their declaration, and a list of the
fields in this order will do as well; in a value with unquoted scalars they will not.

Main declarations:
1. `Decode.text`, `Decode.natural`, `Decode.list`, `Decode.map`, …: readers of plain data.
2. `Decode.fields`, then `required`, `optional` and `defaulted`: readers of structures.
3. `Decode.firstOf`: several forms, of which the first that fits counts.
-/

namespace StructuralSearch

/-- Why a value is not of the wanted form. -/
inductive DecodeFault
  /-- The text is no document of its format. -/
  | malformed
  | expected (form : String)
  | unknownField (name : String)
  | duplicateField (name : String)
  | missingField (name : String)
  | tooManyFields (limit : Nat)
  | unknownKeyword (word : String)
  /-- None of several forms fits. -/
  | noForm
  /-- The value is nested more deeply than it says. -/
  | tooDeep
deriving DecidableEq, Repr

namespace DecodeFault

def message : DecodeFault → String
  | malformed => "the text is not a document"
  | expected form => s!"expected {form}"
  | unknownField name => s!"unknown field '{name}'"
  | duplicateField name => s!"duplicate field '{name}'"
  | missingField name => s!"missing field '{name}'"
  | tooManyFields limit => s!"more than {limit} fields"
  | unknownKeyword word => s!"unknown keyword '{word}'"
  | noForm => "the value has none of the accepted forms"
  | tooDeep => "the value is nested too deeply"

end DecodeFault

/-- Data read from a value, or why it could not be read. -/
abbrev Decoded (α : Type) := Except DecodeFault α

/-- How the scalars of a value are held. -/
inductive Typing
  /-- Scalars have types. -/
  | typed
  /-- Unquoted scalars are read as whatever is wanted. -/
  | untyped
deriving DecidableEq, Repr

namespace Decode

variable {α : Type}

/-! ## Plain data -/

def text : Value → Decoded String
  | .text s => .ok s
  | .plain s => if Scalar.isNull s then .error (.expected "a string") else .ok s
  | _ => .error (.expected "a string")

def bool : Value → Decoded Bool
  | .bool b => .ok b
  | .plain s =>
    match Scalar.bool? s with
    | some b => .ok b
    | none => .error (.expected "a truth value")
  | _ => .error (.expected "a truth value")

/-- The spelling of a scalar that is to be read as a number. Quotes do not keep it from being one
where scalars have no types. -/
def numeral? (typing : Typing) : Value → Option String
  | .plain s => some s
  | .text s => if typing = .untyped then some s else none
  | _ => none

/-- A signed 64-bit integer. -/
def integer (typing : Typing) (v : Value) : Decoded Int :=
  let i := match v with
    | .integer i => if i < 0x8000000000000000 then some i else none
    | v => (numeral? typing v).bind Scalar.signed?
  i.elim (.error (.expected "an integer")) .ok

/-- An unsigned 64-bit integer. -/
def natural (typing : Typing) (v : Value) : Decoded Nat :=
  let n := match v with
    | .integer i => if 0 ≤ i then some i.toNat else none
    | v => (numeral? typing v).bind Scalar.unsigned?
  n.elim (.error (.expected "an integer without sign")) .ok

/-- A string of one character. -/
def char (v : Value) : Decoded Char := do
  match (← text v).toList with
  | [c] => return c
  | _ => throw (.expected "a character")

/-- A value that may be absent. -/
def absentOr (read : Value → Decoded α) (v : Value) : Decoded (Option α) :=
  if v.isNull then .ok none else some <$> read v

/-- A list; an unquoted scalar for no value is the empty list. -/
def list (read : Value → Decoded α) : Value → Decoded (List α)
  | .list items => items.mapM read
  | .plain s => if Scalar.isNull s then .ok [] else .error (.expected "a list")
  | _ => .error (.expected "a list")

/-- The entries of a record; an unquoted scalar for no value is the empty record. -/
def entries : Value → Decoded (List (Value × Value))
  | .record es => .ok (es.map fun (key, v) => (.text key, v))
  | .mapping es =>
    match Value.entries? es with
    | some es => .ok es
    | none => .error (.expected "a record with different keys")
  | .plain s => if Scalar.isNull s then .ok [] else .error (.expected "a record")
  | _ => .error (.expected "a record")

/-- A record with any keys; of a repeated key the last entry counts. -/
def map (read : Value → Decoded α) (v : Value) : Decoded (NameMap α) := do
  return NameMap.ofEntries (← (← entries v).mapM fun (key, item) => do
    return (← text key, ← read item))

/-- One of several names: its spelling, or its place among them. -/
def nameAmong (names : List String) : Value → Decoded String
  | .integer i =>
    match names[i.toNat]? with
    | some name => .ok name
    | none => .error (.expected "a name")
  | key => text key

/-- A record with a single entry, none of which is taken from another. -/
def singleEntry : Value → Decoded (Value × Value)
  | .record [(key, v)] => .ok (.text key, v)
  | .mapping [e] => .ok e
  | _ => .error (.expected "a record with one entry")

/-- One of several words, which may also be written as a record that gives the word no value. -/
def keyword (words : List (String × α)) (v : Value) : Decoded α := do
  let word ← match singleEntry v with
    | .ok (key, item) =>
      if item.isNull then nameAmong (words.map (·.1)) key else .error (.expected "a keyword")
    | .error _ => text v
  match words.lookup word with
  | some a => return a
  | none => throw (.unknownKeyword word)

/-! ## Structures -/

/-- The fields of a structure that are present. -/
def fields (typing : Typing) (names : List String) (v : Value) :
    Decoded (List (String × Value)) := do
  match typing, v with
  | .typed, .list items =>
    if names.length < items.length then throw (.tooManyFields names.length)
    return names.zip items
  | _, v =>
    let es ← (← entries v).mapM fun (key, item) => (·, item) <$> nameAmong names key
    match es.find? fun e => !names.contains e.1 with
    | some e => throw (.unknownField e.1)
    | none =>
      match es.find? fun e => 1 < es.countP (·.1 == e.1) with
      | some e => throw (.duplicateField e.1)
      | none => return es

/-- The fields of a structure that are present; entries with other keys are passed over. -/
def openFields (typing : Typing) (names : List String) : Value → Decoded (List (String × Value))
  | .record es => fields typing names (.record (es.filter fun e => names.contains e.1))
  | v => fields typing names v

/-- A field that has to be present. -/
def required (fs : List (String × Value)) (name : String) (read : Value → Decoded α) : Decoded α :=
  match fs.lookup name with
  | some v => read v
  | none => .error (.missingField name)

/-- A field that has a value of its own when it is missing. -/
def defaulted (fs : List (String × Value)) (name : String) (read : Value → Decoded α)
    (default : α) : Decoded α :=
  match fs.lookup name with
  | some v => read v
  | none => .ok default

/-- A field that may be missing or have no value. -/
def optional (fs : List (String × Value)) (name : String) (read : Value → Decoded α) :
    Decoded (Option α) :=
  defaulted fs name (absentOr read) none

/-! ## Choices -/

/-- The first of several forms that fits. The choice is made over a typed value. -/
def firstOf (forms : List (Value → Decoded α)) (v : Value) : Decoded α :=
  match v.settle?.bind fun v => forms.findSome? fun form => (form v).toOption with
  | some a => .ok a
  | none => .error .noForm

end Decode

end StructuralSearch
