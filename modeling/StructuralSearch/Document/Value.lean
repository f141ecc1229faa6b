import StructuralSearch.Document.Scalar

/-!
# Values of documents

What a JSON or YAML document says, before it is read as a rule or a configuration. Records keep
their entries in order and may repeat a key: what a repeated key means is for the reader of the
record to say. A number keeps whether it was written as an integer.

Two kinds of values are held as they are written in YAML. An unquoted scalar is `plain`: it has no
type of its own and is read as whatever is wanted. A `mapping` has keys of any kind, and its entries
under `<<` stand for the entries of other mappings.

Main declarations:
1. `Value.entries?`: what the entries of a mapping are, with those that it takes from others.
2. `Value.settle?`: a value with every scalar read by its spelling.
-/

namespace StructuralSearch

inductive Value
  | null
  | bool (b : Bool)
  /-- A number written without fraction and exponent that fits a 64-bit word. -/
  | integer (i : Int)
  /-- Any other number, as written. -/
  | decimal (spelling : String)
  | text (s : String)
  /-- An unquoted scalar of YAML. -/
  | plain (s : String)
  | list (items : List Value)
  | record (entries : List (String × Value))
  /-- A record of YAML as written. -/
  | mapping (entries : List (Value × Value))
deriving Repr, Inhabited

namespace Value

/-- The range of integers that a document can hold: those of 64-bit words, signed or not. -/
def fits (i : Int) : Bool := -0x8000000000000000 ≤ i && i < 0x10000000000000000

/-- The integer that the spelling of a scalar suggests. One without minus sign is unsigned. -/
def integerOf? (s : String) : Option Int :=
  if (Text.trim s.toList).head? == some '-' then Scalar.signed? s
  else (Scalar.unsigned? s).map fun n => (n : Int)

/-- The value that the spelling of an unquoted scalar suggests. A number that is not finite is the
text of its usual spelling. -/
def ofScalar (s : String) : Value :=
  if Scalar.isNull s then null
  else
    match Scalar.bool? s, integerOf? s, Scalar.magnitude? s with
    | some b, _, _ => bool b
    | none, some i, _ => integer i
    | none, none, some (_, .finite) => decimal s
    | none, none, some (negative, .infinite) => text (if negative then "-.inf" else ".inf")
    | none, none, some (_, .undefined) => text ".nan"
    | none, none, none => text s

/-- Whether this is no value, written out or suggested by an unquoted scalar. -/
def isNull : Value → Bool
  | null => true
  | plain s => Scalar.isNull s
  | _ => false

/-- The spelling of a scalar that is a text or might be one. -/
def spelling? : Value → Option String
  | text s | plain s => some s
  | _ => none

/-- The last entry of a record with this key. -/
def get? (v : Value) (key : String) : Option Value :=
  match v with
  | record entries => entries.reverse.lookup key
  | _ => none

mutual

/-- How deeply lists and records are nested. -/
def depth : Value → Nat
  | list items => itemsDepth items + 1
  | record entries => entriesDepth entries + 1
  | mapping entries => pairsDepth entries + 1
  | _ => 0

def itemsDepth : List Value → Nat
  | [] => 0
  | v :: rest => max (depth v) (itemsDepth rest)

def entriesDepth : List (String × Value) → Nat
  | [] => 0
  | (_, v) :: rest => max (depth v) (entriesDepth rest)

def pairsDepth : List (Value × Value) → Nat
  | [] => 0
  | (_, v) :: rest => max (depth v) (pairsDepth rest)

end

/-! ## Mappings -/

/-- Whether a key stands for the entries of other mappings. -/
def isMerge : Value → Bool
  | plain s => s == "<<"
  | _ => false

/-- Whether two keys are written alike, but for quotes. Keys other than scalars never are. -/
def sameKey : Value → Value → Bool
  | integer i, integer j => i == j
  | k, l => k.spelling?.isSome && k.spelling? == l.spelling?

def hasKey (entries : List (Value × Value)) (key : Value) : Bool := entries.any (sameKey key ·.1)

mutual

/-- The entries that a value under `<<` stands for: those of a mapping, or of several in a list. -/
def merged? : Value → Option (List (Value × Value))
  | plain s => if Scalar.isNull s then some [] else none
  | list items => mergedItems? items
  | mapping entries => (parted? entries).map fun (own, taken) => own ++ taken
  | _ => none

def mergedItems? : List Value → Option (List (Value × Value))
  | [] => some []
  | v :: rest => do return (← merged? v) ++ (← mergedItems? rest)

/-- The entries of a mapping itself, and those that it takes from others, the last `<<` first. -/
def parted? : List (Value × Value) → Option (List (Value × Value) × List (Value × Value))
  | [] => some ([], [])
  | (key, v) :: rest => do
    let (own, taken) ← parted? rest
    if isMerge key then return (own, taken ++ (← merged? v)) else return ((key, v) :: own, taken)

end

/-- The entries whose key does not occur before them. -/
def firstEntries (entries : List (Value × Value)) : List (Value × Value) :=
  (entries.foldl (fun seen e => if hasKey seen e.1 then seen else e :: seen) []).reverse

/-- The entries of a mapping, those taken from others included. No key of its own may be repeated;
a key that is taken gives way to one that is there. -/
def entries? (entries : List (Value × Value)) : Option (List (Value × Value)) := do
  let (own, taken) ← parted? entries
  if (firstEntries own).length < own.length then none else some (firstEntries (own ++ taken))

/-- The key that the spelling of an unquoted one suggests. A number with a minus sign is no key. -/
def settleKey : Value → Value
  | plain s => if s.toList.head? == some '-' && (integerOf? s).isSome then null else ofScalar s
  | key => key

/-- The value, nested at most `depth` times, with every unquoted scalar read by its spelling. -/
def settleWithin (depth : Nat) (v : Value) : Option Value :=
  match depth, v with
  | _, plain s => some (ofScalar s)
  | depth + 1, list items => list <$> items.mapM (settleWithin depth)
  | depth + 1, record entries =>
    record <$> entries.mapM fun (key, v) => (key, ·) <$> settleWithin depth v
  | depth + 1, mapping entries => do
    return mapping (← (← entries? entries).mapM fun (key, v) =>
      (settleKey key, ·) <$> settleWithin depth v)
  | _, v => some v

/-- The value with every unquoted scalar read by its spelling, unless a mapping in it repeats a
key. -/
def settle? (v : Value) : Option Value := settleWithin v.depth v

example : ofScalar "No" matches .bool false := by decide
example : ofScalar "0x1f" matches .integer 31 := by decide
example : ofScalar "2n+1" matches .text "2n+1" := by decide
example : (entries? [(plain "a", null), (plain "<<", mapping [(text "a", bool true),
    (text "b", null)])]).map (·.map (·.1.spelling?)) = some [some "a", some "b"] := by decide
example : (entries? [(plain "a", null), (text "a", null)]).isNone = true := by decide

end Value

end StructuralSearch
