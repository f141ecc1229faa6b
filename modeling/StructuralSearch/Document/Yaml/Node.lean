import StructuralSearch.Document.Yaml.Token

/-!
# Values of YAML tokens

The grammar of nodes. A node that is left out where one may stand is an empty plain scalar. A
sequence may stand at the same column as the key that it belongs to; nothing but a token of another
kind marks its end then. In a list in brackets, a key with a value is a mapping of its own.

Main declarations:
1. `Yaml.node`: the node at the front of some tokens.
2. `Yaml.document?`: the value of the only document.
-/

namespace StructuralSearch

namespace Yaml

/-- The value of a node that is left out. -/
def missing : Value := .plain ""

namespace Token

/-- Whether a part of an entry of a block mapping is left out before this token. -/
def endsEntry : Token → Bool
  | key | value | closeBlock => true
  | _ => false

/-- Whether an item of a block sequence is left out before this token. A sequence that is not
indented ends before whatever comes after the entry that it belongs to. -/
def endsItem (isIndented : Bool) : Token → Bool
  | item | closeBlock => true
  | key | value => !isIndented
  | _ => false

/-- Whether a node in brackets is left out before this token. -/
def endsFlow : Token → Bool
  | comma | closeList | closeRecord => true
  | _ => false

/-- Whether a key in brackets is left out before this token. -/
def endsFlowKey : Token → Bool
  | value => true
  | tok => endsFlow tok

/-- Whether a document is left out before this token. -/
def endsDocument : Token → Bool
  | documentStart | documentEnd | endOfText => true
  | _ => false

def isDocumentEnd : Token → Bool
  | documentEnd => true
  | _ => false

/-- Whether a node begins with this token. -/
def opensNode : Token → Bool
  | scalar _ | openSequence | openMapping | openList | openRecord => true
  | _ => false

end Token

mutual

/-- The node at the front of some tokens, and the tokens after it. `fuel` bounds the number of
steps. -/
def node (fuel : Nat) (tokens : List Token) : Option (Value × List Token) :=
  match fuel, tokens with
  | _ + 1, .scalar v :: rest => some (v, rest)
  | fuel + 1, .item :: _ => (items fuel false tokens).map fun (vs, rest) => (.list vs, rest)
  | fuel + 1, .openSequence :: rest =>
    (items fuel true rest).map fun (vs, rest) => (.list vs, rest)
  | fuel + 1, .openMapping :: rest =>
    (entries fuel rest).map fun (es, rest) => (.mapping es, rest)
  | fuel + 1, .openList :: rest =>
    (flowItems fuel true rest).map fun (vs, rest) => (.list vs, rest)
  | fuel + 1, .openRecord :: rest =>
    (flowEntries fuel true rest).map fun (es, rest) => (.mapping es, rest)
  | _, _ => none

/-- The node at the front of some tokens, unless it is left out. -/
def nodeUnless (fuel : Nat) (ends : Token → Bool) (tokens : List Token) :
    Option (Value × List Token) :=
  match fuel, tokens with
  | fuel + 1, tok :: _ => if ends tok then some (missing, tokens) else node fuel tokens
  | _, _ => none

/-- The node after a colon, if there is one. -/
def valueUnless (fuel : Nat) (ends : Token → Bool) (tokens : List Token) :
    Option (Value × List Token) :=
  match fuel, tokens with
  | fuel + 1, .value :: rest => nodeUnless fuel ends rest
  | _, tokens => some (missing, tokens)

/-- The items of a block sequence. -/
def items (fuel : Nat) (isIndented : Bool) (tokens : List Token) :
    Option (List Value × List Token) :=
  match fuel, tokens with
  | 0, _ => none
  | fuel + 1, .item :: rest => do
    let (v, rest) ← nodeUnless fuel (Token.endsItem isIndented) rest
    let (vs, rest) ← items fuel isIndented rest
    return (v :: vs, rest)
  | _ + 1, tokens =>
    if !isIndented then some ([], tokens)
    else
      match tokens with
      | .closeBlock :: rest => some ([], rest)
      | _ => none

/-- The entries of a block mapping. -/
def entries (fuel : Nat) (tokens : List Token) : Option (List (Value × Value) × List Token) :=
  match fuel, tokens with
  | _ + 1, .closeBlock :: rest => some ([], rest)
  | fuel + 1, .value :: rest => entry fuel missing (.value :: rest)
  | fuel + 1, .key :: rest => do
    let (key, rest) ← nodeUnless fuel Token.endsEntry rest
    entry fuel key rest
  | _, _ => none

/-- The entry of a block mapping with a key, and those after it. -/
def entry (fuel : Nat) (key : Value) (tokens : List Token) :
    Option (List (Value × Value) × List Token) :=
  match fuel with
  | 0 => none
  | fuel + 1 => do
    let (v, rest) ← valueUnless fuel Token.endsEntry tokens
    let (es, rest) ← entries fuel rest
    return ((key, v) :: es, rest)

/-- The items of a list in brackets; between two of them there is a comma. -/
def flowItems (fuel : Nat) (isFirst : Bool) (tokens : List Token) :
    Option (List Value × List Token) :=
  match fuel, isFirst, tokens with
  | _ + 1, _, .closeList :: rest => some ([], rest)
  | fuel + 1, false, .comma :: rest => flowItems fuel true rest
  | fuel + 1, true, tokens => do
    let (v, rest) ← flowItem fuel tokens
    let (vs, rest) ← flowItems fuel false rest
    return (v :: vs, rest)
  | _, _, _ => none

/-- An item of a list in brackets. -/
def flowItem (fuel : Nat) (tokens : List Token) : Option (Value × List Token) :=
  match fuel, tokens with
  | fuel + 1, .key :: rest => do
    let (key, rest) ← nodeUnless fuel Token.endsFlowKey rest
    let (v, rest) ← valueUnless fuel Token.endsFlow rest
    return (.mapping [(key, v)], rest)
  | fuel + 1, .value :: rest => do
    let (v, rest) ← nodeUnless fuel Token.endsFlow rest
    return (.mapping [(missing, v)], rest)
  | fuel + 1, tokens => node fuel tokens
  | 0, _ => none

/-- The entries of a record in brackets; between two of them there is a comma. What is no key with
a value is a key alone. -/
def flowEntries (fuel : Nat) (isFirst : Bool) (tokens : List Token) :
    Option (List (Value × Value) × List Token) :=
  match fuel, isFirst, tokens with
  | _ + 1, _, .closeRecord :: rest => some ([], rest)
  | fuel + 1, false, .comma :: rest => flowEntries fuel true rest
  | fuel + 1, true, .key :: rest => do
    let (key, rest) ← nodeUnless fuel Token.endsFlowKey rest
    flowEntry fuel key rest
  | fuel + 1, true, .value :: rest => flowEntry fuel missing (.value :: rest)
  | fuel + 1, true, tokens => do
    let (key, rest) ← node fuel tokens
    let (es, rest) ← flowEntries fuel false rest
    return ((key, missing) :: es, rest)
  | _, _, _ => none

/-- The entry of a record in brackets with a key, and those after it. -/
def flowEntry (fuel : Nat) (key : Value) (tokens : List Token) :
    Option (List (Value × Value) × List Token) :=
  match fuel with
  | 0 => none
  | fuel + 1 => do
    let (v, rest) ← valueUnless fuel Token.endsFlow tokens
    let (es, rest) ← flowEntries fuel false rest
    return ((key, v) :: es, rest)

end

/-- Whether a further document begins, after the end of one. -/
def beginsDocument : List Token → Bool
  | .documentStart :: rest => !rest.isEmpty
  | _ => false

/-- The value of the only document. What follows its node without a mark between documents does not
count. -/
def document? (tokens : List Token) : Option Value := do
  let fuel := 4 * tokens.length + 4
  let (v, rest) ← match tokens.dropWhile Token.isDocumentEnd with
    | .endOfText :: rest => some (missing, .endOfText :: rest)
    | .documentStart :: rest => nodeUnless fuel Token.endsDocument rest
    | rest => node fuel rest
  match rest with
  | [] => none
  | .documentEnd :: rest =>
    let further := rest.dropWhile Token.isDocumentEnd
    if beginsDocument further || further.head?.any Token.opensNode then none else return v
  | rest => if beginsDocument rest then none else return v

end Yaml

end StructuralSearch
