import StructuralSearch.Document.Value

/-!
# JSON

Reading goes in two stages, each a fold with a small state: characters to tokens, then tokens to a
value with a stack of the containers that are still open. At most `maxDepth` containers are open at
once. Writing gives the compact form.

Main declarations:
1. `Json.tokens?`: the tokens of a text.
2. `Json.parse?`: the value of a text.
3. `Json.render`: the text of a value.
-/

namespace StructuralSearch

namespace Json

/-! ## Tokens -/

inductive Token
  | openList
  | closeList
  | openRecord
  | closeRecord
  | comma
  | colon
  /-- A string with its escapes resolved. -/
  | string (s : String)
  /-- A number, `true`, `false` or `null`. -/
  | word (w : List Char)
deriving DecidableEq, Repr

/-- Where the scanner stands. Texts in progress are held in reverse. -/
inductive ScanMode
  | between
  | word (reversed : List Char)
  | string (reversed : List Char)
  | escape (reversed : List Char)
  /-- After `\u` and some of four digits; `high` is the first half of a surrogate pair. -/
  | unicode (reversed : List Char) (high : Option Nat) (digits value : Nat)
  /-- After the first half of a surrogate pair, before `\`. -/
  | pair (reversed : List Char) (high : Nat)
  /-- After the first half of a surrogate pair and `\`. -/
  | pairEscape (reversed : List Char) (high : Nat)
deriving DecidableEq, Repr

/-- The scanner: where it stands and the tokens so far in reverse. -/
structure Scanner where
  mode : ScanMode
  reversed : List Token
deriving DecidableEq, Repr

/-- The token that a single character makes. -/
def punctuation? : Char → Option Token
  | '[' => some .openList
  | ']' => some .closeList
  | '\x7b' => some .openRecord
  | '\x7d' => some .closeRecord
  | ',' => some .comma
  | ':' => some .colon
  | _ => none

/-- Whether a character can stand in a number or a word. -/
def isWordChar (c : Char) : Bool := c.isAlphanum || c == '+' || c == '-' || c == '.'

/-- A character between tokens. -/
def scanBetween (tokens : List Token) (c : Char) : Option Scanner :=
  if c == ' ' || c == '\n' || c == '\t' || c == '\r' then some ⟨.between, tokens⟩
  else if c == '"' then some ⟨.string [], tokens⟩
  else if isWordChar c then some ⟨.word [c], tokens⟩
  else (punctuation? c).map fun t => ⟨.between, t :: tokens⟩

/-- The character that a one-letter escape stands for. -/
def escaped? : Char → Option Char
  | '"' => some '"'
  | '\\' => some '\\'
  | '/' => some '/'
  | 'b' => some '\x08'
  | 'f' => some '\x0c'
  | 'n' => some '\n'
  | 'r' => some '\r'
  | 't' => some '\t'
  | _ => none

def hexDigit? (c : Char) : Option Nat :=
  if c.isDigit then some (c.toNat - '0'.toNat)
  else if 'a' ≤ c && c ≤ 'f' then some (c.toNat - 'a'.toNat + 10)
  else if 'A' ≤ c && c ≤ 'F' then some (c.toNat - 'A'.toNat + 10)
  else none

def isHighSurrogate (n : Nat) : Bool := 0xD800 ≤ n && n < 0xDC00

def isLowSurrogate (n : Nat) : Bool := 0xDC00 ≤ n && n < 0xE000

/-- What follows four digits. Surrogates are accepted in pairs only. -/
def afterUnicode (reversed : List Char) (high : Option Nat) (value : Nat) : Option ScanMode :=
  match high with
  | none =>
    if isHighSurrogate value then some (.pair reversed value)
    else if isLowSurrogate value then none
    else some (.string (Char.ofNat value :: reversed))
  | some h =>
    if isLowSurrogate value then
      some (.string (Char.ofNat (0x10000 + (h - 0xD800) * 0x400 + (value - 0xDC00)) :: reversed))
    else none

/-- One character. -/
def scanChar (s : Scanner) (c : Char) : Option Scanner :=
  match s.mode with
  | .between => scanBetween s.reversed c
  | .word w =>
    if isWordChar c then some { s with mode := .word (c :: w) }
    else scanBetween (.word w.reverse :: s.reversed) c
  | .string r =>
    if c == '"' then some ⟨.between, .string (String.ofList r.reverse) :: s.reversed⟩
    else if c == '\\' then some { s with mode := .escape r }
    else if c.toNat < 0x20 then none
    else some { s with mode := .string (c :: r) }
  | .escape r =>
    if c == 'u' then some { s with mode := .unicode r none 0 0 }
    else (escaped? c).map fun d => { s with mode := .string (d :: r) }
  | .unicode r high digits value => do
    let d ← hexDigit? c
    let value := value * 16 + d
    if digits == 3 then
      let mode ← afterUnicode r high value
      return { s with mode }
    else return { s with mode := .unicode r high (digits + 1) value }
  | .pair r high => if c == '\\' then some { s with mode := .pairEscape r high } else none
  | .pairEscape r high =>
    if c == 'u' then some { s with mode := .unicode r (some high) 0 0 } else none

/-- The tokens of a text. -/
def tokens? (t : List Char) : Option (List Token) := do
  let s ← t.foldlM scanChar ⟨.between, []⟩
  match s.mode with
  | .between => some s.reversed.reverse
  | .word w => some (.word w.reverse :: s.reversed).reverse
  | _ => none

/-! ## Numbers -/

/-- The value of a sequence of decimal digits. -/
def digitsValue (ds : List Char) : Nat :=
  ds.foldl (fun n d => n * 10 + (d.toNat - '0'.toNat)) 0

/-- Whether a text is an exponent: `e`, perhaps a sign, and digits. -/
def isExponent : List Char → Bool
  | c :: rest =>
    let digits := match rest with
      | '+' :: ds => ds
      | '-' :: ds => ds
      | ds => ds
    (c == 'e' || c == 'E') && !digits.isEmpty && digits.all Char.isDigit
  | [] => false

/-- The value of an unsigned number; zero leads only if no other digit follows. -/
def unsigned? (negative : Bool) (spelling : String) (t : List Char) : Option Value :=
  let whole := t.takeWhile Char.isDigit
  let rest := t.dropWhile Char.isDigit
  if whole.isEmpty || (whole.length > 1 && whole.head? == some '0') then none
  else
    match rest with
    | [] =>
      let n : Int := digitsValue whole
      let i := if negative then -n else n
      if Value.fits i && !(negative && i == 0) then some (.integer i) else some (.decimal spelling)
    | '.' :: fraction =>
      let digits := fraction.takeWhile Char.isDigit
      let tail := fraction.dropWhile Char.isDigit
      if !digits.isEmpty && (tail.isEmpty || isExponent tail) then some (.decimal spelling)
      else none
    | tail => if isExponent tail then some (.decimal spelling) else none

/-- The value of a word. -/
def wordValue? (w : List Char) : Option Value :=
  let spelling := String.ofList w
  if spelling == "null" then some .null
  else if spelling == "true" then some (.bool true)
  else if spelling == "false" then some (.bool false)
  else
    match w with
    | '-' :: t => unsigned? true spelling t
    | t => unsigned? false spelling t

/-! ## Values -/

/-- A container that is still open, with its contents in reverse. -/
inductive Frame
  | list (reversed : List Value)
  | record (reversed : List (String × Value))
  /-- A record with the key of the entry in progress. -/
  | entry (reversed : List (String × Value)) (key : String)

/-- What may come next. -/
inductive Expect
  | value
  /-- After an opening bracket. -/
  | valueOrClose
  /-- After an opening brace. -/
  | keyOrClose
  /-- After a comma in a record. -/
  | key
  | colon
  /-- After a value in a container. -/
  | commaOrClose
  /-- After the whole value. -/
  | nothing
deriving DecidableEq, Repr

structure Parser where
  expect : Expect
  frames : List Frame
  result : Option Value

/-- The number of containers that may be open at once. -/
def maxDepth : Nat := 127

/-- Gives a finished value to the innermost open container. -/
def finish (v : Value) : List Frame → Option Parser
  | [] => some ⟨.nothing, [], some v⟩
  | .list r :: rest => some ⟨.commaOrClose, .list (v :: r) :: rest, none⟩
  | .entry r key :: rest => some ⟨.commaOrClose, .record ((key, v) :: r) :: rest, none⟩
  | .record _ :: _ => none

/-- Opens a container. -/
def openFrame (frame : Frame) (expect : Expect) (frames : List Frame) : Option Parser :=
  if frames.length < maxDepth then some ⟨expect, frame :: frames, none⟩ else none

/-- A token where a value may begin. -/
def parseValueToken (frames : List Frame) : Token → Option Parser
  | .string s => finish (.text s) frames
  | .word w => (wordValue? w).bind fun v => finish v frames
  | .openList => openFrame (.list []) .valueOrClose frames
  | .openRecord => openFrame (.record []) .keyOrClose frames
  | _ => none

/-- One token. -/
def parseToken (p : Parser) (t : Token) : Option Parser :=
  match p.expect, t, p.frames with
  | .nothing, _, _ => none
  | .value, t, frames => parseValueToken frames t
  | .valueOrClose, .closeList, .list r :: rest => finish (.list r.reverse) rest
  | .valueOrClose, t, frames => parseValueToken frames t
  | .keyOrClose, .closeRecord, .record r :: rest => finish (.record r.reverse) rest
  | .keyOrClose, .string key, .record r :: rest => some ⟨.colon, .entry r key :: rest, none⟩
  | .key, .string key, .record r :: rest => some ⟨.colon, .entry r key :: rest, none⟩
  | .colon, .colon, frames => some ⟨.value, frames, none⟩
  | .commaOrClose, .comma, .list r :: rest => some ⟨.value, .list r :: rest, none⟩
  | .commaOrClose, .comma, .record r :: rest => some ⟨.key, .record r :: rest, none⟩
  | .commaOrClose, .closeList, .list r :: rest => finish (.list r.reverse) rest
  | .commaOrClose, .closeRecord, .record r :: rest => finish (.record r.reverse) rest
  | _, _, _ => none

/-- The value of a text. -/
def parse? (t : List Char) : Option Value := do
  let tokens ← tokens? t
  let p ← tokens.foldlM parseToken ⟨.value, [], none⟩
  p.result

/-! ## Writing -/

/-- The lower-case hexadecimal digits of a number, at least `width` of them. -/
def hex (width n : Nat) : List Char :=
  let digits := Nat.toDigits 16 n
  List.replicate (width - digits.length) '0' ++ digits

/-- A character of a string. -/
def renderChar (c : Char) : List Char :=
  if c == '"' then ['\\', '"']
  else if c == '\\' then ['\\', '\\']
  else if c == '\n' then ['\\', 'n']
  else if c == '\r' then ['\\', 'r']
  else if c == '\t' then ['\\', 't']
  else if c.toNat < 0x20 then '\\' :: 'u' :: hex 4 c.toNat
  else [c]

def renderString (s : String) : List Char := '"' :: s.toList.flatMap renderChar ++ ['"']

mutual

/-- The compact text of a value. -/
def renderValue : Value → List Char
  | .null => "null".toList
  | .bool b => (if b then "true" else "false").toList
  | .integer i => (toString i).toList
  | .decimal s => s.toList
  | .text s => renderString s
  | .plain s => renderString s
  | .list items => '[' :: renderItems items ++ [']']
  | .record entries => '\x7b' :: renderEntries entries ++ ['\x7d']
  | .mapping entries => '\x7b' :: renderPairs entries ++ ['\x7d']

def renderItems : List Value → List Char
  | [] => []
  | [v] => renderValue v
  | v :: rest => renderValue v ++ ',' :: renderItems rest

def renderEntries : List (String × Value) → List Char
  | [] => []
  | [(key, v)] => renderString key ++ ':' :: renderValue v
  | (key, v) :: rest => renderString key ++ ':' :: renderValue v ++ ',' :: renderEntries rest

def renderPairs : List (Value × Value) → List Char
  | [] => []
  | [(key, v)] => renderValue key ++ ':' :: renderValue v
  | (key, v) :: rest => renderValue key ++ ':' :: renderValue v ++ ',' :: renderPairs rest

end

def render (v : Value) : String := String.ofList (renderValue v)

example : (parse? "[1, -0, \"\\u00e9\\ud83d\\ude00\"]".toList).map render =
    some "[1,-0,\"é😀\"]" := by decide +kernel
example : (parse? "[1,]".toList).isNone = true := by decide
example : (parse? "01".toList).isNone = true := by decide

end Json

end StructuralSearch
