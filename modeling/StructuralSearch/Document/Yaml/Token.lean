import StructuralSearch.Document.Value
import StructuralSearch.Document.Yaml.Plain
import StructuralSearch.Document.Yaml.Quoted

/-!
# Tokens of YAML

Brackets, commas, dashes and scalars are tokens as they stand. Blocks have no brackets of their own:
where the indentation grows or shrinks, tokens are put in that open and close them. A scalar or a
list or record in brackets turns out to be a key only at the colon behind it; the tokens that mark
the key, and perhaps open its block, are then put in before it.

Main declarations:
1. `Yaml.Token`, `Yaml.Layout`: tokens, and the state in which a text is cut into them.
2. `Layout.step`: the next token.
3. `Yaml.tokens`: the tokens of a text, as far as they are certain.
-/

namespace StructuralSearch

namespace Yaml

inductive Token
  /-- A plain scalar or a text in quotes. -/
  | scalar (v : Value)
  | openSequence
  | openMapping
  /-- The end of a sequence or mapping without brackets. -/
  | closeBlock
  | openList
  | closeList
  | openRecord
  | closeRecord
  | comma
  /-- A dash before an item. -/
  | item
  | key
  | value
  | documentStart
  | documentEnd
  | endOfText

/-- A column from which the text is indented: that of a block, or one that keeps what belongs to an
entry of a block apart from the next entry. -/
structure Level where
  column : Nat
  isBlock : Bool
deriving DecidableEq, Repr

/-- A token that is a key if a colon follows. -/
structure PossibleKey where
  /-- The number of tokens before it. -/
  place : Nat
  line : Nat
  column : Nat
  index : Nat
  /-- Whether nothing but a key may stand there. -/
  isRequired : Bool
deriving DecidableEq, Repr

/-- An open bracket. -/
structure Bracket where
  isList : Bool
  /-- The possible key around the bracket. -/
  outerKey : Option PossibleKey
deriving DecidableEq, Repr

/-- The state in which a text is cut into tokens. -/
structure Layout where
  cursor : Cursor
  /-- The tokens so far, the last first. -/
  reversed : List Token
  /-- The columns of the enclosing blocks, the innermost first. -/
  levels : List Level
  /-- The open brackets, the innermost first. -/
  brackets : List Bracket
  /-- The possible key in the innermost bracket, or outside of brackets. -/
  possibleKey : Option PossibleKey
  /-- Whether a key may begin here. -/
  allowsKey : Bool
  /-- The index at which a colon needs no gap behind it. -/
  adjacent : Option Nat

namespace Layout

def ofText (t : Text) : Layout := ⟨.ofText t, [], [], [], none, true, none⟩

def inFlow (s : Layout) : Bool := !s.brackets.isEmpty

def push (s : Layout) (tok : Token) : Layout := { s with reversed := tok :: s.reversed }

/-- A token put in after the first `place` tokens. -/
def pushAt (s : Layout) (place : Nat) (tok : Token) : Layout :=
  let n := s.reversed.length - place
  { s with reversed := s.reversed.take n ++ tok :: s.reversed.drop n }

/-! ## Indentation -/

/-- The least column of what belongs to the innermost entry. -/
def margin (s : Layout) : Nat := s.levels.head?.elim 0 (·.column + 1)

/-- Whether a column lies before that of the innermost level. -/
def isOutdented (s : Layout) (column : Nat) : Bool := s.levels.head?.any (column < ·.column)

/-- Closes the levels up to the first that is to be kept. -/
def closeLevels (keep : Level → Bool) (s : Layout) : Layout :=
  if s.inFlow then s
  else
    let closed := s.levels.takeWhile fun l => !keep l
    let ends := (closed.filter (·.isBlock)).map fun _ => Token.closeBlock
    { s with levels := s.levels.dropWhile fun l => !keep l, reversed := ends ++ s.reversed }

/-- Opens a block at a column that is greater than that of the innermost level. The token that opens
it stands after the first `place` tokens. -/
def openLevel (column place : Nat) (tok : Token) (s : Layout) : Layout :=
  if s.inFlow then s
  else
    let levels := match s.levels with
      | ⟨c, false⟩ :: rest => if c ≤ column then rest else ⟨c, false⟩ :: rest
      | levels => levels
    let s := { s with levels }
    if levels.head?.all (·.column < column) then
      { s.pushAt place tok with levels := ⟨column, true⟩ :: levels }
    else s

/-- Keeps what follows apart from the next entry of the innermost block. -/
def indentEntry (s : Layout) : Layout :=
  match s.levels with
  | ⟨c, true⟩ :: rest =>
    if s.inFlow then s else { s with levels := ⟨c + 1, false⟩ :: ⟨c, true⟩ :: rest }
  | _ => s

/-! ## Keys -/

/-- Notes that what begins here may be a key. -/
def noteKey (s : Layout) : Layout :=
  if s.allowsKey then
    let c := s.cursor
    let isRequired := !s.inFlow && s.levels.head? == some ⟨c.column, true⟩
    { s with possibleKey := some ⟨s.reversed.length, c.line, c.column, c.index, isRequired⟩ }
  else s

/-- Whether no colon can follow any more: outside of brackets, a key ends in its line, and within
1024 characters. -/
def isStale (s : Layout) (k : PossibleKey) : Bool :=
  !s.inFlow && (k.line < s.cursor.line || k.index + 1024 < s.cursor.index)

/-- The layout without a possible key that satisfies a condition, unless it has to be one. -/
def dropKey? (s : Layout) (condition : PossibleKey → Bool) : Option Layout :=
  match s.possibleKey with
  | some k =>
    if !condition k then some s
    else if k.isRequired then none
    else some { s with possibleKey := none }
  | none => some s

/-- The tokens that cannot turn out to be keys or to follow one. -/
def certain (s : Layout) : List Token :=
  let keys := (s.possibleKey :: s.brackets.map (·.outerKey)).filterMap id
  let places := (keys.filter fun k => k.isRequired || !s.isStale k).map (·.place)
  s.reversed.reverse.take (places.foldl min s.reversed.length)

/-! ## Tokens -/

/-- Goes over blanks, comments and line breaks; `fuel` bounds the number of lines. In a block, a tab
may be part of the indentation of a blank line only. -/
def skipGap (fuel : Nat) (s : Layout) : Option Layout :=
  match fuel with
  | 0 => some s
  | fuel + 1 =>
    let c := s.cursor
    let blanks := c.rest.takeWhile isSpace
    let d := c.skip blanks.length
    let d := if d.rest.head? == some '#' then d.overComment else d
    let tabbed := c.fresh && s.isOutdented (c.column + (blanks.takeWhile (· == ' ')).length) &&
      blanks.contains '\t'
    if tabbed && !atLineEnd d.rest then none
    else if d.rest.head? == some '\n' then
      skipGap fuel { s with cursor := d.nextLine, allowsKey := s.allowsKey || !s.inFlow }
    else some { s with cursor := d }

/-- Goes over a gap of any length. -/
def toToken? (s : Layout) : Option Layout := s.skipGap (s.cursor.rest.length + 1)

/-- Goes over some characters and what is behind them in their line, if that is a gap. -/
def advance? (s : Layout) (n : Nat) : Option Layout :=
  (s.cursor.advance n).toContent?.map fun cursor => { s with cursor }

def openBracket? (s : Layout) (isList : Bool) : Option Layout := do
  if 255 ≤ s.brackets.length then none
  let s := s.noteKey.indentEntry
  let s ← s.advance? 1
  return { s with
    brackets := ⟨isList, s.possibleKey⟩ :: s.brackets
    possibleKey := none
    allowsKey := true
    reversed := (if isList then .openList else .openRecord) :: s.reversed }

def closeBracket? (s : Layout) (isList : Bool) : Option Layout := do
  match s.brackets with
  | [] => none
  | b :: brackets =>
    if b.isList != isList then none
    let s ← s.advance? 1
    return { s with
      brackets
      possibleKey := b.outerKey
      allowsKey := false
      adjacent := if brackets.isEmpty then s.adjacent else some s.cursor.index
      reversed := (if isList then .closeList else .closeRecord) :: s.reversed }

def comma? (s : Layout) : Option Layout := do
  let s ← s.dropKey? fun _ => true
  let s ← s.advance? 1
  return { s.push .comma with allowsKey := true }

/-- A dash before an item of a sequence. -/
def item? (s : Layout) : Option Layout := do
  if s.inFlow || !s.allowsKey then none
  let behind := s.cursor.advance 1
  let s := s.openLevel s.cursor.column s.reversed.length .openSequence
  let cursor ← behind.toContent?
  let tabbed := (behind.rest.takeWhile isSpace).contains '\t'
  if tabbed && cursor.rest.head? == some '-' && atGap (cursor.rest.drop 1) then none
  let s := { s with cursor }
  let opens := cursor.rest.head?.any fun c => c == '\n' || isFlowIndicator c
  let s := if opens then s.indentEntry else s
  let s ← s.dropKey? fun _ => true
  return { s.push .item with allowsKey := true }

/-- A question mark before a key. -/
def markedKey? (s : Layout) : Option Layout := do
  if !s.inFlow && !s.allowsKey then none
  let s := s.openLevel s.cursor.column s.reversed.length .openMapping
  let s ← s.dropKey? fun _ => true
  let cursor := s.cursor.advance 1
  if (cursor.rest.dropWhile (· == ' ')).head? == some '\t' then none
  return { s.push .key with cursor, allowsKey := !s.inFlow }

/-- Marks the possible key, behind which there is a colon, as a key. -/
def resolveKey? (s : Layout) (k : PossibleKey) : Option Layout :=
  if s.brackets.head?.any (·.isList) && k.line < s.cursor.line then none
  else
    let s := ((s.pushAt k.place .key).openLevel k.column k.place .openMapping).indentEntry
    some { s with possibleKey := none, allowsKey := false }

/-- A colon before a value. -/
def value? (s : Layout) : Option Layout := do
  let behind := s.cursor.advance 1
  let content := behind.overBlanks
  let blanks := behind.rest.takeWhile isSpace
  let attached := blanks.head? == some '\t' && !blanks.contains ' ' &&
    content.rest.head?.any fun c => c.isAlphanum || c == '_' || c == '-'
  if attached then none
  let cursor ← if blanks.head? == some '\t' then behind.toContent? else some behind
  let s ← match s.possibleKey with
    | some k => s.resolveKey? k
    | none =>
      if !s.inFlow && !s.allowsKey then none
      else
        let s := (s.openLevel s.cursor.column s.reversed.length .openMapping).indentEntry
        some { s with allowsKey := !s.inFlow }
  return { s.push .value with cursor }

/-- A text in quotes. Only punctuation may follow it in its line. -/
def quotedToken? (s : Layout) : Option Layout := do
  let line := s.cursor.line
  let s := s.noteKey
  let (text, behind) ← quoted? s.margin s.cursor
  let cursor ← behind.toContent?
  let mayFollow (c : Char) : Bool :=
    if c == ':' then s.inFlow || cursor.line == line
    else c == '\n' || (s.inFlow && (c == ',' || c == ']' || c == '\x7d'))
  if !cursor.rest.head?.all mayFollow then none
  let s ← { s with cursor, allowsKey := false }.toToken?
  return { s.push (.scalar (.text (String.ofList text))) with adjacent := some s.cursor.index }

/-- A plain scalar. -/
def plainToken? (s : Layout) : Option Layout := do
  let s := s.noteKey
  let s := { s with levels := s.levels.dropWhile fun l => !l.isBlock }
  let (text, cursor) ← plain? s.inFlow s.margin s.cursor
  return { s.push (.scalar (.plain (String.ofList text))) with cursor, allowsKey := cursor.fresh }

/-- A mark between documents. -/
def marker? (s : Layout) (c : Char) : Option Layout := do
  let s ← (s.closeLevels fun _ => false).dropKey? fun _ => true
  let cursor := s.cursor.advance 3
  let s := { s with cursor, allowsKey := false }
  if c == '-' then return s.push .documentStart
  let cursor ← cursor.toContent?
  if atLineEnd cursor.rest then return { s.push .documentEnd with cursor } else none

/-- The end of the text. -/
def finish? (s : Layout) : Option Layout := do
  if s.inFlow then none
  let s ← s.dropKey? fun _ => true
  return (s.closeLevels fun _ => false).push .endOfText

/-- The token that begins with a character. -/
def token? (s : Layout) (c : Char) (t : Text) : Option Layout :=
  match c with
  | '[' => s.openBracket? true
  | '\x7b' => s.openBracket? false
  | ']' => s.closeBracket? true
  | '\x7d' => s.closeBracket? false
  | ',' => s.comma?
  | '-' => if atGap t then s.item? else s.plainToken?
  | '?' => if atGap t then s.markedKey? else s.plainToken?
  | ':' =>
    if atGap t then s.value?
    else if !s.inFlow then s.plainToken?
    else if s.adjacent == some s.cursor.index then s.value?
    else if t.head?.any fun d => d == '[' || d == '\x7b' then none
    else if t.head?.any isFlowIndicator then s.value?
    else s.plainToken?
  | '"' | '\'' => s.quotedToken?
  | '|' | '>' => if s.inFlow then s.plainToken? else none
  | '*' | '&' | '!' | '%' | '@' | '\x60' => none
  | _ => s.plainToken?

/-- The next token. -/
def step (s : Layout) : Option Layout := do
  let s ← s.toToken?
  let s ← s.dropKey? s.isStale
  let column := s.cursor.column
  let s := s.closeLevels fun l => l.column ≤ column
  match s.cursor.rest with
  | [] => s.finish?
  | c :: t =>
    if column = 0 && c == '%' then none
    else
      match if column = 0 then s.cursor.marker? else none with
      | some mark => s.marker? mark
      | none =>
        if s.isOutdented column && !(s.inFlow && (c == ']' || c == '\x7d')) then none
        else s.token? c t

/-- The tokens of the text that is left; `fuel` bounds the number of steps. -/
def tokensFrom (fuel : Nat) (s : Layout) : List Token :=
  match fuel, s.step with
  | fuel + 1, some next =>
    match next.reversed with
    | .endOfText :: _ => next.reversed.reverse
    | _ => tokensFrom fuel next
  | _, _ => s.certain

end Layout

/-- The tokens of a text, as far as they are certain: after the last of them the text is no YAML or
no more of it is left. -/
def tokens (t : Text) : List Token := (Layout.ofText t).tokensFrom (t.length + 1)

end Yaml

end StructuralSearch
