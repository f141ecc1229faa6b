import StructuralSearch.Document.Scalar
import StructuralSearch.Document.Yaml.Cursor

/-!
# YAML scalars in quotes

In double quotes a backslash begins an escape; in single quotes a quote is written twice. A line
break stands for a space and further ones for themselves, without the blanks around them; one after
a backslash stands for nothing. Lines that go on with a scalar are indented more than the entry
that it belongs to.

Main declarations:
1. `Yaml.escaped?`, `Yaml.ofCode?`: escapes.
2. `Yaml.quoted?`: the text of a scalar in quotes.
-/

namespace StructuralSearch

namespace Yaml

/-! ## Escapes -/

/-- The character that a one-letter escape stands for. -/
def escaped? : Char → Option Char
  | '0' => some '\x00'
  | 'a' => some '\x07'
  | 'b' => some '\x08'
  | 't' => some '\t'
  | '\t' => some '\t'
  | 'n' => some '\n'
  | 'v' => some '\x0b'
  | 'f' => some '\x0c'
  | 'r' => some '\r'
  | 'e' => some '\x1b'
  | ' ' => some ' '
  | '"' => some '"'
  | '/' => some '/'
  | '\\' => some '\\'
  | 'N' => some '\u0085'
  | '_' => some '\u00a0'
  | 'L' => some '\u2028'
  | 'P' => some '\u2029'
  | _ => none

/-- The number of digits of a code after a letter. -/
def codeLength? : Char → Option Nat
  | 'x' => some 2
  | 'u' => some 4
  | 'U' => some 8
  | _ => none

/-- The character with a code. -/
def ofCode? (n : Nat) : Option Char :=
  if n < 0x110000 ∧ ¬ (0xD800 ≤ n ∧ n < 0xE000) then some (Char.ofNat n) else none

/-- The number that so many hexadecimal digits at the front spell. -/
def code? (width : Nat) (t : Text) : Option Nat :=
  if t.length < width then none
  else (t.take width).foldlM (fun n c => (Scalar.digit? 16 c).map (n * 16 + ·)) 0

/-- The character of a code in two halves of a pair: the first half is given, the second is to
follow as an escape. -/
def paired? (high : Nat) (t : Text) : Option Char := do
  match t with
  | '\\' :: 'u' :: t =>
    let low ← code? 4 t
    if 0xDC00 ≤ low ∧ low < 0xE000 then ofCode? (0x10000 + (high - 0xD800) * 0x400 + (low - 0xDC00))
    else none
  | _ => none

/-- The character that an escape after a backslash stands for, and the length of the escape. -/
def escape? : Text → Option (Char × Nat)
  | [] => none
  | c :: t =>
    match codeLength? c with
    | none => (escaped? c).map (·, 1)
    | some width => do
      let n ← code? width t
      if width = 4 ∧ 0xD800 ≤ n ∧ n < 0xDC00 then return (← paired? n (t.drop 4), 11)
      return (← ofCode? n, width + 1)

/-! ## Texts in quotes -/

/-- What precedes the next character of a text in quotes. -/
inductive QuoteGap
  /-- Blanks, in reverse. -/
  | blanks (reversed : Text)
  /-- A line break, written after a backslash or not, and further ones. -/
  | lines (escaped : Bool) (further : Nat)
deriving DecidableEq, Repr

/-- What a gap stands for, in reverse. -/
def QuoteGap.text : QuoteGap → Text
  | blanks reversed => reversed
  | lines false 0 => [' ']
  | lines _ further => List.replicate further '\n'

/-- Whether a character of a text in quotes may stand here, after a gap: in a later line not before
the column `margin`, and not where a document ends. -/
def mayStand (margin : Nat) (gap : QuoteGap) (c : Cursor) : Bool :=
  match gap with
  | .blanks _ => true
  | .lines _ _ => margin ≤ c.column && !(c.column == 0 && c.marker?.isSome)

/-- The rest of a text up to the quote that ends it, after `reversed` and a gap, and the place
behind the quote. `fuel` bounds the number of steps. -/
def quotedFrom (fuel : Nat) (quote : Char) (margin : Nat) (reversed : Text) (gap : QuoteGap)
    (c : Cursor) : Option (Text × Cursor) :=
  match fuel, c.rest with
  | 0, _ | _, [] => none
  | fuel + 1, d :: t =>
    if d == '\n' then
      let gap := match gap with
        | .blanks _ => .lines false 0
        | .lines escaped further => .lines escaped (further + 1)
      quotedFrom fuel quote margin reversed gap c.nextLine
    else if isSpace d then
      match gap with
      | .blanks before =>
        quotedFrom fuel quote margin reversed (.blanks (d :: before)) (c.advance 1)
      | gap =>
        if d == '\t' && c.column + 1 < margin then none
        else quotedFrom fuel quote margin reversed gap (c.skip 1)
    else if !mayStand margin gap c then none
    else
      let reversed := gap.text ++ reversed
      let goOn (e : Char) (n : Nat) :=
        quotedFrom fuel quote margin (e :: reversed) (.blanks []) (c.advance n)
      if d == quote then
        if quote == '\'' && t.head? == some quote then goOn quote 2
        else some (reversed.reverse, c.advance 1)
      else if d == '\\' && quote == '"' then
        if t.head? == some '\n' then
          quotedFrom fuel quote margin reversed (.lines true 0) (c.advance 1).nextLine
        else (escape? t).bind fun (e, n) => goOn e (n + 1)
      else goOn d 1

/-- The text in quotes that begins here, and the place behind it. Later lines begin at the column
`margin` or behind it. -/
def quoted? (margin : Nat) (c : Cursor) : Option (Text × Cursor) :=
  match c.rest with
  | [] => none
  | quote :: t => quotedFrom (t.length + 1) quote margin [] (.blanks []) (c.advance 1)

example : (quoted? 2 (.ofText "\"a \n\n  b\\ud83d\\ude00\"".toList)).map (·.1) =
    some "a\nb😀".toList := by decide +kernel
example : (quoted? 2 (.ofText "\"a\n b\"".toList)).isNone = true := by decide +kernel
example : (quoted? 0 (.ofText "'it''s'".toList)).map (·.1) = some "it's".toList := by
  decide +kernel

end Yaml

end StructuralSearch
