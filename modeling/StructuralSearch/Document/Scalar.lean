import StructuralSearch.Text.Blank

/-!
# Unquoted scalars

What a word without quotes spells: no value, a truth value, an integer or another number. Numbers
may have blanks around them; their digits may be grouped by underscores.

Main declarations:
1. `Scalar.isNull`, `Scalar.bool?`: no value and truth values.
2. `Scalar.unsigned?`, `Scalar.signed?`: integers.
3. `Scalar.magnitude?`: other numbers, as far as it matters which they are.
-/

namespace StructuralSearch

namespace Scalar

/-- A word with its ASCII letters in lower case. -/
def lower (t : Text) : String := String.ofList (t.map Char.toLower)

/-- Whether an unquoted scalar stands for no value. -/
def isNull (s : String) : Bool := s == "" || s == "~" || lower s.toList == "null"

/-- The truth value that an unquoted scalar spells. -/
def bool? (s : String) : Option Bool :=
  let word := lower (Text.trim s.toList)
  if ["true", "yes", "y", "on"].contains word then some true
  else if ["false", "no", "n", "off"].contains word then some false
  else none

/-! ## Integers -/

/-- The number that a digit stands for in a base of at most sixteen. -/
def digit? (base : Nat) (c : Char) : Option Nat :=
  let lower := c.toLower
  let d :=
    if lower.isDigit then lower.toNat - '0'.toNat
    else if 'a' ≤ lower && lower ≤ 'f' then lower.toNat - 'a'.toNat + 10
    else base
  if d < base then some d else none

/-- The number that digits spell; underscores between them do not count. -/
def natural? (base : Nat) (t : Text) : Option Nat :=
  let digits := t.filter (· != '_')
  if digits.isEmpty then none else digits.foldlM (fun n c => (digit? base c).map (n * base + ·)) 0

/-- The number that a word without sign spells: decimal, or in the base that its first two
characters name. -/
def absolute? : Text → Option Nat
  | '0' :: c :: t =>
    match c.toLower with
    | 'x' => natural? 16 t
    | 'o' => natural? 8 t
    | 'b' => natural? 2 t
    | _ => natural? 10 ('0' :: c :: t)
  | t => natural? 10 t

/-- The integer that a scalar spells, if it has no minus sign and fits a 64-bit word. -/
def unsigned? (s : String) : Option Nat :=
  let digits := match Text.trim s.toList with
    | '+' :: t => t
    | t => t
  (absolute? digits).filter (· < 0x10000000000000000)

/-- The integer that a scalar spells, if it fits a signed 64-bit word. -/
def signed? (s : String) : Option Int :=
  let i := match Text.trim s.toList with
    | '+' :: t => (absolute? t).map fun n => (n : Int)
    | '-' :: t => (absolute? t).map fun n => -(n : Int)
    | t => (absolute? t).map fun n => (n : Int)
  i.filter fun i => -0x8000000000000000 ≤ i && i < 0x8000000000000000

/-! ## Other numbers -/

/-- Whether a number is finite. -/
inductive Magnitude
  | finite
  | infinite
  | undefined
deriving DecidableEq, Repr

/-- Whether the number `digits · 10 ^ exponent` is too large for a double-precision word. -/
def overflows (digits : Nat) (exponent : Int) : Bool :=
  let size := (Nat.toDigits 10 digits).length
  if digits == 0 || exponent + size < 309 then false
  else if 310 < exponent + size then true
  else
    let limit := Nat.pow 2 1024 - Nat.pow 2 970
    if exponent < 0 then limit * Nat.pow 10 (-exponent).toNat ≤ digits
    else limit ≤ digits * Nat.pow 10 exponent.toNat

/-- The exponent that a word spells: a sign, if any, and digits. -/
def exponent? (t : Text) : Option Int :=
  let (negative, digits) := match t with
    | '-' :: ds => (true, ds)
    | '+' :: ds => (false, ds)
    | ds => (false, ds)
  if digits.all Char.isDigit then
    (natural? 10 digits).map fun n => if negative then -(n : Int) else n
  else none

/-- What a decimal number without sign is: digits with a point among them or beside them, and
perhaps an exponent. -/
def decimal? (t : Text) : Option Magnitude := do
  let whole := t.takeWhile Char.isDigit
  let rest := t.dropWhile Char.isDigit
  let (fraction, tail) := match rest with
    | '.' :: r => (r.takeWhile Char.isDigit, r.dropWhile Char.isDigit)
    | r => ([], r)
  let digits ← natural? 10 (whole ++ fraction)
  let exponent ← match tail with
    | [] => some 0
    | c :: r => if c == 'e' || c == 'E' then exponent? r else none
  return if overflows digits (exponent - fraction.length) then .infinite else .finite

/-- What the number that a scalar spells is, and whether it has a minus sign. -/
def magnitude? (s : String) : Option (Bool × Magnitude) :=
  let (negative, t) := match Text.trim s.toList with
    | '-' :: t => (true, t)
    | '+' :: t => (false, t)
    | t => (false, t)
  let word := lower t
  if [".inf", "inf", "infinity"].contains word then some (negative, .infinite)
  else if [".nan", "nan"].contains word then some (negative, .undefined)
  else (decimal? t).map (negative, ·)

example : isNull "nULL" = true := by decide
example : signed? " -0x_1F " = some (-31) := by decide
example : unsigned? "-0" = none := by decide
example : magnitude? "1e309" = some (false, .infinite) := by decide +kernel
example : magnitude? "2n+1" = none := by decide +kernel

end Scalar

end StructuralSearch
