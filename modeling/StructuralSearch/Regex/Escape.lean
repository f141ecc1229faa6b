import StructuralSearch.Document.Scalar
import StructuralSearch.Regex.Expr
import StructuralSearch.Regex.Property

/-!
# Escapes in regular expressions

What may stand for one character or a set of characters, inside brackets and outside of them, and
why a text is no regular expression.
-/

namespace StructuralSearch

namespace Regex

/-- The number of times that parts of an expression may be nested. -/
def maxDepth : Nat := 250

/-- The number of bytes that the program of an expression may take. -/
def maxSize : Nat := 10485760

/-- Why a text is no regular expression. -/
inductive Fault
  | unclosedGroup
  | unopenedGroup
  | unclosedBracket
  | unclosedCount
  | nothingToRepeat
  | malformedCount
  | invertedCount
  | malformedFlags
  | malformedName
  | duplicateName (name : String)
  | lookAround
  | backReference
  | malformedEscape
  | malformedBoundary
  | invertedRange
  | notACharacter
  | unknownProperty
  /-- Characters outside of ASCII are named where these do not count. -/
  | beyondAscii
  /-- Bytes that are no characters would be matched. -/
  | notText
  /-- Its parts are nested too deeply. -/
  | tooDeep
  /-- Its program would be too large. -/
  | tooLarge
deriving DecidableEq, Repr

namespace Fault

def reason : Fault → String
  | unclosedGroup => "unclosed group"
  | unopenedGroup => "unopened group"
  | unclosedBracket => "unclosed character class"
  | unclosedCount => "unclosed counted repetition"
  | nothingToRepeat => "repetition operator missing expression"
  | malformedCount => "repetition quantifier expects a valid decimal"
  | invertedCount => "the start of a repetition is greater than its end"
  | malformedFlags => "unrecognized flags"
  | malformedName => "invalid capture group name"
  | duplicateName name => s!"duplicate capture group name '{name}'"
  | lookAround => "look-around is not supported"
  | backReference => "backreferences are not supported"
  | malformedEscape => "unrecognized escape sequence"
  | malformedBoundary => "unrecognized word boundary"
  | invertedRange => "the start of a character class range is greater than its end"
  | notACharacter => "a character class holds characters only"
  | unknownProperty => "Unicode property not found"
  | beyondAscii => "Unicode not allowed here"
  | notText => "pattern can match invalid UTF-8"
  | tooDeep => s!"nested more than {maxDepth} times"
  | tooLarge => s!"Compiled regex exceeds size limit of {maxSize} bytes."

def message (f : Fault) : String :=
  match f with
  | tooLarge => f.reason
  | f => s!"regex parse error: {f.reason}"

end Fault

/-- Flags that change how an expression is read. -/
structure Flags where
  ignoreCase : Bool := false
  /-- `^` and `$` match at lines. -/
  multiLine : Bool := false
  /-- `.` matches line feeds. -/
  dotAll : Bool := false
  /-- Repetitions prefer fewer. -/
  swapGreed : Bool := false
  /-- Blanks and comments do not count. -/
  verbose : Bool := false
  /-- Carriage returns end lines, too. -/
  returns : Bool := false
  /-- Sets are sets of characters of all scripts, and not of bytes. -/
  unicode : Bool := true
deriving DecidableEq, Repr

namespace Flags

/-- A set closed under change of case, if case is ignored. -/
def folded (f : Flags) (s : CharSet) : CharSet :=
  if !f.ignoreCase then s
  else if f.unicode then s.fold
  else s.asciiFold

/-- All characters that are not in a set. Among bytes, these would not all be characters. -/
def complemented (f : Flags) (s : CharSet) : Except Fault CharSet :=
  if f.unicode then .ok (.complement s) else .error .notText

/-- A set, or all characters that are not in it. -/
def signed (f : Flags) (negated : Bool) (s : CharSet) : Except Fault CharSet :=
  if negated then f.complemented s else .ok s

def decimal (f : Flags) : CharSet := if f.unicode then .decimal else .asciiDigit

def blank (f : Flags) : CharSet := if f.unicode then .blank else .asciiBlank

/-- The characters that words consist of. -/
def word (f : Flags) : CharSet := if f.unicode then .word else .asciiWord

/-- The characters of a line. -/
def dot (f : Flags) : Except Fault CharSet :=
  f.complemented <|
    if f.dotAll then .empty else if f.returns then .ofList ['\r', '\n'] else .single '\n'

/-- The condition on the start of a line, or of the text. -/
def start (f : Flags) : Assertion :=
  if !f.multiLine then .textStart else if f.returns then .lineStartAfterReturn else .lineStart

/-- The condition on the end of a line, or of the text. -/
def stop (f : Flags) : Assertion :=
  if !f.multiLine then .textEnd else if f.returns then .lineEndAtReturn else .lineEnd

/-- What follows blanks and comments, where these do not count. -/
def skip (f : Flags) (t : Text) : Text :=
  if f.verbose then skipFrom t else t
where
  skipFrom : Text → Text
    | [] => []
    | c :: t =>
      if Text.isBlank c then skipFrom t
      else if c = '#' then skipComment t
      else c :: t
  skipComment : Text → Text
    | [] => []
    | c :: t => if c = '\n' then skipFrom t else skipComment t

/-- At most `limit` characters up to the first that fails a test, and what follows them. Blanks and
comments between them do not count where they do not elsewhere. -/
def span (f : Flags) (test : Char → Bool) (limit : Nat) (t : Text) : Text × Text :=
  match limit, f.skip t with
  | limit + 1, c :: rest =>
    if test c then
      let (cs, rest) := span f test limit rest
      (c :: cs, rest)
    else ([], c :: rest)
  | _, _ => ([], t)

end Flags

/-- What an escape stands for. -/
inductive Escape
  | literal (c : Char)
  | set (s : CharSet)
  | check (a : Assertion)
deriving DecidableEq, Repr

namespace Escape

/-- Characters with a meaning of their own. -/
def isMeta (c : Char) : Bool := "\\.+*?()|[]\x7b\x7d^$#&-~".toList.contains c

/-- The set that a letter after a backslash names, and whether its complement is meant. -/
def set? (flags : Flags) : Char → Option (Bool × CharSet)
  | 'd' => some (false, flags.decimal)
  | 'D' => some (true, flags.decimal)
  | 's' => some (false, flags.blank)
  | 'S' => some (true, flags.blank)
  | 'w' => some (false, flags.word)
  | 'W' => some (true, flags.word)
  | _ => none

/-- The condition on words that a letter after a backslash names. -/
def wordCondition? : Char → Option WordCondition
  | 'b' => some .boundary
  | 'B' => some .notBoundary
  | '<' => some .start
  | '>' => some .stop
  | _ => none

/-- The end of the text that a letter after a backslash names. -/
def textEdge? : Char → Option Assertion
  | 'A' => some .textStart
  | 'z' => some .textEnd
  | _ => none

/-- The control character that a letter after a backslash names. -/
def control? : Char → Option Char
  | 'a' => some '\x07'
  | 'f' => some '\x0c'
  | 't' => some '\t'
  | 'n' => some '\n'
  | 'r' => some '\r'
  | 'v' => some '\x0b'
  | _ => none

/-- The number of digits of a code point after a letter. -/
def codeLength? : Char → Option Nat
  | 'x' => some 2
  | 'u' => some 4
  | 'U' => some 8
  | _ => none

/-- The character with a code in hexadecimal. -/
def ofCode (digits : Text) : Except Fault Char :=
  if digits.all Char.isAlphanum then
    match Scalar.natural? 16 digits with
    | some n =>
      if n < 0x110000 ∧ ¬ (0xD800 ≤ n ∧ n < 0xE000) then .ok (Char.ofNat n)
      else .error .malformedEscape
    | none => .error .malformedEscape
  else .error .malformedEscape

/-- A character given by its code: a number of digits, or digits in braces. Two digits give a byte,
which has to be a character where bytes count. -/
def code (flags : Flags) (length : Nat) (t : Text) : Except Fault (Char × Text) := do
  match flags.skip t with
  | '\x7b' :: t =>
    match flags.span (· != '\x7d') t.length t with
    | (digits, '\x7d' :: rest) => return (← ofCode digits, rest)
    | _ => throw .malformedEscape
  | t =>
    let (digits, rest) := flags.span (fun _ => true) length t
    if digits.length < length then throw .malformedEscape
    let c ← ofCode digits
    if length = 2 && !flags.unicode && 0x7F < c.toNat then throw .notText
    return (c, rest)

/-- The conditions on words that have a name. -/
def boundaries : List (String × WordCondition) :=
  [("start", .start), ("end", .stop), ("start-half", .noneBefore), ("end-half", .noneNext)]

/-- A word boundary after its letter, perhaps with a name in braces. Braces that do not begin with a
letter belong to a repetition. -/
def boundary (flags : Flags) (t : Text) : Except Fault (WordCondition × Text) := do
  let isLetter (c : Char) : Bool := c.isAlpha || c == '-'
  match t with
  | '\x7b' :: rest =>
    match flags.span isLetter rest.length rest with
    | ([], []) => throw .malformedBoundary
    | ([], _) => return (.boundary, t)
    | (name, '\x7d' :: rest) =>
      match boundaries.lookup (String.ofList name) with
      | some w => return (w, rest)
      | none => throw .malformedBoundary
    | _ => throw .malformedBoundary
  | t => return (.boundary, t)

/-- What stands before and behind the first place of a sign in a text. -/
def cut? (sign : Text) : Text → Option (Text × Text)
  | [] => none
  | c :: t =>
    match sign.isPrefixOf? (c :: t) with
    | some rest => some ([], rest)
    | none => (cut? sign t).map fun (before, rest) => (c :: before, rest)

/-- The set that a property in braces stands for, and whether its complement is meant. -/
def namedProperty? (name : Text) : Option (Bool × CharSet) :=
  match cut? ['!', '='] name with
  | some (name, value) => (CharSet.propertyValue? name value).map (true, ·)
  | none =>
    match cut? [':'] name <|> cut? ['='] name with
    | some (name, value) => (CharSet.propertyValue? name value).map (false, ·)
    | none => (CharSet.property? name).map (false, ·)

/-- A property after its letter: a letter, or a name in braces. -/
def property (flags : Flags) (t : Text) : Except Fault ((Bool × CharSet) × Text) := do
  let (found, rest) ← match flags.skip t with
    | [] | '\\' :: _ => throw .malformedEscape
    | '\x7b' :: t =>
      match flags.span (· != '\x7d') t.length t with
      | (name, '\x7d' :: rest) => pure (namedProperty? name, rest)
      | _ => throw .malformedEscape
    | c :: rest => pure ((CharSet.property? [c]).map (false, ·), rest)
  if !flags.unicode then throw .beyondAscii
  match found with
  | some p => return (p, rest)
  | none => throw .unknownProperty

/-- What follows a backslash. -/
def read (flags : Flags) : Text → Except Fault (Escape × Text)
  | [] => .error .malformedEscape
  | c :: t => do
    if c.isDigit then throw .backReference
    if c = 'p' ∨ c = 'P' then
      let ((negated, s), rest) ← property flags t
      return (.set (← flags.signed (negated != (c == 'P')) (flags.folded s)), rest)
    if let some n := codeLength? c then
      let (d, rest) ← code flags n t
      return (.literal d, rest)
    if let some (negated, s) := set? flags c then
      return (.set (← flags.signed negated s), t)
    if let some a := textEdge? c then return (.check a, t)
    if let some w := wordCondition? c then
      let (w, rest) ← if w = .boundary then boundary flags t else pure (w, t)
      return (.check (.words w flags.word), rest)
    if let some d := control? c then return (.literal d, t)
    if isMeta c || (c.toNat < 0x80 && !c.isAlphanum) then return (.literal c, t)
    throw .malformedEscape

end Escape

end Regex

end StructuralSearch
