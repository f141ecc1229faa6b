import StructuralSearch.Document.Yaml.Cursor

/-!
# YAML scalars without quotes

A plain scalar ends before a comment, before a colon that has a gap behind it, and in brackets
before a bracket or a comma. It may go on in later lines that are indented far enough; a line break
stands for a space, and blank lines for line breaks.

Main declarations:
1. `Yaml.endsRun`, `Yaml.run`: the parts of a plain scalar between blanks.
2. `Yaml.plain?`: the text of a plain scalar.
-/

namespace StructuralSearch

namespace Yaml

/-- Whether a plain scalar goes on neither with this character nor with what follows it. -/
def endsRun (inFlow : Bool) (c : Char) (t : Text) : Bool :=
  (c == ':' && (atGap t || (inFlow && t.head?.any isFlowIndicator))) ||
    (inFlow && isFlowIndicator c)

/-- The part of a plain scalar up to the next blank. -/
def run (inFlow : Bool) : Text → Text
  | [] => []
  | c :: t => if isSpace c || c == '\n' || endsRun inFlow c t then [] else c :: run inFlow t

/-- Over blanks and line breaks; `gap` is what stands for them so far, and `breaks` their number of
line breaks. A tab may precede the column `margin` in blank lines only. -/
def plainGap? (fuel margin breaks : Nat) (gap : Text) (c : Cursor) : Option (Text × Cursor) :=
  match fuel, c.rest with
  | 0, _ | _, [] => some (gap, c)
  | fuel + 1, d :: _ =>
    if d == '\n' then
      plainGap? fuel margin (breaks + 1)
        (if breaks = 0 then [' '] else List.replicate breaks '\n') c.nextLine
    else if isSpace d then
      if !c.fresh then plainGap? fuel margin breaks (gap ++ [d]) (c.skip 1)
      else if d == '\t' && c.column < margin then do
        let e ← c.toContent?
        if atLineEnd e.rest then plainGap? fuel margin breaks gap e else none
      else plainGap? fuel margin breaks gap (c.skip 1)
    else some (gap, c)

/-- Whether a dash stands here right before a bracket or a comma. -/
def Cursor.startsDash (c : Cursor) : Bool :=
  match c.rest with
  | '-' :: d :: _ => isFlowIndicator d
  | _ => false

/-- The rest of a plain scalar after `text` and a gap, and the place behind it. `fuel` bounds the
number of steps. -/
def plainFrom (fuel margin : Nat) (inFlow : Bool) (text gap : Text) (c : Cursor) :
    Option (Text × Cursor) :=
  match fuel with
  | 0 => none
  | fuel + 1 =>
    if (c.fresh && c.marker?.isSome) || c.rest.head? == some '#' then some (text, c)
    else if inFlow && c.startsDash then none
    else
      let part := run inFlow c.rest
      let text := if part.isEmpty then text else text ++ gap ++ part
      let c := if part.isEmpty then c else c.advance part.length
      if c.rest.isEmpty || !atGap c.rest then some (text, c)
      else do
        let (gap, c) ← plainGap? (c.rest.length + 1) margin 0 [] c
        if !inFlow && c.column < margin then return (text, c)
        plainFrom fuel margin inFlow text gap c

/-- The plain scalar that begins here, and the place behind it and what may not belong to it. Later
lines begin at the column `margin` or behind it; in brackets, so does the scalar. -/
def plain? (inFlow : Bool) (margin : Nat) (c : Cursor) : Option (Text × Cursor) :=
  if inFlow && c.column < margin then none
  else
    match plainFrom (c.rest.length + 1) margin inFlow [] [] c with
    | some (text, c) => if text.isEmpty then none else some (text, c)
    | none => none

example : (plain? false 1 (.ofText "a  b\n\n c: d".toList)).map (·.1) = some "a  b\nc".toList := by
  decide +kernel
example : (plain? true 0 (.ofText "a:b #c]".toList)).map (·.1) = some "a:b".toList := by
  decide +kernel
example : (plain? true 0 (.ofText "-]".toList)).isNone = true := by decide +kernel

end Yaml

end StructuralSearch
