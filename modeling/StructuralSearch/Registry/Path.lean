import StructuralSearch.Text.Basic

/-!
# File extensions

The extension of a path is what follows the last dot in its last component; a dot at the front of
the component does not count. Components that are empty or `.` are passed over, and a path that
leads to a parent directory has no extension.
-/

namespace StructuralSearch

namespace Path

/-- The pieces of a text between separators. -/
def pieces (separator : Char) (t : Text) : List Text :=
  t.foldr (fun c ps =>
    if c == separator then [] :: ps
    else
      match ps with
      | [] => [[c]]
      | p :: rest => (c :: p) :: rest) [[]]

/-- The last component of a path, if that is a name. -/
def fileName? (path : Text) : Option Text := do
  let names := (pieces '/' path).filter fun p => !p.isEmpty && p != ['.']
  let last ← names.getLast?
  if last == ['.', '.'] then none else some last

/-- The extension of a path. -/
def extension? (path : Text) : Option Text := do
  match pieces '.' (← fileName? path) with
  | [] | [_] => none
  | [[], _] => none
  | ps => ps.getLast?

example : extension? "src/main.rs".toList = some "rs".toList := by decide
example : extension? ".rs".toList = none := by decide
example : extension? "a.".toList = some [] := by decide
example : extension? "dir.rs/".toList = some "rs".toList := by decide
example : extension? "a.rs/..".toList = none := by decide

end Path

end StructuralSearch
