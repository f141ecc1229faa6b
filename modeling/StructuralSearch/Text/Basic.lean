/-!
# Texts and byte offsets

A text is the list of its characters. Offsets into a text count the bytes of its UTF-8 form, so
an offset may fall inside a character; the functions that cut a text refuse such an offset.

Main declarations:
1. `Text.byteLength`: the length in bytes.
2. `Text.dropBytes?`, `Text.takeBytes?`, `Text.slice?`: cutting at byte offsets.
3. `Text.isBoundary`: whether an offset falls between two characters or at an end.
4. `Text.lines`: the lines of a text without their terminators.
-/

namespace StructuralSearch

/-- A text is the list of its characters. -/
abbrev Text := List Char

namespace Text

/-- The number of bytes of a text in UTF-8. -/
def byteLength : Text → Nat
  | [] => 0
  | c :: t => c.utf8Size + byteLength t

/-- What follows the first `n` bytes, if these end between two characters. -/
def dropBytes? : Text → Nat → Option Text
  | t, 0 => some t
  | [], _ + 1 => none
  | c :: t, n + 1 => if c.utf8Size ≤ n + 1 then dropBytes? t (n + 1 - c.utf8Size) else none

/-- The first `n` bytes, if these end between two characters. -/
def takeBytes? : Text → Nat → Option Text
  | _, 0 => some []
  | [], _ + 1 => none
  | c :: t, n + 1 =>
    if c.utf8Size ≤ n + 1 then (takeBytes? t (n + 1 - c.utf8Size)).map (c :: ·) else none

/-- The bytes from `start` up to `stop`, if both offsets are boundaries in this order. -/
def slice? (t : Text) (start stop : Nat) : Option Text :=
  if start ≤ stop then (dropBytes? t start).bind (takeBytes? · (stop - start)) else none

/-- Whether `offset` falls between two characters or at an end of the text. -/
def isBoundary (t : Text) (offset : Nat) : Bool := (dropBytes? t offset).isSome

/-- Whether `part` occurs in the text. -/
def contains (part : Text) : Text → Bool
  | [] => part.isEmpty
  | c :: t => part.isPrefixOf (c :: t) || contains part t

/-- Collects a line in reverse; a line that ends in a line feed loses one carriage return. -/
def linesFrom (reversed : Text) : Text → List Text
  | [] => if reversed.isEmpty then [] else [reversed.reverse]
  | c :: t =>
    if c = '\n' then
      (match reversed with
        | '\r' :: r => r.reverse
        | r => r.reverse) :: linesFrom [] t
    else linesFrom (c :: reversed) t

/-- The lines of a text without their terminators; nothing follows a final terminator. -/
def lines (t : Text) : List Text := linesFrom [] t

/-! ## How cutting and measuring fit together -/

@[simp] theorem byteLength_nil : byteLength [] = 0 := rfl

@[simp] theorem byteLength_cons (c : Char) (t : Text) :
    byteLength (c :: t) = c.utf8Size + byteLength t := rfl

@[simp] theorem byteLength_append (s t : Text) :
    byteLength (s ++ t) = byteLength s + byteLength t := by
  induction s with
  | nil => simp
  | cons c s ih => simp [ih, Nat.add_assoc]

@[simp] theorem dropBytes?_zero (t : Text) : dropBytes? t 0 = some t := by
  cases t <;> rfl

theorem dropBytes?_append (s t : Text) : dropBytes? (s ++ t) (byteLength s) = some t := by
  induction s with
  | nil => simp
  | cons c s ih =>
    have hc := c.utf8Size_pos
    obtain ⟨n, hn⟩ : ∃ n, byteLength (c :: s) = n + 1 := ⟨byteLength (c :: s) - 1, by simp; omega⟩
    rw [hn, List.cons_append, dropBytes?, ← hn]
    simp [ih]

theorem takeBytes?_append (s t : Text) : takeBytes? (s ++ t) (byteLength s) = some s := by
  induction s with
  | nil => cases t <;> rfl
  | cons c s ih =>
    have hc := c.utf8Size_pos
    obtain ⟨n, hn⟩ : ∃ n, byteLength (c :: s) = n + 1 := ⟨byteLength (c :: s) - 1, by simp; omega⟩
    rw [hn, List.cons_append, takeBytes?, ← hn]
    simp [ih]

theorem eq_append_of_dropBytes? {t r : Text} {n : Nat} (h : dropBytes? t n = some r) :
    ∃ s, t = s ++ r ∧ byteLength s = n := by
  induction t generalizing n with
  | nil =>
    cases n with
    | zero => exact ⟨[], by simpa [dropBytes?] using h, rfl⟩
    | succ n => simp [dropBytes?] at h
  | cons c t ih =>
    cases n with
    | zero => exact ⟨[], by simpa using h, rfl⟩
    | succ n =>
      rw [dropBytes?] at h
      split at h
      · next hle =>
        obtain ⟨s, rfl, hs⟩ := ih h
        exact ⟨c :: s, rfl, by simp [hs]; omega⟩
      · simp at h

/-- A slice that exists is a factor of the text at its offsets. -/
theorem slice?_append (s m t : Text) :
    slice? (s ++ (m ++ t)) (byteLength s) (byteLength s + byteLength m) = some m := by
  simp [slice?, dropBytes?_append, takeBytes?_append]

example : slice? "いいよ".toList 3 6 = some ['い'] := by decide
example : slice? "いいよ".toList 1 3 = none := by decide
example : lines "a\r\nb\n\nc\r".toList = ["a".toList, "b".toList, [], "c\r".toList] := by decide

end Text

end StructuralSearch
