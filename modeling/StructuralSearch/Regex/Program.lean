import StructuralSearch.Regex.Expr

/-!
# Running regular expressions

An expression becomes a program. Running it moves an ordered list of threads over the text, at most
one for each place of the program: of two threads that meet the earlier one goes on, since its
choices are preferred. So the match that is found is the one that a search by backtracking would
find first.

An expression that may match nothing is repeated as an optional `e+`: entering the loop by way of
its end would try the choices in the wrong order.

Main declarations:
1. `Expr.code`: the program of an expression.
2. `Program.close`: the threads that wait for a character or accept.
3. `Program.run`: the preferred match at a place of a text.
-/

namespace StructuralSearch

namespace Regex

inductive Instruction
  /-- Goes on with the next instruction after a character of the set. -/
  | char (set : CharSet)
  | check (a : Assertion)
  /-- Remembers the place in the text. -/
  | save (slot : Nat)
  /-- Goes on at two places, the first of which is preferred. -/
  | split (first second : Nat)
  | jump (target : Nat)
  | accept
deriving DecidableEq, Repr

/-- A split that prefers to go on when `greedy`. -/
def choose (greedy : Bool) (onward exit : Nat) : Instruction :=
  if greedy then .split onward exit else .split exit onward

/-- The code of an expression several times in a row, from place `base` on. -/
def copies (code : Nat → List Instruction) : Nat → Nat → List Instruction
  | 0, _ => []
  | n + 1, base =>
    let first := code base
    first ++ copies code n (base + first.length)

/-- The code of an expression any number of times up to a bound, from place `base` on. -/
def options (code : Nat → List Instruction) (greedy : Bool) : Nat → Nat → List Instruction
  | 0, _ => []
  | n + 1, base =>
    let body := code (base + 1)
    let rest := options code greedy n (base + 1 + body.length)
    choose greedy (base + 1) (base + 1 + body.length + rest.length) :: (body ++ rest)

/-- The code of an expression at least once, from place `base` on. -/
def onceOrMore (code : Nat → List Instruction) (greedy : Bool) (base : Nat) : List Instruction :=
  let body := code base
  body ++ [choose greedy base (base + body.length + 1)]

/-- The code of an expression any number of times, from place `base` on. -/
def anyTimes (code : Nat → List Instruction) (nullable greedy : Bool) (base : Nat) :
    List Instruction :=
  if nullable then
    let loop := onceOrMore code greedy (base + 1)
    choose greedy (base + 1) (base + 1 + loop.length) :: loop
  else
    let body := code (base + 1)
    choose greedy (base + 1) (base + 1 + body.length + 1) :: (body ++ [.jump base])

/-- The code of an expression from place `base` on. It is left at its end. -/
def Expr.code : Expr → Nat → List Instruction
  | empty, _ => []
  | char set, _ => [.char set]
  | check a, _ => [.check a]
  | concat e f, base =>
    let first := e.code base
    first ++ f.code (base + first.length)
  | alt e f, base =>
    let first := e.code (base + 1)
    let second := f.code (base + 1 + first.length + 1)
    .split (base + 1) (base + 1 + first.length + 1) :: first ++
      .jump (base + 1 + first.length + 1 + second.length) :: second
  | repeated e min (some max) greedy, base =>
    let first := copies e.code min base
    first ++ options e.code greedy (max - min) (base + first.length)
  | repeated e 0 none greedy, base => anyTimes e.code (e.minLength == 0) greedy base
  | repeated e (n + 1) none greedy, base =>
    let first := copies e.code n base
    first ++ onceOrMore e.code greedy (base + first.length)
  | group index e, base =>
    .save (2 * index) :: e.code (base + 1) ++ [.save (2 * index + 1)]

/-- A program. -/
abbrev Program := Array Instruction

/-- The program of an expression. -/
def Program.ofExpr (e : Expr) : Program := (e.code 0 ++ [Instruction.accept]).toArray

/-- The places of the text that have been remembered, the latest first. -/
abbrev Slots := List (Nat × Nat)

structure Thread where
  /-- The place in the program. -/
  place : Nat
  slots : Slots
deriving Repr

/-- Where the threads are in the text. -/
structure Place where
  offset : Nat
  before : Option Char
  next : Option Char

namespace Program

/-- The threads to go on with instead of one thread that need not read a character. -/
def unfold (here : Place) (th : Thread) : Instruction → List Thread
  | .check a => if a.holds here.before here.next then [⟨th.place + 1, th.slots⟩] else []
  | .save slot => [⟨th.place + 1, (slot, here.offset) :: th.slots⟩]
  | .split first second => [⟨first, th.slots⟩, ⟨second, th.slots⟩]
  | .jump target => [⟨target, th.slots⟩]
  | .char _ | .accept => []

theorem length_unfold_le (here : Place) (th : Thread) (i : Instruction) :
    (unfold here th i).length ≤ 2 := by
  cases i <;> simp only [unfold] <;> (try split) <;> simp

/-- The threads that take the place of one thread, and whether it waits or accepts. -/
def expand (p : Program) (here : Place) (th : Thread) : List Thread :=
  (p[th.place]?.map (unfold here th)).getD []

theorem length_expand_le (p : Program) (here : Place) (th : Thread) :
    (expand p here th).length ≤ 2 := by
  simp only [expand]
  cases p[th.place]? with
  | none => simp
  | some i => simpa using length_unfold_le here th i

/-- Whether a thread waits for a character or accepts. -/
def settled (p : Program) (th : Thread) : Bool :=
  match p[th.place]? with
  | some (.char _) | some .accept => true
  | _ => false

/-- A visit leaves one place less to be visited. -/
theorem count_false_set {visited : Array Bool} {i : Nat} (h : i < visited.size)
    (unvisited : visited[i] = false) :
    (visited.set i true).count false + 1 = visited.count false := by
  have hpos : 0 < visited.count false := Array.count_pos_iff.2 (unvisited ▸ Array.getElem_mem h)
  rw [Array.count_set h]
  simp [unvisited]
  omega

/-- The threads that wait for a character or accept, in order of preference. Each place of the
program is visited once; `visited` tells at which places a thread has been. -/
def close (p : Program) (here : Place) (visited : Array Bool) : List Thread → List Thread
  | [] => []
  | th :: rest =>
    if h : th.place < visited.size then
      if unvisited : visited[th.place] = false then
        let onward := close p here (visited.set th.place true h) (expand p here th ++ rest)
        if settled p th then th :: onward else onward
      else close p here visited rest
    else close p here visited rest
termination_by threads => 2 * visited.count false + threads.length
decreasing_by
  · have hcount := count_false_set h unvisited
    have hexp := length_expand_le p here th
    simp only [List.length_append, List.length_cons]
    omega
  · simp
  · simp

/-- The threads that wait for a character or accept, after the threads that have come to a place in
a text. -/
def closeAll (p : Program) (here : Place) (threads : List Thread) : List Thread :=
  close p here (Array.replicate p.size false) threads

/-- The threads before the first that accepts, and that one. -/
def untilAccept (p : Program) : List Thread → List Thread × Option Slots
  | [] => ([], none)
  | th :: rest =>
    if p[th.place]? = some .accept then ([], some th.slots)
    else
      let (running, accepted) := untilAccept p rest
      (th :: running, accepted)

/-- The thread after a character. -/
def advance (p : Program) (c : Char) (th : Thread) : Option Thread :=
  match p[th.place]? with
  | some (.char set) => if set.contains c then some ⟨th.place + 1, th.slots⟩ else none
  | _ => none

/-- The preferred match of threads that have come to a place in a text; `best` is the match so
far. -/
def run (p : Program) (offset : Nat) (before : Option Char) (threads : List Thread)
    (best : Option Slots) : Text → Option Slots
  | [] =>
    let here : Place := ⟨offset, before, none⟩
    ((untilAccept p (closeAll p here threads)).2).or best
  | c :: t =>
    let here : Place := ⟨offset, before, some c⟩
    let (running, accepted) := untilAccept p (closeAll p here threads)
    match running.filterMap (advance p c) with
    | [] => accepted.or best
    | next => run p (offset + 1) (some c) next (accepted.or best) t

end Program

end Regex

end StructuralSearch
