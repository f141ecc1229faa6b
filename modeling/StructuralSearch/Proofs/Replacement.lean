import StructuralSearch.Proofs.Commit.Order
import StructuralSearch.Proofs.Rewriting

/-!
# Replacing every match

A search yields matches from the beginning of the text to its end, and none overlaps another. But
a match may be empty, and then the next one may begin where it does. An edit for the empty match
comes first in the list of edits, so it is made first, and the edit for the other match ends behind
the limit: it is dropped, although it is counted. If both matches are empty, both edits are made,
and the text of the second stands before that of the first.

Results:
1. `Node.pairwise_replacements`: the spans of the matches stand one after another in the text.
2. `rewrite_splices_iff`: when a rewriting replaces every match, each with its own text.
3. `empty_match_hides_next`: a match that is counted and not replaced.
-/

namespace StructuralSearch

namespace Node

variable {n : Node} {m : Matcher} {r : Match → Text}

/-- The edits that replace the matches under a node, each with a text of its own. -/
def replacements (n : Node) (m : Matcher) (r : Match → Text) : List Edit :=
  (n.findAll m).map fun x => x.node.replace (r x)

/-- The matches under a node that begin at a place. -/
def matchesAt (n : Node) (m : Matcher) (s : Nat) : List Match :=
  (n.findAll m).filter fun x => x.node.start = s

/-- Matches under a node are nodes of its tree and lie within it. -/
theorem within_of_mem_findAll (h : n.tree.Nested) (hn : n.id < n.tree.size) {x : Match}
    (hx : x ∈ n.findAll m) :
    x.node.tree = n.tree ∧ x.node.id < n.tree.size ∧ n.start ≤ x.node.start ∧
      x.node.stop ≤ n.stop := by
  obtain ⟨htree, hstart, hstop, -⟩ := Tree.mem_findAllFrom hx
  have hwithin := Tree.within_subtree h hn hstart hstop
  refine ⟨htree, Nat.lt_of_lt_of_le hstop (Tree.subtreeEnd_le hn), ?_⟩
  obtain ⟨⟨tree, id⟩, env⟩ := x
  obtain rfl : tree = n.tree := htree
  exact hwithin

theorem not_misplaced_of_mem_replacements (h : n.tree.Nested) (hn : n.id < n.tree.size) {e : Edit}
    (he : e ∈ n.replacements m r) : ¬ e.Misplaced n.text n.start := by
  obtain ⟨x, hx, rfl⟩ := List.mem_map.mp he
  obtain ⟨htree, hid, hstart, hstop⟩ := within_of_mem_findAll h hn hx
  obtain ⟨k, hk⟩ := h.slice n.id hn
  rw [← htree] at hid
  obtain ⟨l, hl⟩ := (htree ▸ h).slice x.node.id hid
  exact Edit.not_misplaced_iff.mpr (exists_fitsIn_replace htree hk hl hstart hstop (r x))

/-- The spans of the matches stand one after another in the text. -/
theorem pairwise_replacements (h : n.tree.WellFormed) (hn : n.id < n.tree.size) (m : Matcher)
    (r : Match → Text) : (n.replacements m r).Pairwise fun a b => a.stop ≤ b.start := by
  rw [replacements, List.pairwise_map]
  refine (Tree.pairwise_findAllFrom n.tree m n.id n.subtreeEnd).imp_of_mem ?_
  intro a b ha hb hab
  obtain ⟨hatree, -, -, -⟩ := within_of_mem_findAll h.toNested hn ha
  obtain ⟨hbtree, hbid, -, -⟩ := within_of_mem_findAll h.toNested hn hb
  have hle := Tree.stop_le_start h hab hbid
  show (a.node.tree.record a.node.id).stop ≤ (b.node.tree.record b.node.id).start
  rwa [hatree, hbtree]

theorem startingAt_replacements (s : Nat) :
    Edit.startingAt s (n.replacements m r) =
      (n.matchesAt m s).map fun x => x.node.replace (r x) := by
  rw [Edit.startingAt, replacements, List.filter_map, matchesAt]
  rfl

theorem rewrite_eq_ok_iff {out : Text} {count : Nat} :
    rewrite n m (fun x => some (x.node.replace (r x))) = .ok ⟨out, count⟩ ↔
      Edit.commit n.text n.start (n.replacements m r) = .ok out ∧
        count = (n.findAll m).length := by
  rw [← commitEdits_eq_ok_iff, rewrite, List.filterMap_eq_map', ← replacements]
  cases n.commitEdits (n.replacements m r) with
  | error e => simp [bind, Except.bind]
  | ok out' => simp [bind, Except.bind, pure, Except.pure, replacements, eq_comm]

end Node

/-- A rewriting that replaces each match with a text of its own succeeds, and counts all matches. It
replaces every match, in the order of the text and nothing else, and replaces as many as it counts,
exactly if wherever two matches begin at the same place, the later one is empty, and the texts for
these matches read the same from the last to the first. -/
theorem rewrite_splices_iff {n : Node} (h : n.tree.WellFormed) (hn : n.id < n.tree.size)
    (m : Matcher) (r : Match → Text) :
    ∃ out applied,
      rewrite n m (fun x => some (x.node.replace (r x))) = .ok ⟨out, (n.findAll m).length⟩ ∧
      Edit.Selects (n.start + n.text.byteLength)
        ((n.replacements m r).mergeSort Edit.startsLater) applied ∧
      Edit.Splices n.start applied n.text out ∧
      ((Edit.Splices n.start (n.replacements m r) n.text out ∧
          applied.length = (n.findAll m).length) ↔
        ((n.findAll m).Pairwise fun a b =>
          a.node.start = b.node.start → b.node.stop = b.node.start) ∧
        ∀ s, (n.matchesAt m s).reverse.flatMap r = (n.matchesAt m s).flatMap r) := by
  have hplaced : ∀ e ∈ n.replacements m r, ¬ e.Misplaced n.text n.start :=
    fun _ he => Node.not_misplaced_of_mem_replacements h.toNested hn he
  obtain ⟨out, hout⟩ := Edit.exists_commit_iff.mpr hplaced
  obtain ⟨applied, hselects, hsplices⟩ := Edit.exists_splices_of_commit hout
  refine ⟨out, applied, Node.rewrite_eq_ok_iff.mpr ⟨hout, rfl⟩, hselects, hsplices, ?_⟩
  have hlength : (n.replacements m r).length = (n.findAll m).length := by
    rw [Node.replacements, List.length_map]
  have hlater : ((n.replacements m r).Pairwise fun a b => a.start = b.start → b.stop = b.start) ↔
      (n.findAll m).Pairwise fun a b =>
        a.node.start = b.node.start → b.node.stop = b.node.start := by
    rw [Node.replacements, List.pairwise_map]
    rfl
  have htexts : ∀ s, Edit.insertedBack (Edit.startingAt s (n.replacements m r)) =
        (Edit.startingAt s (n.replacements m r)).flatMap Edit.inserted ↔
      (n.matchesAt m s).reverse.flatMap r = (n.matchesAt m s).flatMap r := by
    intro s
    rw [Node.startingAt_replacements, Edit.insertedBack, ← List.map_reverse, List.flatMap_map,
      List.flatMap_map]
    rfl
  rw [← hlength, Edit.splices_iff_of_commit hplaced (Node.pairwise_replacements h hn m r) hout
    hselects, hlater, forall_congr' htexts]

/-! ## An empty match -/

/-- The text `T[]`, in which the parser has inserted an index. -/
def missingIndex : Tree where
  stamp := 0
  language := .parsing fun _ => none
  source := "T[]".toList
  records :=
    [.plain none "subscript" true 0 3, .plain (some 0) "identifier" true 0 1,
      .plain (some 0) "[" false 1 2, ⟨some 0, "identifier", true, false, true, true, 2, 2, none⟩,
      .plain (some 0) "]" false 2 3]

/-- Matches what the parser has inserted, and closing brackets. -/
def emptyOrClosing : Matcher := fun n e =>
  if n.text = [] ∨ n.text = [']'] then some e else none

/-- Matches identifiers. -/
def identifiers : Matcher := fun n e => if n.kind = "identifier" then some e else none

/-- Where the empty match stands on its own, every match is replaced. -/
theorem rewrite_identifiers :
    missingIndex.WellFormed ∧ 0 < missingIndex.size ∧ ∃ (out : Text) (applied : List Edit),
      rewrite missingIndex.root identifiers (fun x => some (x.node.replace ['X'])) =
        .ok ⟨out, 2⟩ ∧
      Edit.Splices 0 (missingIndex.root.replacements identifiers fun _ => ['X'])
        missingIndex.root.text out ∧ applied.length = 2 := by
  have hwell : missingIndex.WellFormed := by decide
  have hroot : missingIndex.root.id < missingIndex.size := by decide
  have hcount : (missingIndex.root.findAll identifiers).length = 2 := by decide +kernel
  obtain ⟨out, applied, hrewrite, -, -, hiff⟩ :=
    rewrite_splices_iff (n := missingIndex.root) hwell hroot identifiers fun _ => ['X']
  obtain ⟨hsplices, hlength⟩ := hiff.mpr (by
    constructor
    · decide +kernel
    · intro s
      rw [List.flatMap_def, List.flatMap_def, List.map_const', List.map_const',
        List.length_reverse])
  rw [hcount] at hrewrite hlength
  exact ⟨hwell, hroot, out, applied, hrewrite, hsplices, hlength⟩

/-- The bracket behind the inserted index is counted, but it is not replaced. -/
theorem empty_match_hides_next :
    missingIndex.WellFormed ∧
    (rewrite missingIndex.root emptyOrClosing fun x => some (x.node.replace ['X'])).toOption =
      some ⟨"T[X]".toList, 2⟩ ∧
    ¬ Edit.Splices 0 (missingIndex.root.replacements emptyOrClosing fun _ => ['X'])
      missingIndex.root.text "T[X]".toList := by
  have hedits : missingIndex.root.replacements emptyOrClosing (fun _ => ['X']) =
      [⟨2, 2, ['X']⟩, ⟨2, 3, ['X']⟩] := by
    decide +kernel
  have hbracket : Edit.Splices 2 [⟨2, 3, ['X']⟩] [']'] ['X'] :=
    @Edit.Splices.replace 2 ⟨2, 3, ['X']⟩ [] [] [']'] [] [] rfl rfl (.rest 3 [])
  have hboth : Edit.Splices 0 [⟨2, 2, ['X']⟩, ⟨2, 3, ['X']⟩] "T[]".toList "T[XX".toList :=
    @Edit.Splices.replace 0 ⟨2, 2, ['X']⟩ _ ['T', '['] [] [']'] ['X'] rfl rfl hbracket
  refine ⟨by decide +kernel, by decide +kernel, ?_⟩
  rw [hedits]
  intro h
  exact absurd (h.unique hboth) (by decide)

end StructuralSearch
