import StructuralSearch.Proofs.Commit.Splicing
import StructuralSearch.Proofs.Rewriting

/-!
# Committing to a part

Edits have offsets of the whole source. They can be committed to a node, whose text is a part of the
source that begins at some byte, or to the tree. The two commits check other texts against other
bases, and start from other limits. What they do to edits within the node is the same.

Results:
1. `Edit.not_misplaced_within_iff`: an edit can be made in a part exactly if it can be made in the
   whole and lies within the part.
2. `Edit.selects_iff_of_le`: a limit behind all edits selects the same of them.
3. `Node.commitEdits_within_iff`: when edits can be committed to a node, and what committing them to
   the tree comes to.
-/

namespace StructuralSearch

namespace Edit

variable {before text after : Text} {e : Edit}

/-! ## Edits within a part -/

/-- The boundaries of a part are those of the whole that lie within the part. -/
theorem onBoundary_within_iff (after : Text) {i : Nat} (hlo : before.byteLength ≤ i)
    (hhi : i ≤ before.byteLength + text.byteLength) :
    OnBoundary (before ++ (text ++ after)) 0 i ↔ OnBoundary text before.byteLength i := by
  obtain ⟨j, rfl⟩ := Nat.exists_eq_add_of_le hlo
  have hwhole := @onBoundary_iff (before ++ (text ++ after)) 0 (before.byteLength + j)
  rw [Nat.zero_add] at hwhole
  rw [hwhole, onBoundary_iff, Text.isBoundary_append (Nat.le_of_add_le_add_left hhi)]

/-- An edit can be made in a part exactly if it can be made in the whole and lies within the
part. -/
theorem not_misplaced_within_iff :
    ¬ e.Misplaced text before.byteLength ↔
      ¬ e.Misplaced (before ++ (text ++ after)) 0 ∧
        before.byteLength ≤ e.start ∧ e.stop ≤ before.byteLength + text.byteLength := by
  simp only [Misplaced, not_or, not_not, Nat.not_lt, Nat.zero_le, true_and, Nat.zero_add,
    Text.byteLength_append]
  constructor
  · rintro ⟨hordered, ⟨hlo, hhi⟩, hstart, hstop⟩
    rw [← onBoundary_within_iff after hlo (by omega)] at hstart
    rw [← onBoundary_within_iff after (by omega) hhi] at hstop
    exact ⟨⟨hordered, by omega, hstart, hstop⟩, hlo, hhi⟩
  · rintro ⟨⟨hordered, -, hstart, hstop⟩, hlo, hhi⟩
    rw [onBoundary_within_iff after hlo (by omega)] at hstart
    rw [onBoundary_within_iff after (by omega) hhi] at hstop
    exact ⟨hordered, ⟨hlo, hhi⟩, hstart, hstop⟩

/-- A limit behind all edits selects the same of them. -/
theorem selects_iff_of_le {limit limit' : Nat} {seen applied : List Edit}
    (h : ∀ e ∈ seen, e.stop ≤ limit) (hle : limit ≤ limit') :
    Selects limit' seen applied ↔ Selects limit seen applied := by
  rw [selects_iff, selects_iff, kept_of_le h hle]

end Edit

/-! ## Edits within a node -/

namespace Node

open Edit (startsLater Misplaced Selects Splices)

variable {n : Node} {edits : List Edit}

/-- Edits can be committed to a node exactly if each can be made in the source and lies within the
node. -/
theorem exists_commitEdits_iff (h : n.tree.Nested) (hn : n.id < n.tree.size) :
    (∃ out, n.commitEdits edits = .ok out) ↔
      ∀ e ∈ edits, ¬ e.Misplaced n.tree.source 0 ∧ n.start ≤ e.start ∧ e.stop ≤ n.stop := by
  obtain ⟨m, hm⟩ := h.slice n.id hn
  obtain ⟨before, after, hsource, hbefore, hstop⟩ := source_eq hm
  simp only [commitEdits_eq_ok_iff]
  rw [Edit.exists_commit_iff, hsource, ← hstop, ← hbefore]
  exact forall₂_congr fun e _ => Edit.not_misplaced_within_iff

/-- Of edits within a node, the same are selected for the node and for the tree. -/
theorem selects_iff_within {seen applied : List Edit} (hstop : n.stop ≤ n.tree.source.byteLength)
    (hwithin : ∀ e ∈ edits, e.stop ≤ n.stop) (hseen : seen <+: edits.mergeSort startsLater) :
    Selects n.stop seen applied ↔ Selects n.tree.source.byteLength seen applied := by
  refine (Edit.selects_iff_of_le (fun e he => ?_) hstop).symm
  exact hwithin e (List.mem_mergeSort.mp (hseen.subset he))

/-- Edits can be committed to a node exactly if each can be made in the source and lies within the
node. Then they can be committed to the tree as well, which returns what stands before the node,
what the node returns, and what stands behind it. Looked at one after the other, the same edits are
made and the same are dropped in both; each text is its source with these edits spliced in. -/
theorem commitEdits_within_iff (h : n.tree.Nested) (hn : n.id < n.tree.size) (edits : List Edit) :
    ((∃ out, n.commitEdits edits = .ok out) ↔
      ∀ e ∈ edits, ¬ e.Misplaced n.tree.source 0 ∧ n.start ≤ e.start ∧ e.stop ≤ n.stop) ∧
    ∀ out, n.commitEdits edits = .ok out →
      ∃ before after, n.tree.source = before ++ (n.text ++ after) ∧ before.byteLength = n.start ∧
        n.tree.commitEdits edits = .ok (before ++ (out ++ after)) ∧
        (∃ applied, Selects n.stop (edits.mergeSort startsLater) applied ∧
          Splices n.start applied n.text out ∧
          Splices 0 applied n.tree.source (before ++ (out ++ after))) ∧
        ∀ seen, seen <+: edits.mergeSort startsLater → ∀ applied,
          Selects n.stop seen applied ↔ Selects n.tree.source.byteLength seen applied := by
  refine ⟨exists_commitEdits_iff h hn, fun out hout => ?_⟩
  have hwithin : ∀ e ∈ edits, e.stop ≤ n.stop := fun e he =>
    ((exists_commitEdits_iff h hn).mp ⟨out, hout⟩ e he).2.2
  obtain ⟨m, hm⟩ := h.slice n.id hn
  obtain ⟨before, after, hsource, hbefore, hstop⟩ := source_eq hm
  have hend : n.stop ≤ n.tree.source.byteLength := by
    rw [hsource, Text.byteLength_append, Text.byteLength_append]
    omega
  have hnode := commitEdits_eq_ok_iff.mp hout
  have htree : Edit.commit n.tree.source 0 edits = .ok (before ++ (out ++ after)) := by
    rw [hsource]
    exact Edit.commit_within (hbefore ▸ hnode)
  have hsame : ∀ seen, seen <+: edits.mergeSort startsLater → ∀ applied,
      Selects n.stop seen applied ↔ Selects n.tree.source.byteLength seen applied :=
    fun seen hseen applied => selects_iff_within hend hwithin hseen
  refine ⟨before, after, hsource, hbefore, Tree.commitEdits_eq_ok_iff.mpr htree, ?_, hsame⟩
  -- what the tree applies is what the node applies, since both select from the same list
  obtain ⟨applied, hselects, hsplices⟩ := Edit.exists_splices_of_commit hnode
  obtain ⟨applied', hselects', hsplices'⟩ := Edit.exists_splices_of_commit htree
  rw [hstop] at hselects
  rw [Nat.zero_add, ← hsame _ (List.prefix_refl _)] at hselects'
  obtain rfl : applied = applied' :=
    (Edit.selects_iff.mp hselects).trans (Edit.selects_iff.mp hselects').symm
  exact ⟨applied, hselects, hsplices, hsplices'⟩

end Node

/-! ## A word between others -/

/-- Three words; the first and the last are written with two bytes. -/
def umlauts : Tree where
  stamp := 0
  language := .parsing fun _ => none
  source := "ä bc ö".toList
  records :=
    [.plain none "words" true 0 8, .plain (some 0) "word" true 0 2,
      .plain (some 0) "word" true 3 5, .plain (some 0) "word" true 6 8]

/-- An edit that covers the word in the middle, and two that are looked at before it or after it. -/
def crossingEdits : List Edit := [⟨3, 5, ['X']⟩, ⟨4, 4, ['Y']⟩, ⟨3, 4, ['Z']⟩]

/-- Of the edits of the word in the middle, the one that covers it is dropped. -/
theorem commitEdits_umlauts :
    umlauts.WellFormed ∧ Node.commitEdits ⟨umlauts, 2⟩ crossingEdits = .ok "ZYc".toList ∧
      ∃ before after, umlauts.source = before ++ (Node.text ⟨umlauts, 2⟩ ++ after) ∧
        umlauts.commitEdits crossingEdits = .ok (before ++ ("ZYc".toList ++ after)) := by
  have hwell : umlauts.WellFormed := by decide
  have hout : Node.commitEdits ⟨umlauts, 2⟩ crossingEdits = .ok "ZYc".toList := by rfl
  obtain ⟨before, after, hsource, -, htree, -⟩ :=
    (Node.commitEdits_within_iff (n := ⟨umlauts, 2⟩) hwell.toNested (by decide)
      crossingEdits).2 _ hout
  exact ⟨hwell, hout, before, after, hsource, htree⟩

end StructuralSearch
