import StructuralSearch.Engine.Query
import StructuralSearch.Proofs.Commit
import StructuralSearch.Proofs.Evaluation.Document
import StructuralSearch.Proofs.Search

/-!
# Rewriting a source

Edits can be committed to the root of a tree or to the tree. A root covers what the parser makes it
cover, which leaves out blanks before the first token. So the two agree only for a root that covers
the source; elsewhere the text of the root is all that is left of the source.

* `Tree.Tries`: the places at which a search for all matches asks the matcher.

Results:
1. `Node.exists_commitEdits`: edits that fit into the text of a node are committed to it.
2. `Tree.verdict_of_tries`: if the evaluations end, a place that is tried is found or rejected.
3. `Tree.commitEdits_root_iff`: when committing to the root is committing to the tree, and what a
   rewriting with a document returns.
4. `leading_blank_is_lost`: a source that loses its first line although nothing matches.
-/

namespace StructuralSearch

/-! ## Committing to a node -/

namespace Node

/-- What a node covers stands in the source behind a part as long as the start of the node. -/
theorem source_eq {n : Node} {m : Text} (h : n.tree.source.slice? n.start n.stop = some m) :
    ∃ before after, n.tree.source = before ++ (n.text ++ after) ∧ before.byteLength = n.start ∧
      n.start + n.text.byteLength = n.stop := by
  obtain ⟨before, after, hsource, hstart, hstop⟩ := Text.slice?_eq_some_iff.mp h
  have htext : n.text = m := by rw [text, h, Option.getD_some]
  rw [htext]
  exact ⟨before, after, hsource, hstart, by rw [← hstart, hstop]⟩

/-- The edit that replaces a node fits into the text of a node around it. -/
theorem exists_fitsIn_replace {n c : Node} (htree : c.tree = n.tree) {m k : Text}
    (hn : n.tree.source.slice? n.start n.stop = some m)
    (hc : c.tree.source.slice? c.start c.stop = some k) (hstart : n.start ≤ c.start)
    (hstop : c.stop ≤ n.stop) (new : Text) :
    ∃ f : Edit, c.replace new = f.rebase n.start ∧ f.FitsIn n.text := by
  obtain ⟨before, after, hsource, hbefore, hlen⟩ := source_eq hn
  have hordered : c.start ≤ c.stop := by
    obtain ⟨_, _, -, hi, hj⟩ := Text.slice?_eq_some_iff.mp hc
    omega
  have hboundary : ∀ i, n.tree.source.isBoundary (n.start + i) = true → i ≤ n.text.byteLength →
      n.text.isBoundary i = true := by
    intro i hi hle
    rwa [hsource, ← hbefore, Text.isBoundary_append hle] at hi
  rw [htree] at hc
  have hlo : c.start - n.start ≤ n.text.byteLength := by omega
  have hhi : c.stop - n.start ≤ n.text.byteLength := by omega
  refine ⟨⟨c.start - n.start, c.stop - n.start, new⟩, ?_, ?_, hhi, ?_, ?_⟩
  · simp only [replace, Edit.rebase, Edit.mk.injEq, and_true]
    omega
  · exact Nat.sub_le_sub_right hordered n.start
  · refine hboundary _ ?_ hlo
    rw [Nat.add_sub_cancel' hstart]
    exact Text.isBoundary_start hc
  · refine hboundary _ ?_ hhi
    rw [Nat.add_sub_cancel' (Nat.le_trans hstart hordered)]
    exact Text.isBoundary_stop hc

/-- Edits that fit into the text of a node are committed to it. -/
theorem exists_commitEdits {n : Node} {edits : List Edit}
    (h : ∀ e ∈ edits, ∃ f : Edit, e = f.rebase n.start ∧ f.FitsIn n.text) :
    ∃ out, n.commitEdits edits = .ok out := by
  obtain ⟨located, heq, hfits⟩ := Edit.exists_located h
  rw [commitEdits, Edit.commit_eq_ok_iff.mpr ⟨located, heq, hfits, rfl⟩]
  exact ⟨_, rfl⟩

theorem commitEdits_eq_ok_iff {n : Node} {edits : List Edit} {out : Text} :
    n.commitEdits edits = .ok out ↔ Edit.commit n.text n.start edits = .ok out := by
  rw [commitEdits]
  cases Edit.commit n.text n.start edits <;> simp [Except.mapError]

end Node

namespace Tree

variable {t : Tree}

theorem commitEdits_eq_ok_iff {edits : List Edit} {out : Text} :
    t.commitEdits edits = .ok out ↔ Edit.commit t.source 0 edits = .ok out := by
  rw [commitEdits]
  cases Edit.commit t.source 0 edits <;> simp [Except.mapError]

theorem commit_nil (text : Text) (base : Nat) : Edit.commit text base [] = .ok text := by
  have hall : text.takeBytes? text.byteLength = some text :=
    Text.takeBytes?_eq_some_iff.mpr ⟨[], by simp, rfl⟩
  refine Edit.commit_eq_ok_iff.mpr ⟨[], rfl, by simp, ?_⟩
  simp [Edit.descending, Edit.kept, Edit.splice, hall]

/-- Committing to the root is committing to the tree exactly if the root covers the source. -/
theorem commitEdits_root_eq_iff :
    (∀ edits, t.root.commitEdits edits = t.commitEdits edits) ↔
      t.root.start = 0 ∧ t.root.text = t.source := by
  constructor
  · intro h
    have htext : t.root.text = t.source := by
      have hnil := h []
      rw [Node.commitEdits_eq_ok_iff.mpr (commit_nil _ _),
        commitEdits_eq_ok_iff.mpr (commit_nil _ _)] at hnil
      exact Except.ok.inj hnil
    refine ⟨?_, htext⟩
    -- the empty insertion at the very beginning lies in the source, so it has to lie in the root
    have hfits : Edit.FitsIn t.source ⟨0, 0, []⟩ :=
      ⟨Nat.le_refl _, Nat.zero_le _, by simp [Text.isBoundary], by simp [Text.isBoundary]⟩
    have hcommit := Edit.commit_eq_ok_iff.mpr ⟨[⟨0, 0, []⟩],
      show [⟨0, 0, []⟩] = [Edit.rebase 0 ⟨0, 0, []⟩] from rfl, by simpa using hfits, rfl⟩
    have hroot := (h [⟨0, 0, []⟩]).trans (commitEdits_eq_ok_iff.mpr hcommit)
    obtain ⟨located, heq, -, -⟩ := Edit.commit_eq_ok_iff.mp (Node.commitEdits_eq_ok_iff.mp hroot)
    cases located with
    | nil => simp at heq
    | cons f located =>
      have hstart := congrArg Edit.start (List.cons.inj heq).1
      simp only [Edit.rebase] at hstart
      omega
  · rintro ⟨hstart, htext⟩ edits
    rw [Node.commitEdits, commitEdits, hstart, htext]

/-- The edits of a rewriting are committed to the root, and to the tree with what lies around the
root kept. -/
theorem exists_commitEdits_root (h : t.Nested) (m : Matcher) (fix : Match → Option Edit)
    (hfix : ∀ x ∈ t.root.findAll m, ∀ e, fix x = some e → ∃ new, e = x.node.replace new) :
    ∃ out before after, t.root.commitEdits ((t.root.findAll m).filterMap fix) = .ok out ∧
      t.source = before ++ (t.root.text ++ after) ∧ before.byteLength = t.root.start ∧
      t.commitEdits ((t.root.findAll m).filterMap fix) = .ok (before ++ (out ++ after)) := by
  have hsize := h.nonempty
  obtain ⟨rootText, hroot⟩ := h.slice 0 hsize
  have hedits : ∀ e ∈ (t.root.findAll m).filterMap fix,
      ∃ f : Edit, e = f.rebase t.root.start ∧ f.FitsIn t.root.text := by
    intro e he
    obtain ⟨x, hx, hxe⟩ := List.mem_filterMap.mp he
    obtain ⟨new, rfl⟩ := hfix x hx e hxe
    obtain ⟨htree, -, hid, -⟩ := mem_findAllFrom hx
    have hlt : x.node.id < t.size := Nat.lt_of_lt_of_le hid (subtreeEnd_le hsize)
    obtain ⟨⟨tree, id⟩, env⟩ := x
    obtain rfl : tree = t := htree
    obtain ⟨k, hk⟩ := h.slice id hlt
    obtain ⟨hstart, hstop⟩ := within_root h hlt
    exact @Node.exists_fitsIn_replace tree.root ⟨tree, id⟩ rfl _ _ hroot hk hstart hstop new
  obtain ⟨out, hout⟩ := Node.exists_commitEdits hedits
  obtain ⟨before, after, hsource, hbefore, -⟩ := @Node.source_eq t.root _ hroot
  refine ⟨out, before, after, hout, hsource, hbefore, ?_⟩
  rw [commitEdits_eq_ok_iff]
  show Edit.commit t.source 0 _ = _
  rw [show t.source = before ++ (t.root.text ++ after) from hsource]
  refine Edit.commit_within ?_
  rw [hbefore]
  exact Node.commitEdits_eq_ok_iff.mp hout

/-- A rewriting commits to the root. -/
theorem rewrite_eq_ok_iff {d : RuleDocument} {c : CompiledRule} (hfix : d.fix.isSome = true)
    (hc : CompiledRule.compile t.language d = .ok c) {out : Text} {count : Nat} :
    t.rewrite d = .ok ⟨out, count⟩ ↔
      t.root.commitEdits ((t.root.findAll c.matchNode).filterMap c.fixEdit) = .ok out ∧
        count = ((t.root.findAll c.matchNode).filterMap c.fixEdit).length := by
  have hsome : d.fix.isNone = false := by simpa using hfix
  have hrun : t.rewrite d = (StructuralSearch.rewrite t.root c.matchNode c.fixEdit).mapError
      Failure.ofSyntaxError := by
    rw [rewrite, hsome, hc]
    rfl
  rw [hrun, StructuralSearch.rewrite]
  cases t.root.commitEdits ((t.root.findAll c.matchNode).filterMap c.fixEdit) with
  | error e => simp [bind, Except.bind, Except.mapError]
  | ok out' => simp [bind, Except.bind, Except.mapError, pure, Except.pure, @eq_comm _ out' out,
      @eq_comm _ count]

/-- A search for all matches tries the places that are not below a match. -/
def Tries (t : Tree) (m : Matcher) (id : Nat) : Prop :=
  id < t.root.subtreeEnd ∧ ∀ x ∈ t.root.findAll m, x.node.id < id → t.subtreeEnd x.node.id ≤ id

/-- What matches at a place that is tried is found. -/
theorem mem_findAll_of_tries {m : Matcher} {id : Nat} {e : Env} (h : t.Tries m id)
    (hmatch : m ⟨t, id⟩ .empty = some e) : ⟨⟨t, id⟩, e⟩ ∈ t.root.findAll m := by
  obtain ⟨hid, hbehind⟩ := h
  obtain ⟨x, hx, hle, hlt⟩ := exists_mem_findAllFrom (Nat.zero_le id) hid
    (Option.isSome_of_eq_some hmatch)
  have hsame : x.node.id = id := by
    rcases Nat.lt_or_eq_of_le hle with hbelow | hsame
    · exact absurd hlt (Nat.not_lt_of_le (hbehind x hx hbelow))
    · exact hsame
  obtain ⟨htree, -, -, hfound⟩ := mem_findAllFrom hx
  obtain ⟨⟨tree, i⟩, env⟩ := x
  obtain rfl : tree = t := htree
  obtain rfl : i = id := hsame
  obtain rfl : e = env := Option.some.inj (hmatch.symm.trans hfound)
  exact hx

/-- If no evaluation of a document comes back to itself, each place that is tried is accepted, and
so found, or rejected. -/
theorem verdict_of_tries {c : CompiledRule}
    (hends : ∀ id, t.Tries c.matchNode id → ¬ c.Returns ⟨t, id⟩ .empty) {id : Nat}
    (h : t.Tries c.matchNode id) :
    (∃ x ∈ t.root.findAll c.matchNode, x.node = ⟨t, id⟩ ∧
      c.verdict ⟨t, id⟩ .empty = .accepted x.env) ∨ c.verdict ⟨t, id⟩ .empty = .rejected := by
  cases hverdict : c.verdict ⟨t, id⟩ .empty with
  | accepted e =>
    have hmatch : c.matchNode ⟨t, id⟩ .empty = some e := by
      rw [c.matchNode_eq, hverdict]
      rfl
    exact Or.inl ⟨_, mem_findAll_of_tries h hmatch, rfl, rfl⟩
  | rejected => exact Or.inr rfl
  | unsettled => exact absurd (CompiledRule.verdict_eq_unsettled_iff.mp hverdict) (hends id h)

/-- Committing to the root is committing to the tree exactly if the root covers the source. In any
case a rewriting with a document, whose evaluations at the places that are tried all end, finds
exactly the places that are accepted, and rejects the others. It succeeds and returns the rewritten
text of the root: with what stands around the root in the source, that is the whole source with the
same edits committed, and what was there before is rewritten inside matches only. If nothing matches,
the text of the root is returned, which is the source if the root covers it. -/
theorem commitEdits_root_iff (t : Tree) :
    ((∀ edits, t.root.commitEdits edits = t.commitEdits edits) ↔
      t.root.start = 0 ∧ t.root.text = t.source) ∧
    (t.Nested → ∀ d c, d.fix.isSome = true → CompiledRule.compile t.language d = .ok c →
      (∀ id, t.Tries c.matchNode id → ¬ c.Returns ⟨t, id⟩ .empty) →
      (∀ id, t.Tries c.matchNode id →
        (∃ x ∈ t.root.findAll c.matchNode, x.node = ⟨t, id⟩ ∧
          c.verdict ⟨t, id⟩ .empty = .accepted x.env) ∨
        c.verdict ⟨t, id⟩ .empty = .rejected) ∧
      ∃ r before after, t.rewrite d = .ok r ∧
        t.source = before ++ (t.root.text ++ after) ∧ before.byteLength = t.root.start ∧
        t.commitEdits ((t.root.findAll c.matchNode).filterMap c.fixEdit) =
          .ok (before ++ (r.output ++ after)) ∧
        Text.DiffersWithin (fun i j => ∃ x ∈ t.root.findAll c.matchNode,
          x.node.start = i ∧ x.node.stop = j) 0 t.source (before ++ (r.output ++ after)) ∧
        (t.root.findAll c.matchNode = [] →
          r.output = t.root.text ∧ (r.output = t.source ↔ before = [] ∧ after = []))) := by
  refine ⟨commitEdits_root_eq_iff, fun h d c hfix hc hends =>
    ⟨fun id => verdict_of_tries hends, ?_⟩⟩
  have hreplace : ∀ x ∈ t.root.findAll c.matchNode, ∀ e, c.fixEdit x = some e →
      ∃ new, e = x.node.replace new := by
    intro x _ e he
    obtain ⟨template, -, rfl⟩ := Option.map_eq_some_iff.mp he
    exact ⟨_, rfl⟩
  obtain ⟨out, before, after, hroot, hsource, hbefore, htree⟩ :=
    exists_commitEdits_root h c.matchNode c.fixEdit hreplace
  refine ⟨⟨out, _⟩, before, after, (rewrite_eq_ok_iff hfix hc).mpr ⟨hroot, rfl⟩, hsource, hbefore,
    htree, ?_, fun hnone => ?_⟩
  · refine (Edit.differsWithin_of_commit (commitEdits_eq_ok_iff.mp htree)).mono ?_
    rintro i j ⟨e, he, hstart, hstop⟩
    obtain ⟨x, hx, hxe⟩ := List.mem_filterMap.mp he
    obtain ⟨new, rfl⟩ := hreplace x hx e hxe
    exact ⟨x, hx, by simpa [Node.replace] using hstart, by simpa [Node.replace] using hstop⟩
  · rw [hnone] at hroot
    have hnil := Node.commitEdits_eq_ok_iff.mpr (commit_nil t.root.text t.root.start)
    obtain rfl : t.root.text = out := Except.ok.inj (hnil.symm.trans hroot)
    refine ⟨rfl, ⟨fun heq => ?_, ?_⟩⟩
    · have hlen := congrArg Text.byteLength (heq.trans hsource)
      simp only [Text.byteLength_append] at hlen
      exact ⟨Text.eq_nil_of_byteLength (by omega), Text.eq_nil_of_byteLength (by omega)⟩
    · rintro ⟨rfl, rfl⟩
      simpa using hsource.symm

end Tree

/-! ## A source that begins with a blank line -/

/-- Two words after a blank line, which the root leaves out. -/
def leadingBlank : Tree where
  stamp := 0
  language := .parsing fun _ => none
  source := "\na b".toList
  records :=
    [.plain none "words" true 1 4, .plain (some 0) "word" true 1 2,
      .plain (some 0) "word" true 3 4]

/-- The document that replaces every node of a kind. -/
def replaceKind (kind : String) : RuleDocument :=
  { RuleDocument.ofRule (.only (.kind kind)) with fix := some "c" }

theorem nested_leadingBlank : leadingBlank.Nested := by
  have hsize : leadingBlank.size = 3 := rfl
  refine ⟨by decide, fun id hpos hid => ?_, fun id hid => ?_, fun id p hid hp => ?_⟩
  · obtain rfl | rfl : id = 1 ∨ id = 2 := by omega
    · exact ⟨0, rfl, by decide⟩
    · exact ⟨0, rfl, by decide⟩
  · obtain rfl | rfl | rfl : id = 0 ∨ id = 1 ∨ id = 2 := by omega
    · exact ⟨_, rfl⟩
    · exact ⟨_, rfl⟩
    · exact ⟨_, rfl⟩
  · obtain rfl | rfl | rfl : id = 0 ∨ id = 1 ∨ id = 2 := by omega
    · cases hp
    · cases hp
      decide
    · cases hp
      decide

/-- A document whose rule asks for a kind never comes back to an evaluation. -/
theorem not_returns_kind {c : CompiledRule} {kind : String} (hrule : c.rule = .kind kind)
    (hnone : c.constraints = []) (n : Node) (e : Env) : ¬ c.Returns n e := by
  rw [← CompiledRule.verdict_eq_unsettled_iff, CompiledRule.verdict, hrule, hnone, Rule.evaluate,
    Rule.evaluateWithin_eq_judge, Rule.judge, Verdict.ofBool]
  split <;> simp [Verdict.andThen, CompiledRule.judgeConstraints]

theorem compile_replaceWord :
    ∃ c, CompiledRule.compile leadingBlank.language (replaceKind "word") = .ok c ∧
      c.rule = .kind "word" ∧ c.constraints = [] := by
  have hok : ((CompiledRule.compile leadingBlank.language (replaceKind "word")).toOption.any fun c =>
      (c.rule matches .kind "word") && c.constraints.isEmpty) = true := by decide +kernel
  obtain ⟨c, hc, hcheck⟩ := Except.exists_of_any_toOption hok
  obtain ⟨hrule, hnone⟩ := Bool.and_eq_true_iff.mp hcheck
  refine ⟨c, hc, ?_, List.isEmpty_iff.mp hnone⟩
  split at hrule
  · assumption
  · cases hrule

/-- Where the words are replaced, the blank line is missing from what is returned. -/
theorem rewrite_leadingBlank :
    ∃ c r before after,
      CompiledRule.compile leadingBlank.language (replaceKind "word") = .ok c ∧
      (∀ id, leadingBlank.Tries c.matchNode id → ¬ c.Returns ⟨leadingBlank, id⟩ .empty) ∧
      leadingBlank.rewrite (replaceKind "word") = .ok r ∧
      leadingBlank.source = before ++ (leadingBlank.root.text ++ after) ∧
      leadingBlank.commitEdits ((leadingBlank.root.findAll c.matchNode).filterMap c.fixEdit) =
        .ok (before ++ (r.output ++ after)) := by
  obtain ⟨c, hc, hrule, hnone⟩ := compile_replaceWord
  have hends : ∀ id, leadingBlank.Tries c.matchNode id → ¬ c.Returns ⟨leadingBlank, id⟩ .empty :=
    fun id _ => not_returns_kind hrule hnone ⟨leadingBlank, id⟩ .empty
  obtain ⟨-, r, before, after, hr, hsource, -, htree, -⟩ :=
    leadingBlank.commitEdits_root_iff.2 nested_leadingBlank (replaceKind "word") c rfl hc hends
  exact ⟨c, r, before, after, hc, hends, hr, hsource, htree⟩

/-- Committing nothing to the root loses the blank line, and so does a rewriting that matches
nothing. -/
theorem leading_blank_is_lost :
    leadingBlank.root.commitEdits [] ≠ leadingBlank.commitEdits [] ∧
    ∃ c r, CompiledRule.compile leadingBlank.language (replaceKind "number") = .ok c ∧
      leadingBlank.root.findAll c.matchNode = [] ∧
      leadingBlank.rewrite (replaceKind "number") = .ok r ∧ r.output ≠ leadingBlank.source := by
  refine ⟨fun h => absurd (Except.ok.inj h) (by decide), ?_⟩
  have hnone : (match CompiledRule.compile leadingBlank.language (replaceKind "number") with
      | .ok c => (leadingBlank.root.findAll c.matchNode).isEmpty
      | .error _ => false) = true := by decide +kernel
  have hlost : (match leadingBlank.rewrite (replaceKind "number") with
      | .ok r => r.output != leadingBlank.source
      | .error _ => false) = true := by decide +kernel
  split at hnone
  · next c hc =>
    split at hlost
    · next r hr =>
      exact ⟨c, r, hc, List.isEmpty_iff.mp hnone, hr, by simpa using hlost⟩
    · simp at hlost
  · simp at hnone

end StructuralSearch
