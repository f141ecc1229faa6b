import StructuralSearch.Proofs.Evaluation.Bindings
import StructuralSearch.Proofs.Text
import StructuralSearch.Proofs.Tree.Layout

/-!
# What evaluations capture

An evaluation that starts without bindings captures nodes of the tree only: named nodes, and runs of
neighbors among the children of a node. Since siblings do not overlap in a well-formed tree, the
text of a run is a slice of the source.

* `Tree.HasRun`: a run of neighbors in a tree.
* `Rule.CapturesAlone`: the names of patterns that are nothing but a placeholder for a run.
* `Env.CapturesIn`: what names may have captured in a tree.

Results:
1. `Env.capturesIn_of_gains`: contributing patterns capture nodes and runs of the tree.
2. `Tree.HasRun.pairwise`: the nodes of a run stand one after another.
3. `Env.capturedText_eq`: the text of a run is the slice of the source from its first node to its
   last.
4. `captures_of_evaluate`: what an evaluation captures, and the texts of its runs.
-/

namespace StructuralSearch

/-- The node is one of the listed nodes of the tree. -/
def Node.ListedIn (t : Tree) (n : Node) : Prop := n.tree = t ∧ n.id < t.size

/-- Nodes that stand next to each other among the children of a node of the tree; perhaps none. -/
def Tree.HasRun (t : Tree) (run : List Node) : Prop :=
  ∃ parent, Node.ListedIn t parent ∧ run <:+: parent.children

/-- The rule has a contributing pattern that is nothing but a placeholder for a run of this name. -/
def Rule.CapturesAlone (utils : NameMap Rule) (rule : Rule) (name : String) : Prop :=
  ∃ p, rule.Contributes utils p ∧
    p.root.shape.metavariable? p.language.expando = some (name, .multiple)

namespace Env

variable {t : Tree} {alone : String → Prop} {e e' b : Env} {name : String}

/-- Names have captured named nodes of the tree and runs of neighbors in it, and the anonymous name
has captured nothing. Only some names may have captured a node as a run of its own. -/
structure CapturesIn (t : Tree) (alone : String → Prop) (e : Env) : Prop where
  single : ∀ x ∈ e.single, x.1 ≠ Metavariable.anonymous ∧ x.2.ListedIn t ∧ x.2.isNamed = true
  multiple : ∀ x ∈ e.multiple, x.1 ≠ Metavariable.anonymous ∧
    (t.HasRun x.2 ∨ alone x.1 ∧ ∃ n, n.ListedIn t ∧ x.2 = [n])

theorem capturesIn_empty : Env.empty.CapturesIn t alone :=
  ⟨fun _ hx => absurd hx List.not_mem_nil, fun _ hx => absurd hx List.not_mem_nil⟩

theorem CapturesIn.bindSingle {n : Node} (h : e.CapturesIn t alone) (hn : n.ListedIn t)
    (hnamed : n.isNamed = true) (hb : e.bindSingle name n = some e') : e'.CapturesIn t alone := by
  rcases bindSingle_eq_some_iff.mp hb with ⟨-, rfl⟩ | ⟨hname, ⟨_, -, -, rfl⟩ | ⟨-, rfl⟩⟩
  · exact h
  · exact h
  · refine { h with single := fun x hx => ?_ }
    rcases NameMap.mem_insert hx with rfl | hx
    · exact ⟨hname, hn, hnamed⟩
    · exact h.single x hx

theorem CapturesIn.bindMultiple {run : List Node} (h : e.CapturesIn t alone)
    (hrun : t.HasRun run ∨ alone name ∧ ∃ n, n.ListedIn t ∧ run = [n])
    (hb : e.bindMultiple name run = some e') : e'.CapturesIn t alone := by
  rcases bindMultiple_eq_some_iff.mp hb with ⟨-, rfl⟩ | ⟨hname, ⟨_, -, -, rfl⟩ | ⟨-, rfl⟩⟩
  · exact h
  · exact h
  · refine { h with multiple := fun x hx => ?_ }
    rcases NameMap.mem_insert hx with rfl | hx
    · exact ⟨hname, hrun⟩
    · exact h.multiple x hx

theorem CapturesIn.merge (h : e.CapturesIn t alone) (hb : b.CapturesIn t alone)
    (hm : e.merge b = some e') : e'.CapturesIn t alone := by
  rw [merge_eq_some hm]
  exact
    { single := List.forall_mem_append.mpr
        ⟨h.single, fun x hx => hb.single x (List.mem_of_mem_filter hx)⟩
      multiple := List.forall_mem_append.mpr
        ⟨h.multiple, fun x hx => hb.multiple x (List.mem_of_mem_filter hx)⟩ }

/-- Contributing patterns capture named nodes of the tree and runs of neighbors, and a pattern that
is nothing but a placeholder for a run captures the node it is compared with. -/
theorem capturesIn_of_gains {utils : NameMap Rule} {rule : Rule} {id : Nat} (hid : id < t.size)
    (he : e.CapturesIn t (rule.CapturesAlone utils)) (h : Env.Gains utils rule ⟨t, id⟩ e e') :
    e'.CapturesIn t (rule.CapturesAlone utils) := by
  have hlisted : ∀ m, Node.OfTree ⟨t, id⟩ m → m.ListedIn t := fun m hm => hm.listed hid
  induction h with
  | refl => exact he
  | tail _ hstep ih =>
    obtain ⟨p, hp, m, hm, hmatch⟩ := hstep
    obtain ⟨b, hb, hmerge⟩ := Option.bind_eq_some_iff.mp hmatch
    refine ih.merge (Pattern.bindings?_keeps ⟨?_, ?_⟩ hm capturesIn_empty ?_ hb) hmerge
    · intro name c e e' hc hnamed hb he
      exact he.bindSingle (hlisted c hc) hnamed hb
    · intro name parent run e e' hparent hrun hb he
      exact he.bindMultiple (Or.inl ⟨parent, hlisted parent hparent, hrun⟩) hb
    · intro name e' hroot hb
      exact capturesIn_empty.bindMultiple (Or.inr ⟨⟨p, hp, hroot⟩, m, hlisted m hm, rfl⟩) hb

end Env

/-! ## The texts of runs -/

section Runs

variable {t : Tree} {run : List Node}

theorem Node.ListedIn.exists_slice {n : Node} (h : t.Nested) (hn : n.ListedIn t) :
    ∃ text, t.source.slice? n.start n.stop = some text := by
  obtain ⟨rfl, hid⟩ := hn
  exact h.slice n.id hid

theorem Tree.HasRun.listed (hrun : t.HasRun run) : ∀ n ∈ run, n.ListedIn t := by
  obtain ⟨parent, ⟨rfl, -⟩, hbelow⟩ := hrun
  intro n hn
  obtain ⟨id, hid, rfl⟩ := List.mem_map.mp (hbelow.subset hn)
  exact ⟨rfl, (Tree.mem_childIds hid).2⟩

/-- The nodes of a run stand one after another in the source. -/
theorem Tree.HasRun.pairwise (h : t.WellFormed) (hrun : t.HasRun run) :
    run.Pairwise fun a b => a.id < b.id ∧ a.stop ≤ b.start := by
  obtain ⟨parent, ⟨rfl, -⟩, hbelow⟩ := hrun
  exact (Node.pairwise_children h).sublist hbelow.sublist

/-- From the first to the last of nodes that stand one after another, there is a slice of the
source. -/
theorem Tree.exists_slice_of_pairwise (h : t.Nested) {first : Node} {rest : List Node}
    (hlisted : ∀ n ∈ first :: rest, n.ListedIn t)
    (hpairwise : (first :: rest).Pairwise fun a b => a.id < b.id ∧ a.stop ≤ b.start) :
    ∃ text, t.source.slice? first.start
      ((first :: rest).getLast (List.cons_ne_nil first rest)).stop = some text := by
  have hlast := List.getLast_mem (List.cons_ne_nil first rest)
  generalize (first :: rest).getLast _ = last at hlast ⊢
  obtain ⟨m, hm⟩ := (hlisted first List.mem_cons_self).exists_slice h
  obtain ⟨k, hk⟩ := (hlisted last hlast).exists_slice h
  have hle : first.start ≤ last.stop := by
    rcases List.mem_cons.mp hlast with rfl | hrest
    · exact Text.le_of_slice? hm
    · have hapart := (List.pairwise_cons.mp hpairwise).1 last hrest
      have hfirst := Text.le_of_slice? hm
      have hspan := Text.le_of_slice? hk
      omega
  exact Text.exists_slice? (Text.isBoundary_start hm) (Text.isBoundary_stop hk) hle

/-- The text of a name that has captured only a run is empty for an empty run, and else the slice of
the source from the first node to the last. -/
theorem Env.capturedText_eq {e : Env} {name : String} (h : t.Nested)
    (hsingle : e.node? name = none) (hrun : e.multiple.find? name = some run)
    (hlisted : ∀ n ∈ run, n.ListedIn t)
    (hpairwise : run.Pairwise fun a b => a.id < b.id ∧ a.stop ≤ b.start) :
    (run = [] ∧ e.capturedText name = some []) ∨
      ∃ first last text, run.head? = some first ∧ run.getLast? = some last ∧
        t.source.slice? first.start last.stop = some text ∧ e.capturedText name = some text := by
  have htext : e.capturedText name = some (Env.runText run) := by
    rw [capturedText, hsingle, hrun]
    rfl
  cases run with
  | nil => exact Or.inl ⟨rfl, htext⟩
  | cons first rest =>
    obtain ⟨text, hslice⟩ := Tree.exists_slice_of_pairwise h hlisted hpairwise
    have htree : first.tree = t := (hlisted first List.mem_cons_self).1
    refine Or.inr ⟨first, _, text, rfl, List.getLast?_eq_some_getLast _, hslice, ?_⟩
    rw [htext, runText, htree, hslice, Option.getD_some]

end Runs

/-- Evaluating a rule at a node of a well-formed tree, without bindings before, captures named nodes
of the tree, and runs of neighbors among the children of a node in the order of the source; a
contributing pattern that is nothing but a placeholder for a run captures a node on its own. The
anonymous name captures nothing. The text of a name that has captured only a run is empty for an
empty run, and else the slice of the source from the first node to the last. -/
theorem captures_of_evaluate {utils : NameMap Rule} {rule : Rule} {t : Tree} {id : Nat} {e : Env}
    (h : t.WellFormed) (hid : id < t.size)
    (heval : rule.evaluate utils ⟨t, id⟩ .empty = .accepted e) :
    (∀ x ∈ e.single, x.1 ≠ "_" ∧ x.2.ListedIn t ∧ x.2.isNamed = true) ∧
    (∀ x ∈ e.multiple, x.1 ≠ "_" ∧
      (t.HasRun x.2 ∨ rule.CapturesAlone utils x.1 ∧ ∃ n, n.ListedIn t ∧ x.2 = [n]) ∧
      x.2.Pairwise fun a b => a.id < b.id ∧ a.stop ≤ b.start) ∧
    ∀ name run, e.node? name = none → e.multiple.find? name = some run →
      (run = [] ∧ e.capturedText name = some []) ∨
        ∃ first last text, run.head? = some first ∧ run.getLast? = some last ∧
          t.source.slice? first.start last.stop = some text ∧ e.capturedText name = some text := by
  have hcaptures : e.CapturesIn t (rule.CapturesAlone utils) :=
    Env.capturesIn_of_gains hid Env.capturesIn_empty (Rule.gains_of_evaluate heval)
  -- a node on its own is a run of nodes that stand one after another, too
  have hrun : ∀ x ∈ e.multiple, (∀ n ∈ x.2, n.ListedIn t) ∧
      x.2.Pairwise fun a b => a.id < b.id ∧ a.stop ≤ b.start := by
    intro x hx
    rcases (hcaptures.multiple x hx).2 with hrun | ⟨-, n, hn, heq⟩
    · exact ⟨hrun.listed, hrun.pairwise h⟩
    · rw [heq]
      exact ⟨List.forall_mem_singleton.mpr hn, List.pairwise_singleton _ n⟩
  refine ⟨hcaptures.single, fun x hx => ?_, fun name run hsingle hname => ?_⟩
  · obtain ⟨hname, hx'⟩ := hcaptures.multiple x hx
    exact ⟨hname, hx', (hrun x hx).2⟩
  · obtain ⟨hlisted, hpairwise⟩ := hrun _ (NameMap.mem_of_find? hname)
    exact Env.capturedText_eq h.toNested hsingle hname hlisted hpairwise

/-- In `[a [b c a]]`, the text of the run of `[$X [$$$R $X]]` is the slice from `b` to `c`. -/
theorem captures_lastIsFirst :
    ∃ e first last, Rule.evaluate [] (.pattern lastIsFirst) lastIsFirstText.root .empty =
        .accepted e ∧
      (e.run "R").head? = some first ∧ (e.run "R").getLast? = some last ∧
      first.text = ['b'] ∧ last.text = ['c'] ∧
      e.capturedText "R" = lastIsFirstText.source.slice? first.start last.stop := by
  have hfound : ((Rule.evaluate [] (.pattern lastIsFirst) lastIsFirstText.root .empty).env?.any
      fun e => (e.node? "R").isNone && (e.multiple.find? "R").any
        fun run => run.map Node.text == [['b'], ['c']]) = true := by decide +kernel
  obtain ⟨e, henv, hcheck⟩ := (Option.any_eq_true _ _).mp hfound
  obtain ⟨hsingle, hbound⟩ := Bool.and_eq_true_iff.mp hcheck
  obtain ⟨run, hrun, htexts⟩ := (Option.any_eq_true _ _).mp hbound
  have heval := Verdict.env?_eq_some_iff.mp henv
  have hwf : lastIsFirstText.WellFormed := by decide
  obtain ⟨-, -, htext⟩ := captures_of_evaluate hwf (by decide) heval
  have htexts := beq_iff_eq.mp htexts
  rcases htext "R" run (Option.isNone_iff_eq_none.mp hsingle) hrun with
    ⟨rfl, -⟩ | ⟨first, last, text, hhead, hlast, hslice, htext⟩
  · simp at htexts
  · have hr : e.run "R" = run := by rw [Env.run, hrun, Option.getD_some]
    obtain ⟨b, rest, rfl, hb, hrest⟩ := List.map_eq_cons_iff.mp htexts
    obtain ⟨c, rest, rfl, hc, hnil⟩ := List.map_eq_cons_iff.mp hrest
    obtain rfl := List.map_eq_nil_iff.mp hnil
    obtain rfl : b = first := Option.some.inj hhead
    obtain rfl : c = last := Option.some.inj hlast
    exact ⟨e, b, c, heval, hr ▸ rfl, hr ▸ rfl, hb, hc, htext.trans hslice.symm⟩

end StructuralSearch
