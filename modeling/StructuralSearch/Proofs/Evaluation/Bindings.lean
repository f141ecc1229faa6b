import StructuralSearch.Proofs.Evaluation.Contribution
import StructuralSearch.Proofs.Matching.Invariants
import StructuralSearch.Proofs.Matching.Variables
import StructuralSearch.Proofs.NameMap

/-!
# Bindings that stay

Evaluating a rule never takes a binding back and never binds a name anew: whatever was bound before
is bound to the same nodes afterwards, and what is new stands behind it. So merging the bindings
from before with those from afterwards gives the latter.

* `Env.Distinct`: each name is bound once in a map.
* `Env.Extends`: the second environment has the bindings of the first, and perhaps others of new
  names.

Results:
1. `Env.extends_of_matchNode`: the match of a pattern extends what was bound.
2. `Env.distinct_of_matchNode`: and it binds each name once.
3. `Env.Extends.merge`: an environment merges with one that extends it to the latter.
4. `merge_of_evaluate`: what evaluating a rule returns extends what was bound.
-/

namespace StructuralSearch

theorem Verdict.env?_eq_some_iff {v : Verdict} {e : Env} : v.env? = some e ↔ v = .accepted e := by
  cases v <;> simp [env?]

theorem Node.same_self (n : Node) : n.same n = true := by simp [Node.same]

theorem Env.sameRun_self (ns : List Node) : Env.sameRun ns ns = true := by
  induction ns with
  | nil => rfl
  | cons n ns ih =>
    simp only [Env.sameRun, BEq.rfl, Bool.true_and] at ih
    simp [Env.sameRun, Node.same_self, ih]

namespace Env

variable {e e' : Env} {p : Pattern} {n : Node}

/-! ## Each name once -/

/-- Each name is bound once in each map. Environments that are built from the empty one are so. -/
structure Distinct (e : Env) : Prop where
  single : e.single.names.Nodup
  multiple : e.multiple.names.Nodup
  transformed : e.transformed.names.Nodup

theorem distinct_empty : Env.empty.Distinct := ⟨List.nodup_nil, List.nodup_nil, List.nodup_nil⟩

theorem Distinct.bindSingle {name : String} (hd : e.Distinct) (h : e.bindSingle name n = some e') :
    e'.Distinct := by
  rcases bindSingle_eq_some_iff.mp h with ⟨-, rfl⟩ | ⟨-, ⟨_, -, -, rfl⟩ | ⟨-, rfl⟩⟩
  · exact hd
  · exact hd
  · exact { hd with single := NameMap.nodup_insert hd.single }

theorem Distinct.bindMultiple {name : String} {ns : List Node} (hd : e.Distinct)
    (h : e.bindMultiple name ns = some e') : e'.Distinct := by
  rcases bindMultiple_eq_some_iff.mp h with ⟨-, rfl⟩ | ⟨-, ⟨_, -, -, rfl⟩ | ⟨-, rfl⟩⟩
  · exact hd
  · exact hd
  · exact { hd with multiple := NameMap.nodup_insert hd.multiple }

theorem distinct_of_bindings? (h : p.bindings? n = some e) : e.Distinct :=
  Pattern.bindings?_keeps ⟨fun _ _ hb hd => hd.bindSingle hb, fun _ _ hb hd => hd.bindMultiple hb⟩
    (Node.ofTree_self n) distinct_empty (fun _ _ _ hb => distinct_empty.bindMultiple hb) h

/-! ## Growth -/

/-- The second environment has the bindings of the first, and perhaps others of new names. -/
structure Extends (e e' : Env) : Prop where
  single : e.single.Extends e'.single
  multiple : e.multiple.Extends e'.multiple
  transformed : e'.transformed = e.transformed

theorem Extends.refl (e : Env) : e.Extends e := ⟨.refl _, .refl _, rfl⟩

theorem Extends.trans {e'' : Env} (h : e.Extends e') (k : e'.Extends e'') : e.Extends e'' :=
  ⟨h.single.trans k.single, h.multiple.trans k.multiple, k.transformed.trans h.transformed⟩

theorem transformed_of_bindings? (h : p.bindings? n = some e) : e.transformed = [] :=
  Matching.transformed_of_node h

/-- The match of a pattern extends what was bound. -/
theorem extends_of_matchNode (h : p.matchNode n e = some e') : e.Extends e' := by
  obtain ⟨b, hb, hmerge⟩ := Option.bind_eq_some_iff.mp h
  rw [merge_eq_some hmerge]
  refine ⟨NameMap.extends_union _ _, NameMap.extends_union _ _, ?_⟩
  rw [transformed_of_bindings? hb]
  rfl

/-- The match of a pattern binds each name once. -/
theorem distinct_of_matchNode (hd : e.Distinct) (h : p.matchNode n e = some e') :
    e'.Distinct := by
  obtain ⟨b, hb, hmerge⟩ := Option.bind_eq_some_iff.mp h
  have hbd := distinct_of_bindings? hb
  have htransformed : e'.transformed.names.Nodup :=
    (extends_of_matchNode h).transformed ▸ hd.transformed
  refine ⟨?_, ?_, htransformed⟩ <;> rw [merge_eq_some hmerge]
  · exact NameMap.nodup_union hd.single hbd.single
  · exact NameMap.nodup_union hd.multiple hbd.multiple

theorem extends_of_gains {utils : NameMap Rule} {rule : Rule} {origin : Node}
    (h : Env.Gains utils rule origin e e') : e.Extends e' := by
  induction h with
  | refl => exact .refl _
  | tail _ hstep ih =>
    obtain ⟨p, -, m, -, hm⟩ := hstep
    exact ih.trans (extends_of_matchNode hm)

theorem distinct_of_gains {utils : NameMap Rule} {rule : Rule} {origin : Node} (hd : e.Distinct)
    (h : Env.Gains utils rule origin e e') : e'.Distinct := by
  induction h with
  | refl => exact hd
  | tail _ hstep ih =>
    obtain ⟨p, -, m, -, hm⟩ := hstep
    exact distinct_of_matchNode ih hm

theorem Extends.within (h : e.Extends e') : e.Within e'.assignment :=
  ⟨fun _ _ hn => h.single.find? hn, fun _ _ hns => h.multiple.find? hns⟩

/-- An environment merges with one that extends it to the latter. -/
theorem Extends.merge (hd : e.Distinct) (h : e.Extends e') : e.merge e' = some e' := by
  have hsingle : NameMap.compatible Node.same e.single e'.single = true :=
    NameMap.compatible_of_extends Node.same_self hd.single h.single
  have hmultiple : NameMap.compatible sameRun e.multiple e'.multiple = true :=
    NameMap.compatible_of_extends sameRun_self hd.multiple h.multiple
  rw [Env.merge, hsingle, hmultiple, Bool.and_self, if_pos rfl,
    NameMap.union_eq_of_extends h.single, NameMap.union_eq_of_extends h.multiple, h.transformed,
    NameMap.override_self hd.transformed, ← h.transformed]

theorem Distinct.same_self (hd : e.Distinct) : e.same e = true := by
  rw [same, NameMap.same_self Node.same_self hd.single,
    NameMap.same_self sameRun_self hd.multiple, NameMap.same_self (fun _ => BEq.rfl) hd.transformed]
  rfl

end Env

/-- A rule that accepts returns what was bound before, to the same nodes, and the same results of
transforms. So the bindings from before merge with those that it returns, and what comes of it are
the latter; and these again bind each name once. -/
theorem merge_of_evaluate {utils : NameMap Rule} {rule : Rule} {n : Node} {e e' : Env}
    (hd : e.Distinct) (h : rule.evaluate utils n e = .accepted e') :
    e.Within e'.assignment ∧ e'.transformed = e.transformed ∧
      e.merge e' = some e' ∧ e'.same e' = true ∧ e'.Distinct := by
  have hgains := Rule.gains_of_evaluate h
  have hextends := Env.extends_of_gains hgains
  have hd' := Env.distinct_of_gains hd hgains
  exact ⟨hextends.within, hextends.transformed, hextends.merge hd, hd'.same_self, hd'⟩

/-! ## An example -/

/-- The pattern `$B`. -/
def anyNode : Pattern where
  source := "$B".toList
  language := wholeWords
  metavariables := [⟨"B", .single, 0⟩]
  tree := wholeWord "__HEDDLE_MV_B__"
  rootId := 0
  strictness := .smart

/-- The word that `A` has captured. -/
def firstCaptured : Env := ⟨[("A", ⟨lastIsFirstText, 2⟩)], [], []⟩

/-- What has been captured as `A` stays captured when the list behind it is captured as `B`. -/
theorem merge_of_anyNode :
    ∃ e', Rule.evaluate [] (.relation .precedes (.pattern anyNode) .toEnd none) ⟨lastIsFirstText, 2⟩
        firstCaptured = .accepted e' ∧
      e'.names .single = ["A", "B"] ∧ firstCaptured.merge e' = some e' := by
  have hfound : ((Rule.evaluate [] (.relation .precedes (.pattern anyNode) .toEnd none)
      ⟨lastIsFirstText, 2⟩ firstCaptured).env?.any fun e' => e'.names .single == ["A", "B"]) =
      true := by decide +kernel
  obtain ⟨e', henv, hnames⟩ := (Option.any_eq_true _ _).mp hfound
  have h := Verdict.env?_eq_some_iff.mp henv
  exact ⟨e', h, beq_iff_eq.mp hnames,
    (merge_of_evaluate ⟨by decide, by decide, by decide⟩ h).2.2.1⟩

end StructuralSearch
