import StructuralSearch.Proofs.Evaluation.Reach

/-!
# What comparisons keep

A comparison binds named nodes and runs of consecutive children, all in the tree of the candidate;
only a pattern that is nothing but a placeholder for a run binds the candidate as a run on its own.
What these bindings keep holds of whatever a pattern binds.

* `Matching.Kept`: a property of environments that is kept when such nodes and runs are bound.

Results:
1. `Matching.node_keeps`: what is kept by bindings is kept by comparisons.
2. `Pattern.bindings?_keeps`: it holds of what a pattern binds.
-/

namespace StructuralSearch

namespace Matching

variable {x : Char} {level : Strictness} {origin : Node} {P : Env → Prop}

/-- A property of environments that is kept when named nodes of a tree and runs of consecutive
children are bound. -/
structure Kept (origin : Node) (P : Env → Prop) : Prop where
  single : ∀ {name c e e'}, Node.OfTree origin c → c.isNamed = true →
    e.bindSingle name c = some e' → P e → P e'
  run : ∀ {name parent run e e'}, Node.OfTree origin parent → run <:+: parent.children →
    e.bindMultiple name run = some e' → P e → P e'

theorem chooses_keeps (hP : Kept origin P) {parent : Node} (hparent : Node.OfTree origin parent)
    {gs : List Shape} {cs : List Node} {e e' : Env} (hcs : cs <:+ parent.children)
    (ih : ∀ g ∈ gs, ∀ c e e', g.isRun x = false → Node.OfTree origin c →
      node x level g c e = some e' → P e → P e')
    (h : Chooses x level gs cs e e') (he : P e) : P e' := by
  induction h with
  | done _ => exact he
  | @run g gs name run rest e e₁ e' hm hb _ ihs =>
    have hrun : run <:+: parent.children :=
      (List.prefix_append run rest).isInfix.trans hcs.isInfix
    have hrest : rest <:+ parent.children := (List.suffix_append run rest).trans hcs
    exact ihs hrest (fun g hg => ih g (List.mem_cons_of_mem _ hg)) (hP.run hparent hrun hb he)
  | leave _ _ _ ihs => exact ihs hcs (fun g hg => ih g (List.mem_cons_of_mem _ hg)) he
  | @pair g gs passed c rest e e₁ e' hr _ _ hn _ ihs =>
    have hc : c ∈ parent.children := hcs.subset (by simp)
    have hrest : rest <:+ parent.children :=
      ((List.suffix_cons c rest).trans (List.suffix_append passed _)).trans hcs
    exact ihs hrest (fun g hg => ih g (List.mem_cons_of_mem _ hg))
      (ih g List.mem_cons_self c e e₁ hr (Node.ofTree_children hparent hc) hn he)

/-- What is kept by bindings is kept by comparisons. -/
theorem node_keeps (hP : Kept origin P) {g : Shape} {c : Node} {e e' : Env}
    (hr : g.isRun x = false) (hc : Node.OfTree origin c) (h : node x level g c e = some e')
    (he : P e) : P e' := by
  induction g using Shape.induct generalizing c e e' with
  | node kind named text goals ih =>
    rcases node_eq_some_iff.mp h with ⟨name, -, hn, hb⟩ | ⟨name, hm, -⟩ | ⟨-, -, -, -, rfl⟩ |
      ⟨-, -, -, hs⟩
    · exact hP.single hc hn hb he
    · simp [Shape.isRun_of_metavariable? hm] at hr
    · exact he
    · exact chooses_keeps hP hc (List.suffix_refl _) (fun g hg c e e' hr hc => ih g hg hr hc)
        (chooses_of_sequence hs) he

end Matching

namespace Pattern

/-- What is kept by bindings holds of whatever a pattern binds, if it is kept as well when a pattern
that is a placeholder for a run binds the node on its own. -/
theorem bindings?_keeps {P : Env → Prop} {origin : Node} (hP : Matching.Kept origin P) {p : Pattern}
    {n : Node} {e : Env} (hn : Node.OfTree origin n) (hempty : P .empty)
    (halone : ∀ name e', p.root.shape.metavariable? p.language.expando = some (name, .multiple) →
      Env.empty.bindMultiple name [n] = some e' → P e')
    (h : p.bindings? n = some e) : P e := by
  cases hr : p.root.shape.isRun p.language.expando with
  | false => exact Matching.node_keeps hP hr hn h hempty
  | true =>
    obtain ⟨name, hm⟩ := Shape.metavariable?_of_isRun hr
    rcases Matching.node_eq_some_iff.mp h with ⟨_, hm', -, -⟩ | ⟨_, hm', hb⟩ | ⟨hm', -⟩ | ⟨hm', -⟩
    · cases hm.symm.trans hm'
    · exact halone _ e hm' hb
    · cases hm.symm.trans hm'
    · cases hm.symm.trans hm'

end Pattern

end StructuralSearch
