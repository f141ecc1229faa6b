import StructuralSearch.Proofs.Evaluation.Growth
import StructuralSearch.Proofs.Pattern

/-!
# Declared and bound variables

The metavariables of a pattern are read off its source. Those that a match binds are read off the
tree of the code with placeholders: a node stands for a variable if its whole text is a placeholder.
The parser may join a placeholder with the letters around it, and the source may contain a
placeholder as it is; then what is declared is not what is bound.

* `Shape.Compared`: the pattern nodes that a comparison looks at.
* `Pattern.Declares`: the source has a metavariable of the name.
* `Pattern.HasPlaceholder`: a node that is compared is a placeholder of the name.

Results:
1. `Shape.mem_captures_iff`: a comparison binds the variables of the nodes that it looks at.
2. `Pattern.mem_names_iff`: the names that are bound when a pattern has matched.
3. `Pattern.names_eq_declared_iff`: when these are the names of the metavariables.
4. `placeholder_in_literal`: a pattern with no metavariables that binds a name.
-/

namespace StructuralSearch

namespace Shape

variable {x : Char} {level : Strictness} {g : Shape} {gs : List Shape} {v : String × Arity}

/-- The pattern nodes that a comparison looks at: the first one, and below a node that stands for no
variable the children that are not left without a partner, and what is looked at below them. -/
inductive Compared (x : Char) (level : Strictness) : Shape → Shape → Prop
  | self (g : Shape) : Compared x level g g
  | child {g c d : Shape} : g.metavariable? x = none → c ∈ g.children →
      c.isLeft x level = false → Compared x level c d → Compared x level g d

theorem eq_of_compared {d : Shape} (h : g.metavariable? x = some v)
    (hd : Compared x level g d) : d = g := by
  cases hd with
  | self => rfl
  | child hnone _ _ _ => cases h.symm.trans hnone

theorem mem_capturesAmong :
    v ∈ capturesAmong x level gs ↔ ∃ g ∈ gs, g.isLeft x level = false ∧ v ∈ g.captures x level := by
  induction gs with
  | nil => simp [capturesAmong]
  | cons g gs ih =>
    cases hl : g.isLeft x level with
    | true => simp [capturesAmong_cons_left hl, ih, hl]
    | false => simp [capturesAmong_cons_kept hl, ih, hl]

/-- A comparison binds the variables of the pattern nodes that it looks at. -/
theorem mem_captures_iff :
    v ∈ g.captures x level ↔
      v.1 ≠ Metavariable.anonymous ∧ ∃ d, Compared x level g d ∧ d.metavariable? x = some v := by
  induction g using Shape.induct with
  | node kind named text goals ih =>
    set g : Shape := .node kind named text goals
    cases hm : g.metavariable? x with
    | some w =>
      rw [ captures_of_metavariable? hm, Metavariable.captured]
      constructor
      · intro hv
        split at hv
        · exact absurd hv List.not_mem_nil
        · next hw =>
          obtain rfl := List.mem_singleton.mp hv
          exact ⟨hw, g, .self g, hm⟩
      · rintro ⟨ha, d, hd, hv⟩
        rw [eq_of_compared hm hd] at hv
        obtain rfl := Option.some.inj (hm.symm.trans hv)
        rw [if_neg ha]
        exact List.mem_cons_self
    | none =>
      rw [captures_of_branch hm, mem_capturesAmong]
      constructor
      · rintro ⟨c, hc, hl, hv⟩
        obtain ⟨ha, d, hd, hdv⟩ := (ih c hc).mp hv
        exact ⟨ha, d, .child hm hc hl hd, hdv⟩
      · rintro ⟨ha, d, hd, hdv⟩
        cases hd with
        | self => cases hm.symm.trans hdv
        | @child _ c _ _ hc hl hd => exact ⟨c, hc, hl, (ih c hc).mpr ⟨ha, d, hd, hdv⟩⟩

end Shape

theorem NameMap.mem_names_iff {α : Type} {m : NameMap α} {name : String} :
    name ∈ m.names ↔ (m.find? name).isSome = true := by
  rw [isSome_find?_iff, names, List.mem_map]

namespace Env

/-- The names that are bound in the map of an arity. -/
def names (e : Env) : Arity → List String
  | .single => e.single.names
  | .multiple => e.multiple.names

theorem mem_names_iff {e : Env} {name : String} {arity : Arity} :
    name ∈ e.names arity ↔ e.Binds (name, arity) := by
  rw [binds_iff]
  cases arity with
  | single => exact NameMap.mem_names_iff
  | multiple => exact NameMap.mem_names_iff

end Env

namespace Pattern

variable {language : Language} {source : Text} {p : Pattern} {n : Node} {e : Env} {name : String}
  {arity : Arity}

/-- The source has a metavariable of this name, and the name captures. -/
def Declares (p : Pattern) (name : String) (arity : Arity) : Prop :=
  name ≠ Metavariable.anonymous ∧ ∃ var ∈ p.metavariables, var.name = name ∧ var.arity = arity

/-- The whole text of a pattern node that is compared is the placeholder of this name. -/
def HasPlaceholder (p : Pattern) (name : String) (arity : Arity) : Prop :=
  ∃ g, Shape.Compared p.language.expando p.strictness p.root.shape g ∧
    g.text = Placeholder.encode p.language.expando name arity

theorem mem_captures_iff :
    (name, arity) ∈ p.captures ↔ name ≠ Metavariable.anonymous ∧ Metavariable.IsName name ∧
      p.HasPlaceholder name arity := by
  rw [captures, Shape.mem_captures_iff]
  constructor
  · rintro ⟨ha, g, hg, hv⟩
    obtain ⟨hname, htext⟩ := Placeholder.decode?_eq_some_iff.mp hv
    exact ⟨ha, hname, g, hg, htext⟩
  · rintro ⟨ha, hname, g, hg, htext⟩
    exact ⟨ha, g, hg, Placeholder.decode?_eq_some_iff.mpr ⟨hname, htext⟩⟩

/-- When a compiled pattern has matched, the names that are bound are those of placeholders that
make up the whole text of a node that is compared. They are the names of the metavariables that the
source declares exactly if each of these, and no other name, has such a placeholder. -/
theorem names_eq_declared_iff (h : compile language source = .ok p) {level : Strictness}
    (he : (p.withStrictness level).matchNode n .empty = some e) :
    (∀ arity name, name ∈ e.names arity ↔ name ≠ Metavariable.anonymous ∧
      Metavariable.IsName name ∧ (p.withStrictness level).HasPlaceholder name arity) ∧
    ((∀ arity name, name ∈ e.names arity ↔ p.Declares name arity) ↔
      ∀ arity name, name ≠ Metavariable.anonymous → Metavariable.IsName name →
        ((p.withStrictness level).HasPlaceholder name arity ↔ p.Declares name arity)) := by
  have hnames : ∀ arity name, name ∈ e.names arity ↔ name ≠ Metavariable.anonymous ∧
      Metavariable.IsName name ∧ (p.withStrictness level).HasPlaceholder name arity := by
    intro arity name
    rw [Env.mem_names_iff, binds_of_matchNode he, mem_captures_iff]
    exact or_iff_right (Env.not_binds_empty _)
  refine ⟨hnames, ?_⟩
  constructor
  · intro hall arity name ha hname
    rw [← hall, hnames]
    exact ⟨fun hp => ⟨ha, hname, hp⟩, fun hp => hp.2.2⟩
  · intro hall arity name
    rw [hnames]
    constructor
    · rintro ⟨ha, hname, hp⟩
      exact (hall arity name ha hname).mp hp
    · intro hd
      obtain ⟨ha, var, hvar, rfl, rfl⟩ := hd
      have hname := isName_of_compileIn h hvar
      exact ⟨ha, hname, (hall var.arity var.name ha hname).mpr ⟨ha, var, hvar, rfl, rfl⟩⟩

end Pattern

/-! ## Examples -/

/-- A language in which every text is one word. -/
def wholeWords : Language := .parsing fun text =>
  some [.plain none "word" true 0 (Text.byteLength text)]

/-- A text of this language. -/
def wholeWord (text : String) : Tree :=
  ⟨0, wholeWords, text.toList, [.plain none "word" true 0 (Text.byteLength text.toList)]⟩

/-- A metavariable on its own is declared, and it is bound. -/
theorem names_eq_declared_word :
    ∃ p e, Pattern.compile wholeWords "$A".toList = .ok p ∧
      (p.withStrictness .cst).matchNode (wholeWord "f").root .empty = some e ∧
      ∀ arity name, name ∈ e.names arity ↔ p.Declares name arity := by
  have hcompiled : ((Pattern.compile wholeWords "$A".toList).toOption.any fun p =>
      decide (p.metavariables = [⟨"A", .single, 0⟩] ∧
        p.root.shape.metavariable? p.language.expando = some ("A", .single)) &&
      ((p.withStrictness .cst).matchNode (wholeWord "f").root .empty).isSome) = true := by
    decide +kernel
  obtain ⟨p, hp, hcheck⟩ := Pattern.exists_compile hcompiled
  obtain ⟨hdecided, hfound⟩ := Bool.and_eq_true_iff.mp hcheck
  obtain ⟨hvars, hroot⟩ := of_decide_eq_true hdecided
  obtain ⟨e, he⟩ := Option.isSome_iff_exists.mp hfound
  refine ⟨p, e, hp, he, (Pattern.names_eq_declared_iff hp he).2.mpr ?_⟩
  intro arity name _ hname
  constructor
  · rintro ⟨g, hg, htext⟩
    -- below a placeholder nothing is compared
    obtain rfl := Shape.eq_of_compared hroot hg
    have hread := Placeholder.decode?_eq_some_iff.mpr ⟨hname, htext⟩
    cases hroot.symm.trans hread
    exact ⟨by decide, ⟨"A", .single, 0⟩, by simp [hvars], rfl, rfl⟩
  · rintro ⟨-, var, hvar, rfl, rfl⟩
    rw [hvars, List.mem_singleton] at hvar
    subst hvar
    exact ⟨_, .self _, (Placeholder.decode?_eq_some_iff.mp hroot).2⟩

/-- The source of a pattern has no metavariables, but it reads like a placeholder: the match binds
its name. In another pattern the parser joins the placeholder with a letter before it: the
metavariable is declared, and a match binds nothing. -/
theorem placeholder_in_literal :
    (∃ p e, Pattern.compile wholeWords "__HEDDLE_MV_A__".toList = .ok p ∧ p.isLiteral = true ∧
      p.matchNode (wholeWord "f").root .empty = some e ∧ e.names .single = ["A"]) ∧
    ∃ p e, Pattern.compile wholeWords "f$A".toList = .ok p ∧ p.Declares "A" .single ∧
      p.matchNode (wholeWord "f__HEDDLE_MV_A__").root .empty = some e ∧ e.names .single = [] := by
  constructor
  · have hcompiled : ((Pattern.compile wholeWords "__HEDDLE_MV_A__".toList).toOption.any fun p =>
        p.isLiteral && (p.matchNode (wholeWord "f").root .empty).any fun e =>
          e.names .single == ["A"]) = true := by decide +kernel
    obtain ⟨p, hp, hcheck⟩ := Pattern.exists_compile hcompiled
    obtain ⟨hliteral, hfound⟩ := Bool.and_eq_true_iff.mp hcheck
    obtain ⟨e, he, hnames⟩ := (Option.any_eq_true _ _).mp hfound
    exact ⟨p, e, hp, hliteral, he, beq_iff_eq.mp hnames⟩
  · have hcompiled : ((Pattern.compile wholeWords "f$A".toList).toOption.any fun p =>
        decide (p.metavariables = [⟨"A", .single, 1⟩]) &&
        (p.matchNode (wholeWord "f__HEDDLE_MV_A__").root .empty).any fun e =>
          e.names .single == []) = true := by decide +kernel
    obtain ⟨p, hp, hcheck⟩ := Pattern.exists_compile hcompiled
    obtain ⟨hdecided, hfound⟩ := Bool.and_eq_true_iff.mp hcheck
    obtain ⟨e, he, hnames⟩ := (Option.any_eq_true _ _).mp hfound
    have hvars := of_decide_eq_true hdecided
    refine ⟨p, e, hp, ⟨by decide, ⟨"A", .single, 1⟩, ?_, rfl, rfl⟩, he, beq_iff_eq.mp hnames⟩
    rw [hvars]
    exact List.mem_singleton_self _

end StructuralSearch
