import Mathlib.Logic.Relation
import StructuralSearch.Proofs.Matching.Completeness

/-!
# How bindings grow

Along an evaluation bindings only grow, each time by what a pattern binds; and a pattern always
binds the same variables. So bindings that have grown have more patterns with all variables bound,
unless nothing was added.

Results:
1. `Pattern.binds_of_matchNode`: the variables that are bound when a pattern has matched.
2. `Pattern.eq_of_matchNode`: a match adds nothing if all variables of the pattern are bound.
3. `Env.eq_of_grows`: bindings that have grown, and not in the number of patterns, are the same.
-/

namespace StructuralSearch

/-! ## Merging -/

namespace Env

variable {a b e : Env}

theorem binds_iff (v : String × Arity) :
    e.Binds v ↔ match v with
      | (name, .single) => (e.single.find? name).isSome = true
      | (name, .multiple) => (e.multiple.find? name).isSome = true := by
  obtain ⟨name, _ | _⟩ := v <;> simp [Binds, looks_single, looks_multiple]

theorem merge_eq_some (h : a.merge b = some e) :
    e = ⟨a.single.union b.single, a.multiple.union b.multiple,
      a.transformed.override b.transformed⟩ := by
  rw [merge] at h
  split at h
  · exact (Option.some.inj h).symm
  · simp at h

end Env

namespace NameMap

variable {α : Type} {a b : NameMap α} {name : String}

theorem isSome_find?_iff : (a.find? name).isSome = true ↔ ∃ e ∈ a, e.1 = name := by
  induction a with
  | nil => simp [find?]
  | cons e a ih =>
    obtain ⟨k, v⟩ := e
    by_cases h : name = k
    · subst h
      simp [find?]
    · have hk : ¬ k = name := fun hk => h hk.symm
      simp only [find?, List.lookup_cons, beq_eq_false_iff_ne.mpr h] at ih ⊢
      simp [ih, hk]

theorem isSome_find?_union :
    ((a.union b).find? name).isSome = true ↔
      (a.find? name).isSome = true ∨ (b.find? name).isSome = true := by
  simp only [isSome_find?_iff, union, List.mem_append, List.mem_filter]
  constructor
  · rintro ⟨e, h | ⟨h, -⟩, rfl⟩
    · exact Or.inl ⟨e, h, rfl⟩
    · exact Or.inr ⟨e, h, rfl⟩
  · rintro (⟨e, h, rfl⟩ | ⟨e, h, rfl⟩)
    · exact ⟨e, Or.inl h, rfl⟩
    · by_cases hc : contains a e.1 = true
      · obtain ⟨f, hf, heq⟩ := isSome_find?_iff.mp hc
        exact ⟨f, Or.inl hf, heq⟩
      · exact ⟨e, Or.inr ⟨h, by simpa using hc⟩, rfl⟩

/-- Nothing is added to a map that has all names. -/
theorem union_eq_self (h : ∀ name, (b.find? name).isSome = true → (a.find? name).isSome = true) :
    a.union b = a := by
  have hnil : b.filter (fun e => !contains a e.1) = [] := by
    rw [List.filter_eq_nil_iff]
    intro e he
    have hb : (b.find? e.1).isSome = true := isSome_find?_iff.mpr ⟨e, he, rfl⟩
    simp [contains, h e.1 hb]
  rw [union, hnil, List.append_nil]

end NameMap

/-! ## Patterns -/

theorem Env.transformed_of_bindSingle {e e' : Env} {name : String} {n : Node}
    (h : e.bindSingle name n = some e') : e'.transformed = e.transformed := by
  rcases Env.bindSingle_eq_some_iff.mp h with ⟨-, rfl⟩ | ⟨-, ⟨_, -, -, rfl⟩ | ⟨-, rfl⟩⟩ <;> rfl

theorem Env.transformed_of_bindMultiple {e e' : Env} {name : String} {ns : List Node}
    (h : e.bindMultiple name ns = some e') : e'.transformed = e.transformed := by
  rcases Env.bindMultiple_eq_some_iff.mp h with ⟨-, rfl⟩ | ⟨-, ⟨_, -, -, rfl⟩ | ⟨-, rfl⟩⟩ <;> rfl

namespace Matching

variable {x : Char} {level : Strictness}

theorem transformed_of_chooses {gs : List Shape} {cs : List Node} {e e' : Env}
    (ih : ∀ g ∈ gs, ∀ c e e', node x level g c e = some e' → e'.transformed = e.transformed)
    (h : Chooses x level gs cs e e') : e'.transformed = e.transformed := by
  induction h with
  | done _ => rfl
  | run _ he _ ihs =>
    exact (ihs fun g hg => ih g (List.mem_cons_of_mem _ hg)).trans
      (Env.transformed_of_bindMultiple he)
  | leave _ _ _ ihs => exact ihs fun g hg => ih g (List.mem_cons_of_mem _ hg)
  | pair _ _ _ he _ ihs =>
    exact (ihs fun g hg => ih g (List.mem_cons_of_mem _ hg)).trans
      (ih _ List.mem_cons_self _ _ _ he)

/-- A comparison leaves the results of transforms as they are. -/
theorem transformed_of_node {g : Shape} {c : Node} {e e' : Env}
    (h : node x level g c e = some e') : e'.transformed = e.transformed := by
  induction g using Shape.induct generalizing c e e' with
  | node kind named text goals ih =>
    rcases node_eq_some_iff.mp h with ⟨name, -, -, hb⟩ | ⟨name, -, hb⟩ | ⟨-, -, -, -, rfl⟩ |
      ⟨-, -, -, hs⟩
    · exact Env.transformed_of_bindSingle hb
    · exact Env.transformed_of_bindMultiple hb
    · rfl
    · exact transformed_of_chooses (fun g hg c e e' => ih g hg) (chooses_of_sequence hs)

end Matching

namespace Pattern

variable {p : Pattern} {n : Node} {e e' : Env}

/-- The variables that a pattern binds. -/
def captures (p : Pattern) : List (String × Arity) :=
  p.root.shape.captures p.language.expando p.strictness

theorem binds_of_bindings? (h : p.bindings? n = some e) (v : String × Arity) :
    e.Binds v ↔ v ∈ p.captures := by
  rw [Matching.node_binds h v]
  simp [Env.not_binds_empty, captures]

/-- When a pattern has matched, its variables are bound, and those that were bound before. -/
theorem binds_of_matchNode (h : p.matchNode n e = some e') (v : String × Arity) :
    e'.Binds v ↔ e.Binds v ∨ v ∈ p.captures := by
  obtain ⟨b, hb, hmerge⟩ := Option.bind_eq_some_iff.mp h
  rw [← binds_of_bindings? hb, Env.merge_eq_some hmerge]
  obtain ⟨name, _ | _⟩ := v <;> simp [Env.binds_iff, NameMap.isSome_find?_union]

/-- A match adds nothing if all variables of the pattern are bound. -/
theorem eq_of_matchNode (h : p.matchNode n e = some e') (hbound : ∀ v ∈ p.captures, e.Binds v) :
    e' = e := by
  obtain ⟨b, hb, hmerge⟩ := Option.bind_eq_some_iff.mp h
  have hall : ∀ v, b.Binds v → e.Binds v := fun v hv => hbound v ((binds_of_bindings? hb v).mp hv)
  have hsingle : e.single.union b.single = e.single :=
    NameMap.union_eq_self fun name hn =>
      (Env.binds_iff (name, .single)).mp (hall _ ((Env.binds_iff (name, .single)).mpr hn))
  have hmultiple : e.multiple.union b.multiple = e.multiple :=
    NameMap.union_eq_self fun name hn =>
      (Env.binds_iff (name, .multiple)).mp (hall _ ((Env.binds_iff (name, .multiple)).mpr hn))
  have htransformed : e.transformed.override b.transformed = e.transformed := by
    rw [Matching.transformed_of_node hb]
    rfl
  rw [Env.merge_eq_some hmerge, hsingle, hmultiple, htransformed]

end Pattern

/-! ## Growth -/

namespace Env

/-- The bindings become others by matches of some patterns. -/
def Grows (patterns : List Pattern) : Env → Env → Prop :=
  Relation.ReflTransGen fun e e' => ∃ p ∈ patterns, ∃ n, p.matchNode n e = some e'

/-- Whether all variables of a pattern are bound. -/
def covers (e : Env) (p : Pattern) : Bool := p.captures.all fun v => (e.looks v).isSome

/-- The number of patterns whose variables are all bound. -/
def stage (patterns : List Pattern) (e : Env) : Nat := patterns.countP e.covers

variable {patterns : List Pattern} {e e' : Env} {p : Pattern} {n : Node}

theorem covers_iff : e.covers p = true ↔ ∀ v ∈ p.captures, e.Binds v := by
  simp [covers, Binds]

theorem covers_of_matchNode {q : Pattern} (h : p.matchNode n e = some e')
    (hq : e.covers q = true) : e'.covers q = true :=
  covers_iff.mpr fun v hv =>
    (Pattern.binds_of_matchNode h v).mpr (Or.inl (covers_iff.mp hq v hv))

/-- After a match more patterns have all variables bound, unless nothing was added. -/
theorem stage_lt_of_matchNode (hp : p ∈ patterns) (h : p.matchNode n e = some e') :
    e' = e ∨ stage patterns e < stage patterns e' := by
  by_cases hc : e.covers p = true
  · exact Or.inl (Pattern.eq_of_matchNode h (covers_iff.mp hc))
  · have hnow : e'.covers p = true :=
      covers_iff.mpr fun v hv => (Pattern.binds_of_matchNode h v).mpr (Or.inr hv)
    refine Or.inr ?_
    -- this pattern counts now, and those that counted still do
    obtain ⟨before, after, rfl⟩ := List.append_of_mem hp
    have hbefore : before.countP e.covers ≤ before.countP e'.covers :=
      List.countP_mono_left fun _ _ => covers_of_matchNode h
    have hafter : after.countP e.covers ≤ after.countP e'.covers :=
      List.countP_mono_left fun _ _ => covers_of_matchNode h
    simp only [stage, List.countP_append, List.countP_cons, hc, hnow, if_true]
    simp only [Bool.false_eq_true, if_false]
    omega

/-- Bindings that have grown are the same, or more patterns have all variables bound. -/
theorem stage_of_grows (h : Grows patterns e e') :
    e' = e ∨ stage patterns e < stage patterns e' := by
  induction h with
  | refl => exact Or.inl rfl
  | tail _ hstep ih =>
    obtain ⟨p, hp, n, hn⟩ := hstep
    rcases stage_lt_of_matchNode hp hn with rfl | hlt
    · exact ih
    · rcases ih with rfl | hlt'
      · exact Or.inr hlt
      · exact Or.inr (Nat.lt_trans hlt' hlt)

/-- Bindings that have grown, and not in the number of patterns with all variables bound, are the
same. -/
theorem eq_of_grows (h : Grows patterns e e') (hstage : stage patterns e = stage patterns e') :
    e' = e := by
  rcases stage_of_grows h with rfl | hlt
  · rfl
  · omega

theorem stage_le (patterns : List Pattern) (e : Env) : stage patterns e ≤ patterns.length :=
  List.countP_le_length

end Env

end StructuralSearch
