import Mathlib.Data.List.Basic
import StructuralSearch.Env

/-!
# What environments capture

Within one pattern a name may be met again, and then it has to stand for nodes that look the same:
of the same kinds and with the same texts. An assignment says what every name stands for, without
saying how that was found; the captures of an environment are an assignment.

Results:
1. `Env.bindSingle_eq_some_iff`, `Env.bindMultiple_eq_some_iff`: when binding succeeds, and what is
   bound then.
2. `Env.bindSingle_within`, `Env.bindMultiple_within`: binding loses no capture.
3. `Env.bindSingle_stands`, `Env.bindMultiple_stands`: what was bound stands for what it was bound
   to, in every assignment that has the captures.
4. `Env.binds_of_bindSingle`, `Env.binds_of_bindMultiple`: the names that are bound then.
5. `Env.exists_bindSingle`, `Env.exists_bindMultiple`: binding succeeds if an assignment that agrees
   with the captures has the name stand for the node or the run.
-/

namespace StructuralSearch

/-- What metavariables compare of a node: its kind and its text. -/
def Node.look (n : Node) : String × Text := (n.kind, n.text)

namespace Env

theorem alike_iff {a b : Node} : alike a b = true ↔ a.look = b.look := by
  simp [alike, Node.look]

theorem alikeRun_iff {as bs : List Node} :
    alikeRun as bs = true ↔ as.map Node.look = bs.map Node.look := by
  induction as generalizing bs with
  | nil => cases bs <;> simp [alikeRun]
  | cons a as ih =>
    cases bs with
    | nil => simp [alikeRun]
    | cons b bs =>
      have ih' := @ih bs
      simp only [alikeRun, Bool.and_eq_true, beq_iff_eq, List.all_eq_true] at ih'
      simp only [alikeRun, List.length_cons, List.zip_cons_cons, List.all_cons, Bool.and_eq_true,
        beq_iff_eq, List.all_eq_true, List.map_cons, List.cons.injEq, Nat.add_right_cancel_iff,
        ← ih', ← alike_iff]
      tauto

end Env

/-! ## Assignments -/

/-- What the names of metavariables stand for: nodes, and runs of nodes. -/
structure Assignment where
  single : String → Option Node
  multiple : String → Option (List Node)

namespace Assignment

/-- The name stands for the node; `_` stands for any. -/
def Stands (s : Assignment) (name : String) (n : Node) : Prop :=
  name = Metavariable.anonymous ∨ ∃ bound, s.single name = some bound ∧ bound.look = n.look

/-- The name stands for the run, node by node; `_` stands for any. -/
def StandsRun (s : Assignment) (name : String) (ns : List Node) : Prop :=
  name = Metavariable.anonymous ∨
    ∃ bound, s.multiple name = some bound ∧ bound.map Node.look = ns.map Node.look

end Assignment

namespace Env

/-- The captures of an environment. -/
def assignment (e : Env) : Assignment := ⟨e.single.find?, e.multiple.find?⟩

/-- Whatever the environment captured is assigned to the same name. -/
structure Within (e : Env) (s : Assignment) : Prop where
  single : ∀ name n, e.single.find? name = some n → s.single name = some n
  multiple : ∀ name ns, e.multiple.find? name = some ns → s.multiple name = some ns

theorem within_refl (e : Env) : e.Within e.assignment := ⟨fun _ _ h => h, fun _ _ h => h⟩

theorem Within.trans {e e' : Env} {s : Assignment} (h : e.Within e'.assignment)
    (k : e'.Within s) : e.Within s :=
  ⟨fun name n hn => k.single name n (h.single name n hn),
    fun name ns hns => k.multiple name ns (h.multiple name ns hns)⟩

/-! ## Binding -/

variable {e e' : Env} {name : String} {n : Node} {ns : List Node}

/-- Binding a node leaves the environment as it is if the name is `_` or stands for the node
already, and adds the name if it is new. -/
theorem bindSingle_eq_some_iff :
    e.bindSingle name n = some e' ↔
      (name = Metavariable.anonymous ∧ e' = e) ∨
      (name ≠ Metavariable.anonymous ∧
        ((∃ bound, e.single.find? name = some bound ∧ bound.look = n.look ∧ e' = e) ∨
        (e.single.find? name = none ∧ e' = { e with single := e.single.insert name n }))) := by
  rw [bindSingle]
  by_cases ha : name = Metavariable.anonymous
  · simp [ha, eq_comm]
  · rw [if_neg ha]
    cases hf : e.single.find? name with
    | none => simp [ha, eq_comm]
    | some bound =>
      by_cases hl : alike bound n = true
      · simp [ha, hl, alike_iff.mp hl, eq_comm]
      · have hl' : bound.look ≠ n.look := fun h => hl (alike_iff.mpr h)
        simp [ha, hl, hl']

/-- Binding a run leaves the environment as it is if the name is `_` or stands for the run already,
and adds the name if it is new. -/
theorem bindMultiple_eq_some_iff :
    e.bindMultiple name ns = some e' ↔
      (name = Metavariable.anonymous ∧ e' = e) ∨
      (name ≠ Metavariable.anonymous ∧
        ((∃ bound, e.multiple.find? name = some bound ∧
          bound.map Node.look = ns.map Node.look ∧ e' = e) ∨
        (e.multiple.find? name = none ∧
          e' = { e with multiple := e.multiple.insert name ns }))) := by
  rw [bindMultiple]
  by_cases ha : name = Metavariable.anonymous
  · simp [ha, eq_comm]
  · rw [if_neg ha]
    cases hf : e.multiple.find? name with
    | none => simp [ha, eq_comm]
    | some bound =>
      by_cases hl : alikeRun bound ns = true
      · simp [ha, hl, alikeRun_iff.mp hl, eq_comm]
      · have hl' : bound.map Node.look ≠ ns.map Node.look := fun h => hl (alikeRun_iff.mpr h)
        simp [ha, hl, hl']

theorem bindSingle_within (h : e.bindSingle name n = some e') : e.Within e'.assignment := by
  rcases bindSingle_eq_some_iff.mp h with ⟨-, rfl⟩ | ⟨-, ⟨_, -, -, rfl⟩ | ⟨hnew, rfl⟩⟩
  · exact within_refl e'
  · exact within_refl e'
  · refine ⟨fun other m hm => ?_, fun _ _ hms => hms⟩
    have hne : other ≠ name := by
      rintro rfl
      simp [hnew] at hm
    simpa [assignment, NameMap.find?_insert_of_ne hne] using hm

theorem bindMultiple_within (h : e.bindMultiple name ns = some e') : e.Within e'.assignment := by
  rcases bindMultiple_eq_some_iff.mp h with ⟨-, rfl⟩ | ⟨-, ⟨_, -, -, rfl⟩ | ⟨hnew, rfl⟩⟩
  · exact within_refl e'
  · exact within_refl e'
  · refine ⟨fun _ _ hm => hm, fun other ms hms => ?_⟩
    have hne : other ≠ name := by
      rintro rfl
      simp [hnew] at hms
    simpa [assignment, NameMap.find?_insert_of_ne hne] using hms

theorem bindSingle_stands (h : e.bindSingle name n = some e') {s : Assignment} (k : e'.Within s) :
    s.Stands name n := by
  rcases bindSingle_eq_some_iff.mp h with ⟨ha, -⟩ | ⟨-, ⟨bound, hb, hl, rfl⟩ | ⟨-, rfl⟩⟩
  · exact Or.inl ha
  · exact Or.inr ⟨bound, k.single name bound hb, hl⟩
  · exact Or.inr ⟨n, k.single name n (NameMap.find?_insert_self name n _), rfl⟩

theorem bindMultiple_stands (h : e.bindMultiple name ns = some e') {s : Assignment}
    (k : e'.Within s) : s.StandsRun name ns := by
  rcases bindMultiple_eq_some_iff.mp h with ⟨ha, -⟩ | ⟨-, ⟨bound, hb, hl, rfl⟩ | ⟨-, rfl⟩⟩
  · exact Or.inl ha
  · exact Or.inr ⟨bound, k.multiple name bound hb, hl⟩
  · exact Or.inr ⟨ns, k.multiple name ns (NameMap.find?_insert_self name ns _), rfl⟩

end Env

/-! ## How variables look -/

/-- The variable of a name and an arity, unless it captures nothing. -/
def Metavariable.captured (v : String × Arity) : List (String × Arity) :=
  if v.1 = anonymous then [] else [v]

namespace Assignment

/-- How what a variable stands for looks, node by node. -/
def looks (s : Assignment) : String × Arity → Option (List (String × Text))
  | (name, .single) => (s.single name).map fun n => [n.look]
  | (name, .multiple) => (s.multiple name).map (List.map Node.look)

variable {s t : Assignment} {name : String} {n : Node} {ns : List Node}

theorem stands_iff :
    s.Stands name n ↔
      ∀ v ∈ Metavariable.captured (name, .single), s.looks v = some [n.look] := by
  by_cases ha : name = Metavariable.anonymous <;>
    simp [Stands, looks, Metavariable.captured, ha]

theorem standsRun_iff :
    s.StandsRun name ns ↔
      ∀ v ∈ Metavariable.captured (name, .multiple), s.looks v = some (ns.map Node.look) := by
  by_cases ha : name = Metavariable.anonymous <;>
    simp [StandsRun, looks, Metavariable.captured, ha]

/-- The first assignment where it has something, and else the second. -/
def orElse (s t : Assignment) : Assignment where
  single name := (s.single name).or (t.single name)
  multiple name := (s.multiple name).or (t.multiple name)

theorem looks_orElse (v : String × Arity) : (s.orElse t).looks v = (s.looks v).or (t.looks v) := by
  obtain ⟨name, _ | _⟩ := v
  · simp only [orElse, looks]
    cases s.single name <;> rfl
  · simp only [orElse, looks]
    cases s.multiple name <;> rfl

end Assignment

namespace Env

/-- How what is captured under a variable looks. -/
def looks (e : Env) (v : String × Arity) : Option (List (String × Text)) := e.assignment.looks v

/-- The environment captured something under the variable. -/
def Binds (e : Env) (v : String × Arity) : Prop := (e.looks v).isSome = true

/-- The assignment looks like the captures. -/
def Agrees (e : Env) (s : Assignment) : Prop := ∀ v, e.Binds v → e.looks v = s.looks v

variable {e e' : Env} {s : Assignment} {name : String} {n : Node} {ns : List Node}

theorem looks_single : e.looks (name, .single) = (e.single.find? name).map fun n => [n.look] := rfl

theorem looks_multiple :
    e.looks (name, .multiple) = (e.multiple.find? name).map (List.map Node.look) := rfl

theorem not_binds_empty (v : String × Arity) : ¬ Env.empty.Binds v := by
  obtain ⟨name, _ | _⟩ := v <;> simp [Binds, looks, assignment, Assignment.looks, Env.empty]

theorem Within.agrees (h : e.Within s) : e.Agrees s := by
  rintro ⟨name, _ | _⟩ hv
  · obtain ⟨n, hn⟩ := Option.isSome_iff_exists.mp (by simpa [Binds, looks_single] using hv)
    simp [looks_single, Assignment.looks, hn, h.single name n hn]
  · obtain ⟨ns, hns⟩ := Option.isSome_iff_exists.mp (by simpa [Binds, looks_multiple] using hv)
    simp [looks_multiple, Assignment.looks, hns, h.multiple name ns hns]

/-- Only the variable that a node is bound to can be new, and then it looks like the node. -/
theorem looks_of_bindSingle (h : e.bindSingle name n = some e') (v : String × Arity) :
    e'.looks v = (e.looks v).or
      (if v ∈ Metavariable.captured (name, .single) then some [n.look] else none) := by
  rcases bindSingle_eq_some_iff.mp h with ⟨ha, rfl⟩ | ⟨ha, ⟨bound, hb, hl, rfl⟩ | ⟨hnew, rfl⟩⟩
  · simp [Metavariable.captured, ha]
  · by_cases hv : v = (name, .single)
    · subst hv
      simp [looks_single, hb]
    · simp [Metavariable.captured, ha, hv]
  · obtain ⟨other, _ | _⟩ := v
    · by_cases hv : other = name
      · subst hv
        simp [looks_single, hnew, Metavariable.captured, ha]
      · simp [looks_single, NameMap.find?_insert_of_ne hv, Metavariable.captured, ha, hv]
    · simp [looks_multiple, Metavariable.captured, ha]

/-- Only the variable that a run is bound to can be new, and then it looks like the run. -/
theorem looks_of_bindMultiple (h : e.bindMultiple name ns = some e') (v : String × Arity) :
    e'.looks v = (e.looks v).or
      (if v ∈ Metavariable.captured (name, .multiple) then some (ns.map Node.look) else none) := by
  rcases bindMultiple_eq_some_iff.mp h with ⟨ha, rfl⟩ | ⟨ha, ⟨bound, hb, hl, rfl⟩ | ⟨hnew, rfl⟩⟩
  · simp [Metavariable.captured, ha]
  · by_cases hv : v = (name, .multiple)
    · subst hv
      simp [looks_multiple, hb]
    · simp [Metavariable.captured, ha, hv]
  · obtain ⟨other, _ | _⟩ := v
    · simp [looks_single, Metavariable.captured, ha]
    · by_cases hv : other = name
      · subst hv
        simp [looks_multiple, hnew, Metavariable.captured, ha]
      · simp [looks_multiple, NameMap.find?_insert_of_ne hv, Metavariable.captured, ha, hv]

theorem binds_of_bindSingle (h : e.bindSingle name n = some e') (v : String × Arity) :
    e'.Binds v ↔ e.Binds v ∨ v ∈ Metavariable.captured (name, .single) := by
  rw [Binds, looks_of_bindSingle h]
  split <;> simp [Binds, *]

theorem binds_of_bindMultiple (h : e.bindMultiple name ns = some e') (v : String × Arity) :
    e'.Binds v ↔ e.Binds v ∨ v ∈ Metavariable.captured (name, .multiple) := by
  rw [Binds, looks_of_bindMultiple h]
  split <;> simp [Binds, *]

/-- What looks like an assignment before a binding does so afterwards if the variable bound does. -/
theorem Agrees.of_looks {l : List (String × Text)} {vs : List (String × Arity)} (h : e.Agrees s)
    (he : ∀ v, e'.looks v = (e.looks v).or (if v ∈ vs then some l else none))
    (hs : ∀ v ∈ vs, s.looks v = some l) : e'.Agrees s := by
  intro v hv
  rw [he]
  cases hl : e.looks v with
  | some k =>
    rw [Option.some_or, ← hl]
    exact h v (by simp [Binds, hl])
  | none =>
    rw [Binds, he, hl, Option.none_or] at hv
    split at hv
    · next hmem => simp [hmem, hs v hmem]
    · simp at hv

/-- A node can be bound to a name that stands for it in an assignment which looks like what is
captured. -/
theorem exists_bindSingle (h : e.Agrees s) (hs : s.Stands name n) :
    ∃ e', e.bindSingle name n = some e' ∧ e'.Agrees s := by
  have hlook := Assignment.stands_iff.mp hs
  have hsome : ∃ e', e.bindSingle name n = some e' := by
    simp only [bindSingle_eq_some_iff]
    by_cases ha : name = Metavariable.anonymous
    · exact ⟨e, Or.inl ⟨ha, rfl⟩⟩
    cases hf : e.single.find? name with
    | none => exact ⟨_, Or.inr ⟨ha, Or.inr ⟨rfl, rfl⟩⟩⟩
    | some bound =>
      -- the assignment looks like what is bound, and like the node
      have hb : e.looks (name, .single) = some [n.look] :=
        (h _ (by simp [Binds, looks_single, hf])).trans
          (hlook _ (by simp [Metavariable.captured, ha]))
      exact ⟨e, Or.inr ⟨ha, Or.inl ⟨bound, rfl, by simpa [looks_single, hf] using hb, rfl⟩⟩⟩
  obtain ⟨e', he⟩ := hsome
  exact ⟨e', he, h.of_looks (looks_of_bindSingle he) hlook⟩

/-- A run can be bound to a name that stands for it in an assignment which looks like what is
captured. -/
theorem exists_bindMultiple (h : e.Agrees s) (hs : s.StandsRun name ns) :
    ∃ e', e.bindMultiple name ns = some e' ∧ e'.Agrees s := by
  have hlook := Assignment.standsRun_iff.mp hs
  have hsome : ∃ e', e.bindMultiple name ns = some e' := by
    simp only [bindMultiple_eq_some_iff]
    by_cases ha : name = Metavariable.anonymous
    · exact ⟨e, Or.inl ⟨ha, rfl⟩⟩
    cases hf : e.multiple.find? name with
    | none => exact ⟨_, Or.inr ⟨ha, Or.inr ⟨rfl, rfl⟩⟩⟩
    | some bound =>
      have hb : e.looks (name, .multiple) = some (ns.map Node.look) :=
        (h _ (by simp [Binds, looks_multiple, hf])).trans
          (hlook _ (by simp [Metavariable.captured, ha]))
      exact ⟨e, Or.inr ⟨ha, Or.inl ⟨bound, rfl, by simpa [looks_multiple, hf] using hb, rfl⟩⟩⟩
  obtain ⟨e', he⟩ := hsome
  exact ⟨e', he, h.of_looks (looks_of_bindMultiple he) hlook⟩

end Env

end StructuralSearch
