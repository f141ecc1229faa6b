import Mathlib.Logic.Relation
import StructuralSearch.Dependency
import StructuralSearch.Proofs.Except
import StructuralSearch.Proofs.NameMap

/-!
# What the walk over dependencies finds

From each name in turn, the walk goes along the references to names that have not been left before.
The names that it stands at lead to one another, so coming back to one of them is a cycle; and a name
is left only after all that it refers to, so among the names that have been left there is none.

* `Refers`: a name of the graph refers to another one.
* `Ordered`: names in an order in which each comes after those that it refers to.
* `Fault.Holds`: what a fault says of the graph is the case.

Results:
1. `Ordered.nodup`, `Ordered.mem_front`, `Ordered.not_cyclic`: what an order excludes.
2. `ordered_of_visit`, `holds_of_visit`: what one walk finds, and why it fails.
3. `order_cases`: a graph has all its names in order, or there is a fault.
4. `exists_order_iff`: it has an order exactly if all names that are referred to are there and none
   leads back to itself.
-/

namespace StructuralSearch

namespace Dependency

variable {g : Graph} {path done done' refs : List String} {name a b : String} {fault : Fault}

/-- A name of the graph refers to another one. -/
def Refers (g : Graph) (a b : String) : Prop := ∃ refs, g.find? a = some refs ∧ b ∈ refs

/-! ## Orders -/

/-- Names of the graph, each once and after all that it refers to. -/
inductive Ordered (g : Graph) : List String → Prop
  | nil : Ordered g []
  | snoc {done refs : List String} {name : String} : Ordered g done → name ∉ done →
      g.find? name = some refs → (∀ b ∈ refs, b ∈ done) → Ordered g (done ++ [name])

namespace Ordered

theorem nodup (h : Ordered g done) : done.Nodup := by
  induction h with
  | nil => exact List.nodup_nil
  | snoc _ hname _ _ ih =>
    refine List.nodup_append.mpr ⟨ih, List.nodup_singleton _, ?_⟩
    rintro a ha b hb rfl
    exact hname (List.mem_singleton.mp hb ▸ ha)

theorem contains (h : Ordered g done) (ha : a ∈ done) : g.contains a = true := by
  induction h with
  | nil => exact absurd ha List.not_mem_nil
  | snoc _ _ hdef _ ih =>
    rcases List.mem_append.mp ha with ha | ha
    · exact ih ha
    · obtain rfl := List.mem_singleton.mp ha
      simp [NameMap.contains, hdef]

/-- What a name refers to is in front of it. -/
theorem mem_front {before after : List String} (h : Ordered g (before ++ a :: after))
    (hab : Refers g a b) : b ∈ before := by
  generalize hl : before ++ a :: after = l at h
  induction h generalizing after with
  | nil => simp at hl
  | @snoc done refs name _ _ hdef hrefs ih =>
    rcases List.eq_nil_or_concat after with rfl | ⟨after, last, rfl⟩
    · obtain ⟨rfl, hname⟩ := List.append_inj' hl rfl
      obtain rfl := List.singleton_inj.mp hname
      obtain ⟨refs', hdef', hb⟩ := hab
      obtain rfl := Option.some.inj (hdef.symm.trans hdef')
      exact hrefs b hb
    · rw [List.concat_eq_append, ← List.cons_append, ← List.append_assoc] at hl
      exact ih (List.append_inj' hl rfl).1

theorem mem_of_refers (h : Ordered g done) (ha : a ∈ done) (hab : Refers g a b) : b ∈ done := by
  obtain ⟨before, after, rfl⟩ := List.append_of_mem ha
  exact List.mem_append_left _ (h.mem_front hab)

theorem mem_of_leads (h : Ordered g done) (ha : a ∈ done)
    (hab : Relation.ReflTransGen (Refers g) a b) : b ∈ done := by
  induction hab with
  | refl => exact ha
  | tail _ hstep ih => exact h.mem_of_refers ih hstep

/-- No name of an order leads back to itself. -/
theorem not_cyclic (h : Ordered g done) (ha : a ∈ done) :
    ¬ Relation.TransGen (Refers g) a a := by
  induction h with
  | nil => exact absurd ha List.not_mem_nil
  | @snoc done refs name hdone hname hdef hrefs ih =>
    rcases List.mem_append.mp ha with ha | ha
    · exact ih ha
    · -- all that the last name leads to is in front of it
      obtain rfl := List.mem_singleton.mp ha
      intro hcycle
      obtain ⟨b, ⟨refs', hdef', hb⟩, hback⟩ := Relation.TransGen.head'_iff.mp hcycle
      obtain rfl := Option.some.inj (hdef.symm.trans hdef')
      exact hname (hdone.mem_of_leads (hrefs b hb) hback)

end Ordered

/-! ## One walk -/

/-- What a fault says of the graph is the case. -/
def Fault.Holds (g : Graph) : Fault → Prop
  | cyclic name => Relation.TransGen (Refers g) name name
  | undefined name => g.contains name = false ∧ ∃ a, Refers g a name

/-- A walk that stands at the names of `path` has put other names behind those left before. -/
structure Walks (g : Graph) (path done done' : List String) : Prop where
  ordered : Ordered g done'
  subset : done ⊆ done'
  fresh : ∀ m ∈ done', m ∈ done ∨ m ∉ path

theorem Walks.trans {done'' : List String} (h : Walks g path done done')
    (k : Walks g path done' done'') : Walks g path done done'' := by
  refine ⟨k.ordered, List.Subset.trans h.subset k.subset, fun m hm => ?_⟩
  rcases k.fresh m hm with hm | hm
  · exact h.fresh m hm
  · exact Or.inr hm

/-- Walking from several names, one after the other. -/
theorem walks_of_foldlM
    (ih : ∀ {done name done'}, Ordered g done → visit g path done name = .ok done' →
      Walks g path done done' ∧ name ∈ done')
    (hdone : Ordered g done) (h : refs.foldlM (visit g path) done = .ok done') :
    Walks g path done done' ∧ ∀ b ∈ refs, b ∈ done' := by
  induction refs generalizing done with
  | nil =>
    cases h
    exact ⟨⟨hdone, List.Subset.refl _, fun _ => Or.inl⟩, by simp⟩
  | cons b refs ihrefs =>
    rw [List.foldlM_cons] at h
    obtain ⟨mid, hb, h⟩ := Except.bind_eq_ok_iff.mp h
    obtain ⟨hwalk, hmem⟩ := ih hdone hb
    obtain ⟨hrest, hall⟩ := ihrefs hwalk.ordered h
    exact ⟨hwalk.trans hrest, List.forall_mem_cons.mpr ⟨hrest.subset hmem, hall⟩⟩

/-- A walk that succeeds leaves the name after all that it refers to. -/
theorem ordered_of_visit (hdone : Ordered g done) (h : visit g path done name = .ok done') :
    Walks g path done done' ∧ name ∈ done' := by
  induction path, done, name using visit.induct g generalizing done' with
  | case1 path done name hleft =>
    rw [visit, if_pos hleft] at h
    cases h
    exact ⟨⟨hdone, List.Subset.refl _, fun _ => Or.inl⟩, List.contains_iff_mem.mp hleft⟩
  | case2 path done name hleft hpath =>
    rw [visit, if_neg hleft, dif_pos hpath] at h
    cases h
  | case3 path done name hleft hpath hdef =>
    rw [visit, if_neg hleft, dif_neg hpath] at h
    split at h
    · cases h
    · next hdef' => cases hdef.symm.trans hdef'
  | case4 path done name hleft hpath refs hdef ih =>
    rw [visit, if_neg hleft, dif_neg hpath] at h
    split at h
    · cases h
    next refs' hdef' =>
      obtain rfl := Option.some.inj (hdef.symm.trans hdef')
      obtain ⟨mid, hrefs, h⟩ := Except.bind_eq_ok_iff.mp h
      cases h
      obtain ⟨hwalk, hall⟩ := walks_of_foldlM (fun hdone h => ih _ _ hdone h) hdone hrefs
      -- the walk stood at the name all the time, so the name has not been left on the way
      have hnew : name ∉ mid := fun hmem => (hwalk.fresh name hmem).elim
        (fun hmem => hleft (List.contains_iff_mem.mpr hmem)) (fun hnot => hnot List.mem_cons_self)
      refine ⟨⟨.snoc hwalk.ordered hnew hdef hall, ?_, fun m hm => ?_⟩, by simp⟩
      · exact List.Subset.trans hwalk.subset (List.subset_append_left _ _)
      · rcases List.mem_append.mp hm with hm | hm
        · exact (hwalk.fresh m hm).imp_right fun hnot hmem => hnot (List.mem_cons_of_mem _ hmem)
        · obtain rfl := List.mem_singleton.mp hm
          exact Or.inr fun hmem => hpath (List.contains_iff_mem.mpr hmem)

/-- A walk fails for a reason: the names that it stands at lead to the one that it comes to. -/
theorem holds_of_visit (hpath : ∀ p ∈ path, Relation.TransGen (Refers g) p name)
    (hname : g.contains name = true ∨ ∃ a, Refers g a name)
    (h : visit g path done name = .error fault) : fault.Holds g := by
  induction path, done, name using visit.induct g with
  | case1 path done name hleft =>
    rw [visit, if_pos hleft] at h
    cases h
  | case2 path done name hleft hon =>
    rw [visit, if_neg hleft, dif_pos hon] at h
    cases h
    exact hpath name (List.contains_iff_mem.mp hon)
  | case3 path done name hleft hon hdef =>
    rw [visit, if_neg hleft, dif_neg hon] at h
    split at h
    · cases h
      have hnot : g.contains name = false := by simp [NameMap.contains, hdef]
      exact ⟨hnot, hname.resolve_left (by simp [hnot])⟩
    · next hdef' => cases hdef.symm.trans hdef'
  | case4 path done name hleft hon refs hdef ih =>
    rw [visit, if_neg hleft, dif_neg hon] at h
    split at h
    · next hdef' => cases hdef.symm.trans hdef'
    next refs' hdef' =>
      obtain rfl := Option.some.inj (hdef.symm.trans hdef')
      rcases Except.bind_eq_error_iff.mp h with hrefs | ⟨mid, -, h⟩
      · obtain ⟨b, hmem, mid, hfault⟩ := List.exists_of_foldlM_eq_error hrefs
        have hstep : Refers g name b := ⟨refs, hdef, hmem⟩
        refine ih mid b ?_ (Or.inr ⟨name, hstep⟩) hfault
        exact List.forall_mem_cons.mpr ⟨.single hstep, fun p hp => (hpath p hp).tail hstep⟩
      · cases h

/-! ## The names of a graph -/

/-- Either the names of a graph are put in order, or the fault that is found is there. -/
theorem order_cases (g : Graph) :
    (∃ l, order g = .ok l ∧ Ordered g l ∧ ∀ a, a ∈ l ↔ a ∈ NameMap.names g) ∨
      ∃ fault, order g = .error fault ∧ fault.Holds g := by
  cases horder : order g with
  | ok l =>
    obtain ⟨hwalk, hall⟩ := walks_of_foldlM (fun hdone h => ordered_of_visit hdone h) .nil horder
    refine Or.inl ⟨l, rfl, hwalk.ordered, fun a => ⟨fun ha => ?_, hall a⟩⟩
    obtain ⟨refs, hdef⟩ := Option.isSome_iff_exists.mp (hwalk.ordered.contains ha)
    exact List.mem_map.mpr ⟨_, NameMap.mem_of_find? hdef, rfl⟩
  | error fault =>
    obtain ⟨name, hmem, mid, hfault⟩ := List.exists_of_foldlM_eq_error horder
    refine Or.inr ⟨fault, rfl, holds_of_visit (by simp) (Or.inl ?_) hfault⟩
    obtain ⟨⟨_, refs⟩, he, rfl⟩ := List.mem_map.mp hmem
    exact NameMap.contains_of_mem he

/-- The names of a graph can be put in order exactly if all names that are referred to are there and
none leads back to itself. -/
theorem exists_order_iff : (∃ l, order g = .ok l) ↔
    (∀ a b, Refers g a b → g.contains b = true) ∧ ∀ a, ¬ Relation.TransGen (Refers g) a a := by
  rcases order_cases g with ⟨l, horder, hl, hall⟩ | ⟨fault, horder, hfault⟩
  · have hmem : ∀ {a b}, Refers g a b → a ∈ l := by
      rintro a b ⟨refs, hdef, -⟩
      exact (hall a).mpr (List.mem_map.mpr ⟨_, NameMap.mem_of_find? hdef, rfl⟩)
    refine iff_of_true ⟨l, horder⟩ ⟨fun a b hab => ?_, fun a hcycle => ?_⟩
    · exact hl.contains (hl.mem_of_refers (hmem hab) hab)
    · obtain ⟨b, hab, -⟩ := Relation.TransGen.head'_iff.mp hcycle
      exact hl.not_cyclic (hmem hab) hcycle
  · refine iff_of_false (fun ⟨l, hl⟩ => ?_) fun ⟨hdefined, hacyclic⟩ => ?_
    · cases hl.symm.trans horder
    · cases fault with
      | cyclic name => exact hacyclic name hfault
      | undefined name =>
        obtain ⟨hnot, a, hab⟩ := hfault
        simp [hdefined a name hab] at hnot

end Dependency

end StructuralSearch
