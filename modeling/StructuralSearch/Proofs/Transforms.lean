import Mathlib.Data.List.Induction
import StructuralSearch.Proofs.Dependency
import StructuralSearch.Transform.Basic

/-!
# What transforms compute

A transform reads a capture or another transform, so the results of the transforms of a rule are
given by equations, one for each name. Transforms are accepted unless these lead in a circle, and
applying them in order solves the equations.

* `TransformSpec.reads?`: the name that a transform reads.
* `Transforms.Reads`: a transform reads another one.
* `Transforms.EndsAt`: the capture that the sources of a transform lead to.
* `Transforms.Solves`: texts that satisfy the equations.
* `Transforms.Arranged`: transforms after those that they read.

Results:
1. `Transforms.compile_cases`: valid transforms are put in order, or one of them leads back to itself.
2. `Transforms.lists_of_compile`: what transforms that are accepted consist of.
3. `Transforms.transformed?_apply`, `Transforms.eq_of_equations`: the results in order are the only
   solution.
4. `Transforms.compile_iff_acyclic_and_apply_solves`: all of it for transforms as written.
-/

namespace StructuralSearch

/-- The name that a transform reads, if its source is a reference. -/
def TransformSpec.reads? (sigil : Char) (spec : TransformSpec) : Option String :=
  (Metavariable.ofReference? sigil spec.source.toList).map (·.name)

namespace Transforms

variable {language : Language} {specs : NameMap TransformSpec} {ts : Transforms}
  {t : NamedTransform} {e : Env} {name : String}

/-- All sources are references, and all regular expressions are valid. -/
structure Valid (language : Language) (specs : NameMap TransformSpec) : Prop where
  reads : ∀ entry ∈ specs, ∃ v, entry.2.reads? language.sigil = some v
  operation : ∀ entry ∈ specs, ∃ t, Transform.compile entry.2.operation = .ok t

/-- The transform `a` reads the transform `b`. -/
def Reads (language : Language) (specs : NameMap TransformSpec) (a b : String) : Prop :=
  ∃ spec, specs.find? a = some spec ∧ spec.reads? language.sigil = some b ∧ specs.contains b = true

/-- The sources of a transform lead to a capture. -/
inductive EndsAt (language : Language) (specs : NameMap TransformSpec) : String → String → Prop
  | capture {name c : String} {spec : TransformSpec} : specs.find? name = some spec →
      spec.reads? language.sigil = some c → specs.contains c = false → EndsAt language specs name c
  | transform {name other c : String} : Reads language specs name other →
      EndsAt language specs other c → EndsAt language specs name c

/-- What a transform makes of the text of its capture, or of the text of the transform that it
reads, is its text; no other name has one. -/
structure Solves (language : Language) (specs : NameMap TransformSpec) (e : Env)
    (texts : String → Option Text) : Prop where
  outside : ∀ name ∉ specs.names, texts name = none
  equation : ∀ {name spec v t}, specs.find? name = some spec → spec.reads? language.sigil = some v →
    Transform.compile spec.operation = .ok t →
    texts name = (if specs.contains v = true then texts v else e.capturedText v).map t.apply

/-- Each name once, and every transform after the one that it reads. -/
structure Arranged (ts : Transforms) : Prop where
  nodup : ts.names.Nodup
  earlier : ∀ {before after : Transforms} {t : NamedTransform} {name : String},
    ts = before ++ t :: after → t.source = .transform name → name ∈ before.names

/-- A transform as written, ready to be applied. -/
def IsEntry (language : Language) (specs : NameMap TransformSpec) (t : NamedTransform) : Prop :=
  ∃ spec v, specs.find? t.name = some spec ∧ spec.reads? language.sigil = some v ∧
    (if specs.contains v then .transform v else .capture v) = t.source ∧
    Transform.compile spec.operation = .ok t.transform

/-- All transforms as written, ready to be applied in order. -/
structure Lists (language : Language) (specs : NameMap TransformSpec) (ts : Transforms) :
    Prop where
  arranged : Arranged ts
  mem_names_iff : ∀ name, name ∈ ts.names ↔ name ∈ specs.names
  entry : ∀ t ∈ ts, IsEntry language specs t

/-! ## The order of transforms -/

theorem source_eq_ok_iff {sigil : Char} {spec : TransformSpec} {s : TransformSource} :
    source sigil specs name spec = .ok s ↔
      ∃ v, spec.reads? sigil = some v ∧
        (if specs.contains v then .transform v else .capture v) = s := by
  rw [source, TransformSpec.reads?]
  cases Metavariable.ofReference? sigil spec.source.toList with
  | none => simp
  | some var => simp

theorem mem_dependencies_iff {s : TransformSource} :
    name ∈ dependencies s ↔ s = .transform name := by
  cases s with
  | capture c => simp [dependencies]
  | transform other => simp [dependencies, eq_comm]

/-- The sources of all transforms. -/
def sources? (language : Language) (specs : NameMap TransformSpec) :
    Except RuleError (NameMap TransformSource) :=
  specs.mapM fun entry => (entry.1, ·) <$> source language.sigil specs entry.1 entry.2

/-- The references that order transforms. -/
def graph (sources : NameMap TransformSource) : Dependency.Graph :=
  sources.map fun entry => (entry.1, dependencies entry.2)

/-- A transform that is ready to be applied, for a name that is in both maps. -/
def named? (specs : NameMap TransformSpec) (sources : NameMap TransformSource) (name : String) :
    Except RuleError (Option NamedTransform) :=
  match specs.find? name, sources.find? name with
  | some spec, some source => do
    let transform ← (Transform.compile spec.operation).mapError
      fun fault => RuleError.invalidTransform name fault.message
    return some ⟨name, source, transform⟩
  | _, _ => return none

theorem compile_eq : compile language specs = (do
    let sources ← sources? language specs
    let order ← (Dependency.order (graph sources)).mapError orderFault
    order.filterMapM (named? specs sources)) := rfl

section Order

variable {sources : NameMap TransformSource} (hsources : sources? language specs = .ok sources)

include hsources

theorem find?_sources {s : TransformSource} : sources.find? name = some s ↔
    ∃ spec v, specs.find? name = some spec ∧ spec.reads? language.sigil = some v ∧
      (if specs.contains v then .transform v else .capture v) = s := by
  simp only [NameMap.find?_of_mapM hsources, source_eq_ok_iff, exists_and_left]

/-- The references that order transforms are those of a transform to another. -/
theorem refers_graph_iff {a b : String} :
    Dependency.Refers (graph sources) a b ↔ Reads language specs a b := by
  simp only [Dependency.Refers, graph, NameMap.find?_map, Option.map_eq_some_iff,
    find?_sources hsources]
  constructor
  · rintro ⟨_, ⟨s, ⟨spec, v, hspec, hv, rfl⟩, rfl⟩, hb⟩
    rw [mem_dependencies_iff] at hb
    split at hb
    · next hcontains =>
      obtain rfl := TransformSource.transform.inj hb
      exact ⟨spec, hspec, hv, hcontains⟩
    · cases hb
  · rintro ⟨spec, hspec, hv, hcontains⟩
    exact ⟨_, ⟨_, ⟨spec, b, hspec, hv, rfl⟩, rfl⟩, by simp [hcontains, dependencies]⟩

theorem names_graph : NameMap.names (graph sources) = specs.names := by
  rw [← NameMap.names_of_mapM hsources, graph, NameMap.names, List.map_map]
  rfl

/-- Every name has a transform and a source, so that none is left out. -/
theorem named?_eq (hname : name ∈ specs.names) : ∃ spec s, specs.find? name = some spec ∧
    sources.find? name = some s ∧
    named? specs sources name = (do
      let transform ← (Transform.compile spec.operation).mapError
        fun fault => RuleError.invalidTransform name fault.message
      return some ⟨name, s, transform⟩) := by
  have hcontains : sources.contains name = true :=
    NameMap.contains_iff.mpr (NameMap.names_of_mapM hsources ▸ hname)
  obtain ⟨s, hs⟩ := Option.isSome_iff_exists.mp hcontains
  obtain ⟨spec, v, hspec, -, -⟩ := (find?_sources hsources).mp hs
  refine ⟨spec, s, hspec, hs, ?_⟩
  rw [named?, hspec, hs]

theorem named?_eq_ok_iff (hname : name ∈ specs.names) {r : Option NamedTransform} :
    named? specs sources name = .ok r ↔ ∃ t, r = some t ∧ t.name = name ∧
      sources.find? name = some t.source ∧ ∃ spec, specs.find? name = some spec ∧
        Transform.compile spec.operation = .ok t.transform := by
  obtain ⟨spec, s, hspec, hs, heq⟩ := named?_eq hsources hname
  rw [heq, Except.bind_eq_ok_iff]
  simp only [Except.mapError_eq_ok_iff, hs, hspec]
  constructor
  · rintro ⟨transform, htransform, hr⟩
    cases hr
    exact ⟨_, rfl, rfl, rfl, spec, rfl, htransform⟩
  · rintro ⟨⟨_, _, transform⟩, rfl, rfl, hs', spec', hspec', htransform⟩
    cases hs'
    cases hspec'
    exact ⟨transform, htransform, rfl⟩

theorem isEntry_of_named? (hname : name ∈ specs.names)
    (h : named? specs sources name = .ok (some t)) : t.name = name ∧ IsEntry language specs t := by
  obtain ⟨_, ht, rfl, hs, spec, hspec, htransform⟩ := (named?_eq_ok_iff hsources hname).mp h
  obtain rfl := Option.some.inj ht
  obtain ⟨spec', v, hspec', hv, hsource⟩ := (find?_sources hsources).mp hs
  obtain rfl := Option.some.inj (hspec.symm.trans hspec')
  exact ⟨rfl, spec, v, hspec, hv, hsource, htransform⟩

/-- The transforms for names in a list have these names. -/
theorem entries_of_filterMapM {order : List String} (hmem : ∀ name ∈ order, name ∈ specs.names)
    (h : order.filterMapM (named? specs sources) = .ok ts) :
    ts.names = order ∧ ∀ t ∈ ts, IsEntry language specs t := by
  rw [List.filterMapM_eq_ok_iff fun name hname hnone => by
    obtain ⟨t, ht, -⟩ := (named?_eq_ok_iff hsources (hmem name hname)).mp hnone
    cases ht] at h
  induction h with
  | nil => exact ⟨rfl, by simp⟩
  | cons h _ ih =>
    obtain ⟨hhead, htail⟩ := List.forall_mem_cons.mp hmem
    obtain ⟨rfl, hentry⟩ := isEntry_of_named? hsources hhead h
    obtain ⟨hnames, hentries⟩ := ih htail
    exact ⟨congrArg (_ :: ·) hnames, List.forall_mem_cons.mpr ⟨hentry, hentries⟩⟩

/-- Transforms whose names are in order are arranged. -/
theorem arranged_of_ordered (hordered : Dependency.Ordered (graph sources) ts.names)
    (hentries : ∀ t ∈ ts, IsEntry language specs t) : Arranged ts := by
  refine ⟨hordered.nodup, ?_⟩
  rintro before after t name rfl hsource
  obtain ⟨spec, v, hspec, hv, hif, -⟩ := hentries t (List.mem_append_right _ List.mem_cons_self)
  rw [hsource] at hif
  split at hif
  · next hcontains =>
    obtain rfl := TransformSource.transform.inj hif
    rw [names, List.map_append, List.map_cons] at hordered
    exact hordered.mem_front ((refers_graph_iff hsources).mpr ⟨spec, hspec, hv, hcontains⟩)
  · cases hif

end Order

/-- What transforms that are accepted consist of. -/
theorem lists_of_compile (h : compile language specs = .ok ts) : Lists language specs ts := by
  rw [compile_eq] at h
  obtain ⟨sources, hsources, h⟩ := Except.bind_eq_ok_iff.mp h
  obtain ⟨order, horder, h⟩ := Except.bind_eq_ok_iff.mp h
  rcases Dependency.order_cases (graph sources) with ⟨l, hl, hordered, hmem⟩ | ⟨fault, hfault, -⟩
  · obtain rfl := Except.ok.inj (hl.symm.trans (Except.mapError_eq_ok_iff.mp horder))
    rw [names_graph hsources] at hmem
    obtain ⟨rfl, hentries⟩ := entries_of_filterMapM hsources (fun name => (hmem name).mp) h
    exact ⟨arranged_of_ordered hsources hordered hentries, hmem, hentries⟩
  · cases (Except.mapError_eq_ok_iff.mp horder).symm.trans hfault

/-- Valid transforms are put in order, or one of them leads back to itself. -/
theorem compile_cases (h : Valid language specs) :
    ((∃ ts, compile language specs = .ok ts) ∧
      ∀ name, ¬ Relation.TransGen (Reads language specs) name name) ∨
    ∃ name, compile language specs = .error (.cyclicTransform name) ∧
      Relation.TransGen (Reads language specs) name name := by
  obtain ⟨sources, hsources⟩ : ∃ sources, sources? language specs = .ok sources := by
    refine List.exists_mapM_of_forall fun entry hentry => ?_
    obtain ⟨v, hv⟩ := h.reads entry hentry
    exact ⟨_, Except.map_eq_ok_iff.mpr ⟨_, source_eq_ok_iff.mpr ⟨v, hv, rfl⟩, rfl⟩⟩
  have hrefers : Dependency.Refers (graph sources) = Reads language specs :=
    funext fun a => funext fun b => propext (refers_graph_iff hsources)
  rw [compile_eq]
  rcases Dependency.order_cases (graph sources) with ⟨l, hl, -, hmem⟩ | ⟨fault, hfault, hholds⟩
  · left
    rw [names_graph hsources] at hmem
    obtain ⟨ts, hts⟩ : ∃ ts, l.filterMapM (named? specs sources) = .ok ts := by
      refine List.exists_filterMapM_of_forall fun name hname => ?_
      obtain ⟨spec, s, hspec, hs, -⟩ := named?_eq hsources ((hmem name).mp hname)
      obtain ⟨t, ht⟩ := h.operation _ (NameMap.mem_of_find? hspec)
      exact ⟨⟨name, s, t⟩, (named?_eq_ok_iff hsources ((hmem name).mp hname)).mpr
        ⟨_, rfl, rfl, hs, spec, hspec, ht⟩⟩
    refine ⟨⟨ts, Except.bind_eq_ok_iff.mpr ⟨sources, hsources, Except.bind_eq_ok_iff.mpr
      ⟨l, Except.mapError_eq_ok_iff.mpr hl, hts⟩⟩⟩, ?_⟩
    exact hrefers ▸ (Dependency.exists_order_iff.mp ⟨l, hl⟩).2
  · right
    have hname : ∃ name, orderFault fault = .cyclicTransform name ∧
        Relation.TransGen (Reads language specs) name name := by
      cases fault with
      | cyclic name => exact ⟨name, rfl, hrefers ▸ hholds⟩
      | undefined name =>
        -- a transform that is read is there
        obtain ⟨hnot, a, hreads⟩ := hholds
        obtain ⟨-, -, -, hcontains⟩ := (refers_graph_iff hsources).mp hreads
        rw [NameMap.contains_eq_false_iff, names_graph hsources] at hnot
        exact absurd (NameMap.contains_iff.mp hcontains) hnot
    obtain ⟨name, heq, hcycle⟩ := hname
    refine ⟨name, Except.bind_eq_error_iff.mpr (Or.inr ⟨sources, hsources, ?_⟩), hcycle⟩
    exact Except.bind_eq_error_iff.mpr (Or.inl
      (Except.mapError_eq_error_iff.mpr ⟨fault, hfault, heq⟩))

/-! ## The equations -/

@[simp] theorem single_applyOne : (applyOne e t).single = e.single := by
  rw [applyOne]
  split <;> rfl

@[simp] theorem multiple_applyOne : (applyOne e t).multiple = e.multiple := by
  rw [applyOne]
  split <;> rfl

theorem single_apply (ts : Transforms) (e : Env) : (ts.apply e).single = e.single := by
  induction ts generalizing e with
  | nil => rfl
  | cons t ts ih => exact (ih (applyOne e t)).trans single_applyOne

theorem multiple_apply (ts : Transforms) (e : Env) : (ts.apply e).multiple = e.multiple := by
  induction ts generalizing e with
  | nil => rfl
  | cons t ts ih => exact (ih (applyOne e t)).trans multiple_applyOne

theorem capturedText_apply (ts : Transforms) (e : Env) (c : String) :
    (ts.apply e).capturedText c = e.capturedText c := by
  rw [Env.capturedText, Env.node?, single_apply, multiple_apply, Env.capturedText, Env.node?]

theorem apply_snoc : apply (ts ++ [t]) e = applyOne (ts.apply e) t := by
  rw [apply, List.foldl_append]
  rfl

theorem transformed?_applyOne_of_ne (h : name ≠ t.name) :
    (applyOne e t).transformed? name = e.transformed? name := by
  rw [applyOne]
  split
  · exact NameMap.find?_insert_of_ne h _ _
  · rfl

theorem transformed?_applyOne_self (h : e.transformed? t.name = none) :
    (applyOne e t).transformed? t.name = (input e t.source).map t.transform.apply := by
  rw [applyOne]
  split
  · next text htext =>
    rw [htext]
    exact NameMap.find?_insert_self _ _ _
  · next hnone =>
    rw [hnone]
    exact h

theorem transformed?_apply_of_not_mem (h : name ∉ ts.names) :
    (ts.apply e).transformed? name = e.transformed? name := by
  induction ts generalizing e with
  | nil => rfl
  | cons t ts ih =>
    rw [names, List.map_cons, List.mem_cons, not_or] at h
    exact (ih h.2).trans (transformed?_applyOne_of_ne h.1)

namespace Arranged

theorem front (h : Arranged (ts ++ [t])) : Arranged ts := by
  have hnodup := h.nodup
  rw [names, List.map_append, List.nodup_append] at hnodup
  exact ⟨hnodup.1, fun hts => h.earlier (by rw [hts, List.append_assoc, List.cons_append])⟩

theorem last_not_mem (h : Arranged (ts ++ [t])) : t.name ∉ ts.names := by
  have hnodup := h.nodup
  rw [names, List.map_append, List.nodup_append] at hnodup
  exact fun hmem => hnodup.2.2 t.name hmem t.name (by simp) rfl

theorem mem_of_source (h : Arranged ts) (ht : t ∈ ts) (hsource : t.source = .transform name) :
    name ∈ ts.names := by
  obtain ⟨before, after, rfl⟩ := List.append_of_mem ht
  rw [names, List.map_append]
  exact List.mem_append_left _ (h.earlier rfl hsource)

end Arranged

/-- A text that a transform in order reads is not changed by the last transform. -/
theorem input_applyOne (h : Arranged (ts ++ [t])) {s : TransformSource}
    (hs : ∀ name, s = .transform name → name ∈ ts.names) :
    input (applyOne e t) s = input e s := by
  cases s with
  | capture c =>
    rw [input, input, Env.capturedText, Env.node?, single_applyOne, multiple_applyOne,
      Env.capturedText, Env.node?]
  | transform name =>
    exact transformed?_applyOne_of_ne fun heq => h.last_not_mem (heq ▸ hs name rfl)

/-- What a transform makes of what it reads in the end is its text in the end. -/
theorem transformed?_apply (h : Arranged ts) (he : ∀ name, e.transformed? name = none)
    (ht : t ∈ ts) :
    (ts.apply e).transformed? t.name = (input (ts.apply e) t.source).map t.transform.apply := by
  induction ts using List.reverseRecOn with
  | nil => exact absurd ht List.not_mem_nil
  | append_singleton ts last ih =>
    rw [apply_snoc]
    rcases List.mem_append.mp ht with ht | ht
    · have hne : t.name ≠ last.name := fun heq =>
        h.last_not_mem (heq ▸ List.mem_map_of_mem ht)
      rw [transformed?_applyOne_of_ne hne, ih h.front ht,
        input_applyOne h fun name => h.front.mem_of_source ht]
    · obtain rfl := List.mem_singleton.mp ht
      have hnone : (apply ts e).transformed? t.name = none :=
        (transformed?_apply_of_not_mem h.last_not_mem).trans (he t.name)
      rw [transformed?_applyOne_self hnone, input_applyOne h fun name => h.earlier rfl]

/-- The text of a source, given the texts of the transforms. -/
def value (e : Env) (texts : String → Option Text) : TransformSource → Option Text
  | .capture name => e.capturedText name
  | .transform name => texts name

theorem value_ite {v : String} {texts : String → Option Text} :
    value e texts (if specs.contains v then .transform v else .capture v) =
      if specs.contains v = true then texts v else e.capturedText v := by
  split <;> rfl

theorem input_apply {s : TransformSource} :
    input (ts.apply e) s = value e (ts.apply e).transformed? s := by
  cases s with
  | capture c => exact capturedText_apply ts e c
  | transform name => rfl

/-- Two solutions of the equations of transforms in order agree on the names of these. -/
theorem eq_of_equations {f g : String → Option Text} (h : Arranged ts)
    (hf : ∀ t ∈ ts, f t.name = (value e f t.source).map t.transform.apply)
    (hg : ∀ t ∈ ts, g t.name = (value e g t.source).map t.transform.apply) :
    ∀ name ∈ ts.names, f name = g name := by
  induction ts using List.reverseRecOn with
  | nil => exact fun name hname => absurd hname List.not_mem_nil
  | append_singleton ts last ih =>
    obtain ⟨hf, hflast⟩ := List.forall_mem_append.mp hf
    obtain ⟨hg, hglast⟩ := List.forall_mem_append.mp hg
    have ih := ih h.front hf hg
    have hvalue : value e f last.source = value e g last.source := by
      cases hsource : last.source with
      | capture c => rfl
      | transform name => exact ih name (h.earlier rfl hsource)
    intro name hname
    rw [names, List.map_append, List.mem_append] at hname
    rcases hname with hname | hname
    · exact ih name hname
    · obtain rfl := List.mem_singleton.mp hname
      rw [hflast last List.mem_cons_self, hglast last List.mem_cons_self, hvalue]

/-- The equations of transforms as written are those of the transforms in order. -/
theorem solves_iff (h : Lists language specs ts) {texts : String → Option Text} :
    Solves language specs e texts ↔ (∀ name ∉ ts.names, texts name = none) ∧
      ∀ t ∈ ts, texts t.name = (value e texts t.source).map t.transform.apply := by
  constructor
  · intro hsolves
    refine ⟨fun name hname => hsolves.outside name (mt (h.mem_names_iff name).mpr hname), ?_⟩
    intro t ht
    obtain ⟨spec, v, hspec, hv, hsource, htransform⟩ := h.entry t ht
    rw [hsolves.equation hspec hv htransform, ← hsource, value_ite]
  · rintro ⟨hnone, hequations⟩
    refine ⟨fun name hname => hnone name (mt (h.mem_names_iff name).mp hname), ?_⟩
    intro name spec v transform hspec hv htransform
    have hname : name ∈ ts.names := (h.mem_names_iff name).mpr
      (List.mem_map_of_mem (NameMap.mem_of_find? hspec))
    obtain ⟨t, ht, rfl⟩ := List.mem_map.mp hname
    obtain ⟨spec', v', hspec', hv', hsource, htransform'⟩ := h.entry t ht
    obtain rfl := Option.some.inj (hspec.symm.trans hspec')
    obtain rfl := Option.some.inj (hv.symm.trans hv')
    obtain rfl := Except.ok.inj (htransform.symm.trans htransform')
    rw [hequations t ht, ← hsource, value_ite]

/-- Every transform in order leads to a capture. -/
theorem exists_endsAt (h : Arranged ts) (hentries : ∀ t ∈ ts, IsEntry language specs t) :
    ∀ name ∈ ts.names, ∃ c, EndsAt language specs name c := by
  induction ts using List.reverseRecOn with
  | nil => exact fun name hname => absurd hname List.not_mem_nil
  | append_singleton ts last ih =>
    obtain ⟨hentries, hlast⟩ := List.forall_mem_append.mp hentries
    have ih := ih h.front hentries
    intro name hname
    rw [names, List.map_append, List.mem_append] at hname
    rcases hname with hname | hname
    · exact ih name hname
    · obtain rfl := List.mem_singleton.mp hname
      obtain ⟨spec, v, hspec, hv, hsource, -⟩ := hlast last List.mem_cons_self
      by_cases hcontains : specs.contains v = true
      · rw [if_pos hcontains] at hsource
        obtain ⟨c, hc⟩ := ih v (h.earlier rfl hsource.symm)
        exact ⟨c, .transform ⟨spec, hspec, hv, hcontains⟩ hc⟩
      · exact ⟨v, .capture hspec hv (Bool.not_eq_true _ ▸ hcontains)⟩

/-- A transform that leads to a capture has a text if the capture has one. -/
theorem eq_none_iff_of_endsAt {texts : String → Option Text} {c : String}
    (hsolves : Solves language specs e texts)
    (hoperation : ∀ {name spec}, specs.find? name = some spec →
      ∃ t, Transform.compile spec.operation = .ok t)
    (h : EndsAt language specs name c) : texts name = none ↔ e.capturedText c = none := by
  induction h with
  | capture hspec hv hcontains =>
    obtain ⟨t, ht⟩ := hoperation hspec
    simp [hsolves.equation hspec hv ht, hcontains]
  | transform hreads _ ih =>
    obtain ⟨spec, hspec, hv, hcontains⟩ := hreads
    obtain ⟨t, ht⟩ := hoperation hspec
    rw [hsolves.equation hspec hv ht, if_pos hcontains, Option.map_eq_none_iff, ih]

/-! ## Transforms as written -/

/-- Every name has a transform that reads something, and whose operation is valid. -/
theorem Lists.exists_entry (h : Lists language specs ts) (hname : name ∈ specs.names) :
    ∃ spec v t, specs.find? name = some spec ∧ spec.reads? language.sigil = some v ∧
      Transform.compile spec.operation = .ok t := by
  obtain ⟨t, ht, rfl⟩ := List.mem_map.mp ((h.mem_names_iff name).mpr hname)
  obtain ⟨spec, v, hspec, hv, -, htransform⟩ := h.entry t ht
  exact ⟨spec, v, t.transform, hspec, hv, htransform⟩

theorem Lists.operation (h : Lists language specs ts) {spec : TransformSpec}
    (hspec : specs.find? name = some spec) : ∃ t, Transform.compile spec.operation = .ok t := by
  obtain ⟨spec', -, t, hspec', -, ht⟩ :=
    h.exists_entry (List.mem_map_of_mem (NameMap.mem_of_find? hspec))
  obtain rfl := Option.some.inj (hspec.symm.trans hspec')
  exact ⟨t, ht⟩

theorem Lists.mem_before (h : Lists language specs ts) {before after : List String} {a b : String}
    (hreads : Reads language specs a b) (hnames : ts.names = before ++ a :: after) :
    b ∈ before := by
  obtain ⟨front, back, rfl, rfl, hback⟩ := List.map_eq_append_iff.mp hnames
  obtain ⟨t, rest, rfl, rfl, -⟩ := List.map_eq_cons_iff.mp hback
  obtain ⟨spec, hspec, hb, hcontains⟩ := hreads
  obtain ⟨spec', v, hspec', hv, hsource, -⟩ :=
    h.entry t (List.mem_append_right _ List.mem_cons_self)
  obtain rfl := Option.some.inj (hspec.symm.trans hspec')
  obtain rfl := Option.some.inj (hb.symm.trans hv)
  rw [if_pos hcontains] at hsource
  exact h.arranged.earlier rfl hsource.symm

/-- Valid transforms are refused as cyclic exactly if one of them leads back to itself, and are
accepted otherwise. Transforms that are accepted are listed each once and after the one that they
read, and each of them reads something and has a valid operation. Applied to an environment without
texts of transforms, they leave the captures as they are and solve the equations of the transforms,
which nothing else does; a transform is left without a text exactly if its sources lead to a capture
that is not bound. -/
theorem compile_iff_acyclic_and_apply_solves (language : Language)
    (specs : NameMap TransformSpec) :
    (Valid language specs →
      ((∃ name, compile language specs = .error (.cyclicTransform name)) ↔
        ∃ name, Relation.TransGen (Reads language specs) name name) ∧
      ((¬ ∃ name, Relation.TransGen (Reads language specs) name name) →
        ∃ ts, compile language specs = .ok ts)) ∧
    ∀ ts, compile language specs = .ok ts →
      (ts.names.Nodup ∧ (∀ name, name ∈ ts.names ↔ name ∈ specs.names) ∧
        ∀ a b before after, Reads language specs a b → ts.names = before ++ a :: after →
          b ∈ before) ∧
      (∀ name ∈ specs.names, ∃ spec v t, specs.find? name = some spec ∧
        spec.reads? language.sigil = some v ∧ Transform.compile spec.operation = .ok t) ∧
      ∀ e : Env, e.transformed = .empty →
        (ts.apply e).single = e.single ∧ (ts.apply e).multiple = e.multiple ∧
        Solves language specs e (ts.apply e).transformed? ∧
        (∀ texts, Solves language specs e texts → texts = (ts.apply e).transformed?) ∧
        ∀ name ∈ specs.names, (∃ c, EndsAt language specs name c) ∧
          ((ts.apply e).transformed? name = none ↔
            ∃ c, EndsAt language specs name c ∧ e.capturedText c = none) := by
  constructor
  · intro hvalid
    rcases compile_cases hvalid with ⟨⟨ts, hts⟩, hacyclic⟩ | ⟨name, herror, hcycle⟩
    · refine ⟨iff_of_false ?_ fun ⟨name, hcycle⟩ => hacyclic name hcycle, fun _ => ⟨ts, hts⟩⟩
      rintro ⟨name, herror⟩
      cases hts.symm.trans herror
    · exact ⟨iff_of_true ⟨name, herror⟩ ⟨name, hcycle⟩, fun hnot => absurd ⟨name, hcycle⟩ hnot⟩
  · intro ts hts
    have h := lists_of_compile hts
    refine ⟨⟨h.arranged.nodup, h.mem_names_iff, fun a b before after => h.mem_before⟩,
      fun name => h.exists_entry, ?_⟩
    intro e he
    have hnone : ∀ name, e.transformed? name = none := fun name => by
      rw [Env.transformed?, he, NameMap.find?_empty]
    have hequations : ∀ t ∈ ts, (ts.apply e).transformed? t.name =
        (value e (ts.apply e).transformed? t.source).map t.transform.apply := fun t ht => by
      rw [transformed?_apply h.arranged hnone ht, input_apply]
    have hsolves : Solves language specs e (ts.apply e).transformed? := (solves_iff h).mpr
      ⟨fun name hname => (transformed?_apply_of_not_mem hname).trans (hnone name), hequations⟩
    refine ⟨single_apply ts e, multiple_apply ts e, hsolves, fun texts htexts => ?_, ?_⟩
    · funext name
      by_cases hname : name ∈ ts.names
      · exact eq_of_equations h.arranged ((solves_iff h).mp htexts).2 hequations name hname
      · rw [((solves_iff h).mp htexts).1 name hname, ((solves_iff h).mp hsolves).1 name hname]
    · intro name hname
      obtain ⟨c, hc⟩ := exists_endsAt h.arranged h.entry name ((h.mem_names_iff name).mpr hname)
      refine ⟨⟨c, hc⟩, fun hunset => ⟨c, hc, ?_⟩, fun ⟨c, hc, hunbound⟩ => ?_⟩
      · exact (eq_none_iff_of_endsAt hsolves h.operation hc).mp hunset
      · exact (eq_none_iff_of_endsAt hsolves h.operation hc).mpr hunbound

/-- Two transforms of which the first reads the second. -/
def chained : NameMap TransformSpec :=
  [("A", ⟨"$B", .substring (some 1) none⟩), ("B", ⟨"$VALUE", .convert .upper none⟩)]

/-- A language that refers to captures by the usual sigil. -/
def anyLanguage : Language := .ofBuiltin .rust ⟨fun _ => none, fun _ => true, fun _ => true⟩

/-- The two transforms are valid and accepted, so none of them leads back to itself, and what `A`
reads comes first. -/
theorem compile_chained : Valid anyLanguage chained ∧
    (¬ ∃ name, Relation.TransGen (Reads anyLanguage chained) name name) ∧
    ∃ ts, compile anyLanguage chained = .ok ts ∧
      ∀ before after, ts.names = before ++ "A" :: after → "B" ∈ before := by
  obtain ⟨hcompile, hlists⟩ := compile_iff_acyclic_and_apply_solves anyLanguage chained
  have hvalid : Valid anyLanguage chained := by
    refine ⟨List.forall_mem_cons.mpr ⟨⟨"B", by decide +kernel⟩,
      List.forall_mem_singleton.mpr ⟨"VALUE", by decide +kernel⟩⟩, ?_⟩
    exact List.forall_mem_cons.mpr ⟨⟨_, rfl⟩, List.forall_mem_singleton.mpr ⟨_, rfl⟩⟩
  obtain ⟨hcyclic, haccepted⟩ := hcompile hvalid
  have hacyclic : ¬ ∃ name, Relation.TransGen (Reads anyLanguage chained) name name := by
    intro hcycle
    obtain ⟨name, herror⟩ := hcyclic.mpr hcycle
    have hok : (compile anyLanguage chained).isOk = true := by decide +kernel
    rw [herror] at hok
    cases hok
  obtain ⟨ts, hts⟩ := haccepted hacyclic
  refine ⟨hvalid, hacyclic, ts, hts, fun before after => (hlists ts hts).1.2.2 _ _ _ _ ?_⟩
  exact ⟨_, rfl, by decide +kernel, by decide⟩

end Transforms

end StructuralSearch
