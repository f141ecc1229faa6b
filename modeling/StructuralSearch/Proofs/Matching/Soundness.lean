import StructuralSearch.Proofs.Matching.Embedding
import StructuralSearch.Proofs.Tree

/-!
# The search for alignments, and its soundness

The children of a pattern node are aligned by a search that binds as it goes. `Chooses` lists the
alignments that it tries, without their order: how long each run is and which candidates are passed
over is free, while a pattern node with a partner binds what its own comparison with the partner
found.

Results:
1. `sequence_isSome_iff`: the search finds an alignment exactly if there is one of these.
2. `node_within`, `sequence_within`: it loses no capture on the way.
3. `fits_of_node`: what it finds fits under the captures it returns, however they are extended
   afterwards. So a capture that justified a step early on still does in the end.
4. `embeds_of_bindings?`: a match is an embedding of the pattern.
-/

namespace StructuralSearch

namespace Matching

/-- The alignments that the search tries, with the bindings before and after. -/
inductive Chooses (x : Char) (level : Strictness) :
    List Shape → List Node → Env → Env → Prop
  | done {cs : List Node} {e : Env} :
      (∀ c ∈ cs, skipsNode level c = true) → Chooses x level [] cs e e
  | run {g : Shape} {gs : List Shape} {name : String} {run rest : List Node} {e e₁ e' : Env} :
      g.metavariable? x = some (name, .multiple) → e.bindMultiple name run = some e₁ →
      Chooses x level gs rest e₁ e' → Chooses x level (g :: gs) (run ++ rest) e e'
  | leave {g : Shape} {gs : List Shape} {cs : List Node} {e e' : Env} :
      g.isRun x = false → level.skipsGoal g.kind g.named = true → Chooses x level gs cs e e' →
      Chooses x level (g :: gs) cs e e'
  | pair {g : Shape} {gs : List Shape} {passed : List Node} {c : Node} {rest : List Node}
      {e e₁ e' : Env} :
      g.isRun x = false → level.skipsGoal g.kind g.named = false →
      (∀ p ∈ passed, skipsNode level p = true) → node x level g c e = some e₁ →
      Chooses x level gs rest e₁ e' → Chooses x level (g :: gs) (passed ++ c :: rest) e e'

variable {x : Char} {level : Strictness}

/-! ## Cutting the candidates -/

theorem mem_splits {α : Type} {l a b : List α} : (a, b) ∈ splits l ↔ a ++ b = l := by
  induction l generalizing a with
  | nil => simp [splits]
  | cons y l ih =>
    cases a with
    | nil => simp [splits, eq_comm]
    | cons z a => simp [splits, ih, and_comm, eq_comm]

theorem mem_choices {skips : Node → Bool} {l : List Node} {c : Node} {rest : List Node} :
    (c, rest) ∈ choices skips l ↔
      ∃ passed, passed ++ c :: rest = l ∧ ∀ p ∈ passed, skips p = true := by
  induction l with
  | nil => simp [choices]
  | cons y l ih =>
    rw [choices, List.mem_cons]
    constructor
    · rintro (h | h)
      · cases h
        exact ⟨[], rfl, fun _ hp => absurd hp List.not_mem_nil⟩
      · split at h
        · next hy =>
          obtain ⟨passed, rfl, hp⟩ := ih.mp h
          exact ⟨y :: passed, rfl, List.forall_mem_cons.mpr ⟨hy, hp⟩⟩
        · exact absurd h List.not_mem_nil
    · rintro ⟨passed, hl, hp⟩
      cases passed with
      | nil =>
        cases hl
        exact Or.inl rfl
      | cons p passed =>
        cases hl
        obtain ⟨hy, hp⟩ := List.forall_mem_cons.mp hp
        rw [if_pos hy]
        exact Or.inr (ih.mpr ⟨passed, rfl, hp⟩)

/-! ## What one comparison does -/

/-- The four ways in which a comparison with one candidate succeeds. -/
theorem node_eq_some_iff {g : Shape} {c : Node} {e e' : Env} :
    node x level g c e = some e' ↔
      (∃ name, g.metavariable? x = some (name, .single) ∧ c.isNamed = true ∧
        e.bindSingle name c = some e') ∨
      (∃ name, g.metavariable? x = some (name, .multiple) ∧ e.bindMultiple name [c] = some e') ∨
      (g.metavariable? x = none ∧ g.kind = c.kind ∧ g.children = [] ∧
        (level.comparesText = true → g.text = c.text) ∧ e' = e) ∨
      (g.metavariable? x = none ∧ g.kind = c.kind ∧ g.children ≠ [] ∧
        sequence x level g.children c.children e = some e') := by
  obtain ⟨kind, named, text, goals⟩ := g
  rw [node.eq_def, Shape.metavariable?]
  simp only [Shape.text, Shape.kind, Shape.children]
  rcases Placeholder.decode? x text with _ | ⟨name, _ | _⟩
  · by_cases hk : kind = c.kind
    · cases goals with
      | nil =>
        have ht : (!level.comparesText || text == c.text) = true ↔
            (level.comparesText = true → text = c.text) := by
          cases level.comparesText <;> simp
        simp [hk, ← ht, @eq_comm _ e' e]
      | cons g gs => simp [hk]
    · simp [hk]
  · by_cases hn : c.isNamed = true <;> simp [hn]
  · simp

/-- What the search does with the next pattern node. -/
theorem sequence_cons (g : Shape) (gs : List Shape) (cs : List Node) (e : Env) :
    sequence x level (g :: gs) cs e =
      match g.metavariable? x with
      | some (name, .multiple) =>
        (splits cs).findSome? fun p =>
          (e.bindMultiple name p.1).bind (sequence x level gs p.2)
      | _ =>
        if level.skipsGoal g.kind g.named = true then sequence x level gs cs e
        else (choices (skipsNode level) cs).findSome? fun p =>
          (node x level g p.1 e).bind (sequence x level gs p.2) :=
  sequence.eq_2 ..

theorem sequence_cons_run {g : Shape} {name : String}
    (h : g.metavariable? x = some (name, .multiple)) (gs : List Shape) (cs : List Node) (e : Env) :
    sequence x level (g :: gs) cs e =
      (splits cs).findSome? fun p => (e.bindMultiple name p.1).bind (sequence x level gs p.2) := by
  rw [sequence_cons, h]

theorem sequence_cons_leave {g : Shape} (h : g.isRun x = false)
    (hl : level.skipsGoal g.kind g.named = true) (gs : List Shape) (cs : List Node) (e : Env) :
    sequence x level (g :: gs) cs e = sequence x level gs cs e := by
  rw [sequence_cons]
  split
  · next hm => simp [Shape.isRun_of_metavariable? hm] at h
  · rw [if_pos hl]

theorem sequence_cons_pair {g : Shape} (h : g.isRun x = false)
    (hl : level.skipsGoal g.kind g.named = false) (gs : List Shape) (cs : List Node) (e : Env) :
    sequence x level (g :: gs) cs e =
      (choices (skipsNode level) cs).findSome? fun p =>
        (node x level g p.1 e).bind (sequence x level gs p.2) := by
  rw [sequence_cons]
  split
  · next hm => simp [Shape.isRun_of_metavariable? hm] at h
  · rw [if_neg (by simp [hl])]

/-! ## The search tries every alignment -/

theorem chooses_of_sequence {gs : List Shape} {cs : List Node} {e e' : Env}
    (h : sequence x level gs cs e = some e') : Chooses x level gs cs e e' := by
  induction gs generalizing cs e with
  | nil =>
    rw [sequence] at h
    split at h
    · next hs =>
      cases h
      exact .done (List.all_eq_true.mp hs)
    · simp at h
  | cons g gs ih =>
    cases hr : g.isRun x with
    | true =>
      obtain ⟨name, hm⟩ := Shape.metavariable?_of_isRun hr
      rw [sequence_cons_run hm] at h
      obtain ⟨⟨run, rest⟩, hp, hb⟩ := List.exists_of_findSome?_eq_some h
      obtain ⟨e₁, he, hs⟩ := Option.bind_eq_some_iff.mp hb
      rw [← mem_splits.mp hp]
      exact .run hm he (ih hs)
    | false =>
      cases hl : level.skipsGoal g.kind g.named with
      | true =>
        rw [sequence_cons_leave hr hl] at h
        exact .leave hr hl (ih h)
      | false =>
        rw [sequence_cons_pair hr hl] at h
        obtain ⟨⟨c, rest⟩, hp, hb⟩ := List.exists_of_findSome?_eq_some h
        obtain ⟨e₁, he, hs⟩ := Option.bind_eq_some_iff.mp hb
        obtain ⟨passed, hcs, hpassed⟩ := mem_choices.mp hp
        rw [← hcs]
        exact .pair hr hl hpassed he (ih hs)

theorem isSome_sequence_of_chooses {gs : List Shape} {cs : List Node} {e e' : Env}
    (h : Chooses x level gs cs e e') : (sequence x level gs cs e).isSome = true := by
  induction h with
  | done hs => rw [sequence, if_pos (List.all_eq_true.mpr hs)]; rfl
  | @run g gs name run rest e e₁ e' hm he _ ih =>
    rw [sequence_cons_run hm, List.findSome?_isSome_iff]
    exact ⟨(run, rest), mem_splits.mpr rfl, by simpa [he] using ih⟩
  | leave hr hl _ ih => rwa [sequence_cons_leave hr hl]
  | @pair g gs passed c rest e e₁ e' hr hl hp he _ ih =>
    rw [sequence_cons_pair hr hl, List.findSome?_isSome_iff]
    exact ⟨(c, rest), mem_choices.mpr ⟨passed, rfl, hp⟩, by simpa [he] using ih⟩

/-- The search finds an alignment of the children exactly if one of those it tries succeeds: every
run length and every choice of the candidates passed over is tried, with what a nested comparison
binds taken as it is. -/
theorem sequence_isSome_iff {gs : List Shape} {cs : List Node} {e : Env} :
    (sequence x level gs cs e).isSome = true ↔ ∃ e', Chooses x level gs cs e e' := by
  constructor
  · intro h
    obtain ⟨e', he⟩ := Option.isSome_iff_exists.mp h
    exact ⟨e', chooses_of_sequence he⟩
  · rintro ⟨e', h⟩
    exact isSome_sequence_of_chooses h

/-! ## Captures are kept -/

theorem chooses_within {gs : List Shape} {cs : List Node} {e e' : Env}
    (ih : ∀ g ∈ gs, ∀ c e e', node x level g c e = some e' → e.Within e'.assignment)
    (h : Chooses x level gs cs e e') : e.Within e'.assignment := by
  induction h with
  | done _ => exact Env.within_refl _
  | run _ he _ ihs =>
    exact (Env.bindMultiple_within he).trans (ihs fun g hg => ih g (List.mem_cons_of_mem _ hg))
  | leave _ _ _ ihs => exact ihs fun g hg => ih g (List.mem_cons_of_mem _ hg)
  | pair _ _ _ he _ ihs =>
    exact (ih _ List.mem_cons_self _ _ _ he).trans
      (ihs fun g hg => ih g (List.mem_cons_of_mem _ hg))

/-- A comparison loses no capture. -/
theorem node_within {g : Shape} {c : Node} {e e' : Env} (h : node x level g c e = some e') :
    e.Within e'.assignment := by
  induction g using Shape.induct generalizing c e e' with
  | node kind named text goals ih =>
    rcases node_eq_some_iff.mp h with ⟨name, -, -, hb⟩ | ⟨name, -, hb⟩ | ⟨-, -, -, -, rfl⟩ |
      ⟨-, -, -, hs⟩
    · exact Env.bindSingle_within hb
    · exact Env.bindMultiple_within hb
    · exact Env.within_refl _
    · exact chooses_within (fun g hg c e e' => ih g hg) (chooses_of_sequence hs)

/-- An alignment loses no capture. -/
theorem sequence_within {gs : List Shape} {cs : List Node} {e e' : Env}
    (h : Chooses x level gs cs e e') : e.Within e'.assignment :=
  chooses_within (fun _ _ _ _ _ => node_within) h

/-! ## What is found fits -/

theorem fitsAmong_of_chooses {gs : List Shape} {cs : List Node} {e e' : Env} {s : Assignment}
    (ih : ∀ g ∈ gs, ∀ c e e', node x level g c e = some e' → e'.Within s → Fits x level s g c)
    (h : Chooses x level gs cs e e') (k : e'.Within s) : FitsAmong x level s gs cs := by
  induction h with
  | done hs => exact .done hs
  | run hm he hc ihs =>
    -- what was bound here is still captured at the end
    have hrest := ihs (fun g hg => ih g (List.mem_cons_of_mem _ hg)) k
    exact .run hm (Env.bindMultiple_stands he ((sequence_within hc).trans k)) hrest
  | leave hr hl _ ihs => exact .leave hr hl (ihs (fun g hg => ih g (List.mem_cons_of_mem _ hg)) k)
  | pair hr hl hp he hc ihs =>
    have hrest := ihs (fun g hg => ih g (List.mem_cons_of_mem _ hg)) k
    exact .pair hr hl hp (ih _ List.mem_cons_self _ _ _ he ((sequence_within hc).trans k)) hrest

/-- A comparison that succeeds is a fit under every assignment that has the captures it returns. -/
theorem fits_of_node {g : Shape} {c : Node} {e e' : Env} {s : Assignment}
    (h : node x level g c e = some e') (k : e'.Within s) : Fits x level s g c := by
  induction g using Shape.induct generalizing c e e' with
  | node kind named text goals ih =>
    rcases node_eq_some_iff.mp h with ⟨name, hm, hn, hb⟩ | ⟨name, hm, hb⟩ |
      ⟨hm, hk, hc, ht, rfl⟩ | ⟨hm, hk, hc, hs⟩
    · exact .single hm hn (Env.bindSingle_stands hb k)
    · exact .multiple hm (Env.bindMultiple_stands hb k)
    · exact .leaf hm hk hc ht
    · have hgoals : FitsAmong x level s goals c.children :=
        fitsAmong_of_chooses (fun g hg c e e' he => ih g hg he) (chooses_of_sequence hs) k
      exact .branch hm hk hc hgoals

end Matching

/-- If a pattern matches a node, its root embeds into the node under what was bound. -/
theorem Pattern.embeds_of_bindings? {p : Pattern} {n : Node} {e : Env}
    (h : p.bindings? n = some e) :
    Embeds p.language.expando p.strictness e.assignment p.root.shape n :=
  embeds_of_fits (Matching.fits_of_node h (Env.within_refl e))

/-! ## An example -/

/-- The pattern `[$X [$$$R $X]]`. -/
def lastIsFirst : Pattern where
  source := "[$X [$$$R $X]]".toList
  language := .parsing fun _ => none
  metavariables := [⟨"X", .single, 1⟩, ⟨"R", .multiple, 5⟩, ⟨"X", .single, 10⟩]
  tree := ⟨0, .parsing fun _ => none, "[__HEDDLE_MV_X__ [__HEDDLE_MVS_R__ __HEDDLE_MV_X__]]".toList,
    [.plain none "list" true 0 52, .plain (some 0) "[" false 0 1,
      .plain (some 0) "name" true 1 16, .plain (some 0) "list" true 17 51,
      .plain (some 3) "[" false 17 18, .plain (some 3) "name" true 18 34,
      .plain (some 3) "name" true 35 50, .plain (some 3) "]" false 50 51,
      .plain (some 0) "]" false 51 52]⟩
  rootId := 0
  strictness := .smart

/-- The text `[a [b c a]]`. -/
def lastIsFirstText : Tree where
  stamp := 1
  language := .parsing fun _ => none
  source := "[a [b c a]]".toList
  records :=
    [.plain none "list" true 0 11, .plain (some 0) "[" false 0 1, .plain (some 0) "name" true 1 2,
      .plain (some 0) "list" true 3 10, .plain (some 3) "[" false 3 4,
      .plain (some 3) "name" true 4 5, .plain (some 3) "name" true 6 7,
      .plain (some 3) "name" true 8 9, .plain (some 3) "]" false 9 10,
      .plain (some 0) "]" false 10 11]

/-- The first use of a name still justifies the second, after a run in a nested list. -/
theorem embeds_lastIsFirst :
    ∃ e, lastIsFirst.bindings? lastIsFirstText.root = some e ∧
      Embeds '_' .smart e.assignment lastIsFirst.root.shape lastIsFirstText.root := by
  obtain ⟨e, he⟩ : ∃ e, lastIsFirst.bindings? lastIsFirstText.root = some e :=
    Option.isSome_iff_exists.mp (by decide +kernel)
  exact ⟨e, he, Pattern.embeds_of_bindings? he⟩

end StructuralSearch
