import StructuralSearch.Proofs.Except
import StructuralSearch.Proofs.Matching.Completeness
import StructuralSearch.Proofs.Tree.Navigation

/-!
# From one level of strictness to a looser one

From level to level, more nodes may go without a partner, and in the end the texts of leaves are
ignored. So what embeds at one level embeds at each looser one. But the search does not consider all
embeddings. A pattern node that may go without a partner has none, so a run that stood behind it
begins earlier; and a nested node keeps the first alignment that it finds, which may be another one
than at the stricter level. If the same name is used again, the match can be lost.

* `Strictness.rank`: the order of the levels.

Results:
1. `embeds_of_le`: what embeds at one level embeds at each looser one.
2. `fits_of_le`: the search considers the same embedding, if it leaves out the same pattern nodes.
3. `Pattern.bindings?_of_le`: what is left of a match at a looser level.
4. `looser_levels_lose_match`: a pattern that matches a node at the stricter levels only.
-/

namespace StructuralSearch

namespace Strictness

variable {level looser : Strictness} {kind : String} {named : Bool}

/-- The place of a level in the list of all levels, which begins with the strictest. -/
def rank (level : Strictness) : Nat := all.idxOf level

/-- A level is below those that are looser. -/
instance : LE Strictness := ⟨fun a b => a.rank ≤ b.rank⟩

instance (a b : Strictness) : Decidable (a ≤ b) := inferInstanceAs (Decidable (a.rank ≤ b.rank))

theorem skipsGoal_of_le (h : level ≤ looser) (hl : level.skipsGoal kind named = true) :
    looser.skipsGoal kind named = true := by
  cases level <;> cases looser <;> simp_all +decide [skipsGoal]

theorem skipsCandidate_of_le (h : level ≤ looser) (hl : level.skipsCandidate kind named = true) :
    looser.skipsCandidate kind named = true := by
  cases level <;> cases looser <;> simp_all +decide [skipsCandidate]

theorem comparesText_of_le (h : level ≤ looser) (hl : looser.comparesText = true) :
    level.comparesText = true := by
  cases level <;> cases looser <;> simp_all +decide

end Strictness

variable {x : Char} {level looser : Strictness} {s : Assignment}

/-! ## Embeddings -/

theorem aligns_of_le (hle : level ≤ looser) {gs : List Shape} {cs : List Node}
    (ih : ∀ g ∈ gs, ∀ c, Embeds x level s g c → Embeds x looser s g c)
    (h : Aligns x level s gs cs) : Aligns x looser s gs cs := by
  match h with
  | .done => exact .done
  | .leave hl h =>
    exact .leave (Strictness.skipsGoal_of_le hle hl)
      (aligns_of_le hle (List.forall_mem_cons.mp ih).2 h)
  | .pass hc h => exact .pass (Strictness.skipsCandidate_of_le hle hc) (aligns_of_le hle ih h)
  | .run hm hs h => exact .run hm hs (aligns_of_le hle (List.forall_mem_cons.mp ih).2 h)
  | .pair hc h =>
    obtain ⟨ihg, ihgs⟩ := List.forall_mem_cons.mp ih
    exact .pair (ihg _ hc) (aligns_of_le hle ihgs h)

/-- What embeds at one level embeds at each looser one under the same assignment. -/
theorem embeds_of_le (hle : level ≤ looser) {g : Shape} {c : Node} (h : Embeds x level s g c) :
    Embeds x looser s g c := by
  induction g using Shape.induct generalizing c with
  | node kind named text goals ih =>
    cases h with
    | single hm hn hs => exact .single hm hn hs
    | multiple hm hs => exact .multiple hm hs
    | leaf hm hk hc ht =>
      exact .leaf hm hk hc fun hcompares => ht (Strictness.comparesText_of_le hle hcompares)
    | branch hm hk hc h =>
      exact .branch hm hk hc (aligns_of_le hle (fun g hg c => ih g hg) h)

theorem kind_of_embeds {g : Shape} {c : Node} (h : Embeds x level s g c)
    (hm : g.metavariable? x = none) : g.kind = c.kind := by
  cases h with
  | single hm' _ _ | multiple hm' _ => simp [hm] at hm'
  | leaf _ hk _ _ | branch _ hk _ _ => exact hk

/-! ## Embeddings that the search considers -/

theorem skipsNode_of_le (hle : level ≤ looser) {cs : List Node}
    (h : ∀ c ∈ cs, Matching.skipsNode level c = true) :
    ∀ c ∈ cs, Matching.skipsNode looser c = true :=
  fun c hc => Strictness.skipsCandidate_of_le hle (h c hc)

theorem fitsAmong_of_le (hle : level ≤ looser) {gs : List Shape} {cs : List Node}
    (ih : ∀ g ∈ gs, ∀ c, (∀ l ∈ g.left x looser, level.skipsGoal l.kind l.named = true) →
      Fits x level s g c → Fits x looser s g c)
    (hleft : ∀ l ∈ Shape.leftAmong x looser gs, level.skipsGoal l.kind l.named = true)
    (h : FitsAmong x level s gs cs) : FitsAmong x looser s gs cs := by
  induction gs generalizing cs with
  | nil =>
    cases h with
    | done hs => exact .done (skipsNode_of_le hle hs)
  | cons g gs ihs =>
    obtain ⟨ihg, ihgs⟩ := List.forall_mem_cons.mp ih
    rw [Shape.leftAmong, List.forall_mem_append] at hleft
    obtain ⟨hleftg, hleftgs⟩ := hleft
    cases h with
    | run hm hs h => exact .run hm hs (ihs ihgs hleftgs h)
    | leave hr hl h =>
      exact .leave hr (Strictness.skipsGoal_of_le hle hl) (ihs ihgs hleftgs h)
    | pair hr hl hp hc h =>
      cases hl' : looser.skipsGoal g.kind g.named with
      | true =>
        -- the pattern node would be left out at the stricter level, too
        rw [if_pos (Shape.isLeft_of_skipsGoal hr hl')] at hleftg
        simp [hleftg g (List.mem_singleton_self g)] at hl
      | false =>
        rw [if_neg (by simp [Shape.isLeft_of_not_skipsGoal hl'])] at hleftg
        exact .pair hr hl' (skipsNode_of_le hle hp) (ihg _ hleftg hc) (ihs ihgs hleftgs h)

/-- If no more pattern nodes are left out at the looser level, the search considers the same
embedding. -/
theorem fits_of_le (hle : level ≤ looser) {g : Shape} {c : Node}
    (hleft : ∀ l ∈ g.left x looser, level.skipsGoal l.kind l.named = true)
    (h : Fits x level s g c) : Fits x looser s g c := by
  induction g using Shape.induct generalizing c with
  | node kind named text goals ih =>
    cases h with
    | single hm hn hs => exact .single hm hn hs
    | multiple hm hs => exact .multiple hm hs
    | leaf hm hk hc ht =>
      exact .leaf hm hk hc fun hcompares => ht (Strictness.comparesText_of_le hle hcompares)
    | branch hm hk hc h =>
      exact .branch hm hk hc (fitsAmong_of_le hle (fun g hg c => ih g hg) hleft h)

/-! ## Matches -/

namespace Pattern

variable {p : Pattern} {n : Node} {e : Env}

/-- For a settled pattern, every embedding that the search considers is as good as a match. -/
theorem isSome_bindings?_iff_fits
    (hsettled : Settled p.language.expando level [] p.root.shape n) :
    ((p.withStrictness level).bindings? n).isSome = true ↔
      ∃ s, Fits p.language.expando level s p.root.shape n := by
  constructor
  · intro h
    obtain ⟨e, he⟩ := Option.isSome_iff_exists.mp h
    exact ⟨e.assignment, Matching.fits_of_node he (Env.within_refl e)⟩
  · rintro ⟨s, h⟩
    exact Option.isSome_iff_exists.mpr (Matching.exists_node_of_fits hsettled (by simp)
      (fun v hv => absurd hv (Env.not_binds_empty v)) h)

/-- If a pattern matches a node at one level, its root embeds into the node at each looser level,
under what was bound. If the pattern is settled at the looser level, it matches there exactly if there
is an embedding that the search considers. There is one if no more pattern nodes are left out than at
the stricter level; and also if every run has a name of its own, and the pattern nodes that are left
out could only be paired with nodes that can be passed over. -/
theorem bindings?_of_le (hle : level ≤ looser)
    (h : (p.withStrictness level).bindings? n = some e) :
    Embeds p.language.expando looser e.assignment p.root.shape n ∧
    (Settled p.language.expando looser [] p.root.shape n →
      (((p.withStrictness looser).bindings? n).isSome = true ↔
        ∃ s, Fits p.language.expando looser s p.root.shape n) ∧
      ((∀ g ∈ p.root.shape.left p.language.expando looser,
          level.skipsGoal g.kind g.named = true) ∨
        (Shape.runs (p.root.shape.captures p.language.expando looser)).Nodup ∧
        (∀ g ∈ p.root.shape.left p.language.expando looser, ∀ c, n.OfTree c →
          Embeds p.language.expando looser e.assignment g c →
            Matching.skipsNode looser c = true) →
        ((p.withStrictness looser).bindings? n).isSome = true)) := by
  have hfits : Fits p.language.expando level e.assignment p.root.shape n :=
    Matching.fits_of_node h (Env.within_refl e)
  have hembeds : Embeds p.language.expando looser e.assignment p.root.shape n :=
    embeds_of_le hle (embeds_of_fits hfits)
  refine ⟨hembeds, fun hsettled => ?_⟩
  have hiff := isSome_bindings?_iff_fits hsettled
  refine ⟨hiff, ?_⟩
  rintro (hleft | ⟨hruns, hleft⟩)
  · exact hiff.mpr ⟨e.assignment, fits_of_le hle hleft hfits⟩
  · obtain ⟨m, hm⟩ := exists_fits_of_embeds (P := n.OfTree)
      (fun _ hm _ hc => Node.ofTree_children hm hc) hruns (Node.ofTree_self n) hleft hembeds
    exact hiff.mpr ⟨_, hm⟩

end Pattern

/-- In `[$X [$$$R $X]]` the brackets may be left out at the loosest level. They could only be paired
with brackets, which may be passed over, so the pattern still matches. -/
theorem bindings?_lastIsFirst_signature :
    ((lastIsFirst.withStrictness .signature).bindings? lastIsFirstText.root).isSome = true := by
  obtain ⟨e, he⟩ : ∃ e, (lastIsFirst.withStrictness .smart).bindings? lastIsFirstText.root =
      some e := Option.isSome_iff_exists.mp (by decide +kernel)
  have hsettled : Settled '_' .signature [] lastIsFirst.root.shape lastIsFirstText.root :=
    settled_of_bindsFirst (by decide +kernel)
  refine ((Pattern.bindings?_of_le (by decide) he).2 hsettled).2
    (Or.inr ⟨by decide +kernel, fun g hg c hc hembeds => ?_⟩)
  have hbrackets : ∀ g ∈ lastIsFirst.root.shape.left '_' .signature,
      g.metavariable? '_' = none ∧ ∀ id < lastIsFirstText.size,
        g.kind = Node.kind ⟨lastIsFirstText, id⟩ →
          Matching.skipsNode .signature ⟨lastIsFirstText, id⟩ = true := by
    decide +kernel
  obtain ⟨hnone, hskips⟩ := hbrackets g hg
  obtain ⟨tree, id⟩ := c
  obtain ⟨rfl, hid⟩ := Node.OfTree.listed hc (by decide)
  exact hskips id hid (kind_of_embeds hembeds hnone)

/-! ## A match that is lost -/

/-- A language of lists in brackets that knows the parse of the pattern `[$$$A 2 $$$A]`. -/
def bracketsOfTwoRuns : Language := .parsing fun _ => some
  [.plain none "lists" true 0 37, .plain (some 0) "list" true 0 37,
    .plain (some 1) "[" false 0 1, .plain (some 1) "name" true 1 17,
    .plain (some 1) "number" true 18 19, .plain (some 1) "name" true 20 36,
    .plain (some 1) "]" false 36 37]

/-- The text `[1 2 1]`. -/
def symmetricText : Tree where
  stamp := 1
  language := bracketsOfTwoRuns
  source := "[1 2 1]".toList
  records :=
    [.plain none "list" true 0 7, .plain (some 0) "[" false 0 1,
      .plain (some 0) "number" true 1 2, .plain (some 0) "number" true 3 4,
      .plain (some 0) "number" true 5 6, .plain (some 0) "]" false 6 7]

/-- Both runs are `1` where brackets need a partner. At the looser levels the brackets of the pattern
are left out and those of the text are not: the first run has to begin with the bracket, and the
second one cannot look like it. -/
theorem looser_levels_lose_match :
    ∃ p, Pattern.compile bracketsOfTwoRuns "[$$$A 2 $$$A]".toList = .ok p ∧
      (∀ level ∈ [Strictness.cst, .smart],
        ((p.withStrictness level).bindings? symmetricText.root).isSome = true) ∧
      ∀ looser ∈ [Strictness.ast, .relaxed, .signature],
        ((p.withStrictness looser).bindings? symmetricText.root).isSome = false := by
  have hcompiled : ((Pattern.compile bracketsOfTwoRuns "[$$$A 2 $$$A]".toList).toOption.any fun p =>
      decide ((∀ level ∈ [Strictness.cst, .smart],
          ((p.withStrictness level).bindings? symmetricText.root).isSome = true) ∧
        ∀ looser ∈ [Strictness.ast, .relaxed, .signature],
          ((p.withStrictness looser).bindings? symmetricText.root).isSome = false)) = true := by
    decide +kernel
  obtain ⟨p, hp, hcheck⟩ := Except.exists_of_any_toOption hcompiled
  exact ⟨p, hp, of_decide_eq_true hcheck⟩

end StructuralSearch
