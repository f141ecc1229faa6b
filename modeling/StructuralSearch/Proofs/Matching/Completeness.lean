import StructuralSearch.Proofs.Matching.Soundness
import StructuralSearch.Proofs.Tree.Navigation

/-!
# How complete the search for alignments is

The search goes back over every choice among the children of one pattern node, but not into a child:
once a pattern node with children of its own has been compared with a candidate, what was bound
there stays. So a pattern may embed into a node that it does not match, if a name is used again
after such a node and the first way to align its children binds the name to something else.

* `Settled`: no name is used again after a nested pattern node that could have bound it otherwise.
* `Shape.bindsFirst`: whatever a nested node shares with the nodes after it is bound before it.

Results:
1. `node_binds`: a comparison binds the variables of the pattern node, and nothing else.
2. `exists_node_of_fits`: for settled patterns, whatever fits is found.
3. `isSome_bindings?_iff`: a match is an alignment of the kind that the search tries, and for
   settled patterns any fit whatsoever.
4. `settled_of_bindsFirst`: a pattern that binds first is settled.
5. `nested_choice_is_kept`: a pattern that embeds into a node and does not match it.
-/

namespace StructuralSearch

variable {x : Char} {level : Strictness}

namespace Matching

theorem chooses_binds {gs : List Shape} {cs : List Node} {e e' : Env}
    (ih : ∀ g ∈ gs, ∀ c e e', node x level g c e = some e' →
      ∀ v, e'.Binds v ↔ e.Binds v ∨ v ∈ g.captures x level)
    (h : Chooses x level gs cs e e') (v : String × Arity) :
    e'.Binds v ↔ e.Binds v ∨ v ∈ Shape.capturesAmong x level gs := by
  induction h with
  | done _ => simp [Shape.capturesAmong]
  | run hm he _ ihs =>
    rw [ihs fun g hg => ih g (List.mem_cons_of_mem _ hg), Env.binds_of_bindMultiple he,
      Shape.capturesAmong_cons_kept (Shape.isLeft_of_metavariable? hm), List.mem_append,
      Shape.captures_of_metavariable? hm, or_assoc]
  | leave hr hl _ ihs =>
    rw [ihs fun g hg => ih g (List.mem_cons_of_mem _ hg),
      Shape.capturesAmong_cons_left (Shape.isLeft_of_skipsGoal hr hl)]
  | pair _ hl _ he _ ihs =>
    rw [ihs fun g hg => ih g (List.mem_cons_of_mem _ hg), ih _ List.mem_cons_self _ _ _ he,
      Shape.capturesAmong_cons_kept (Shape.isLeft_of_not_skipsGoal hl), List.mem_append, or_assoc]

/-- A comparison binds the variables of the pattern node, whatever the candidate. -/
theorem node_binds {g : Shape} {c : Node} {e e' : Env} (h : node x level g c e = some e')
    (v : String × Arity) : e'.Binds v ↔ e.Binds v ∨ v ∈ g.captures x level := by
  induction g using Shape.induct generalizing c e e' v with
  | node kind named text goals ih =>
    rcases node_eq_some_iff.mp h with ⟨name, hm, -, hb⟩ | ⟨name, hm, hb⟩ | ⟨hm, -, hc, -, rfl⟩ |
      ⟨hm, -, -, hs⟩
    · rw [Env.binds_of_bindSingle hb, Shape.captures_of_metavariable? hm]
    · rw [Env.binds_of_bindMultiple hb, Shape.captures_of_metavariable? hm]
    · simp [Shape.captures_of_branch hm, hc, Shape.capturesAmong]
    · rw [Shape.captures_of_branch hm]
      exact chooses_binds (fun g hg c e e' he v => ih g hg he v) (chooses_of_sequence hs) v

end Matching

/-! ## Settled patterns -/

mutual

/-- No name is used again after a nested pattern node that could have bound it otherwise, given
which variables are bound before. -/
def Settled (x : Char) (level : Strictness) (before : List (String × Arity)) :
    Shape → Node → Prop
  | .node _ _ text goals, c =>
    Placeholder.decode? x text = none → SettledAmong x level before goals c.children

/-- The same for pattern nodes in order, each of which may meet any of the candidates. -/
def SettledAmong (x : Char) (level : Strictness) (before : List (String × Arity)) :
    List Shape → List Node → Prop
  | [], _ => True
  | g :: gs, cs =>
    if g.isLeft x level then SettledAmong x level before gs cs
    else
      (∀ c ∈ cs, Settled x level before g c ∧
        ∀ s t, Fits x level s g c → Fits x level t g c → (∀ v ∈ before, s.looks v = t.looks v) →
          ∀ v ∈ g.captures x level, v ∈ Shape.capturesAmong x level gs →
            s.looks v = t.looks v) ∧
      SettledAmong x level (g.captures x level ++ before) gs cs

end

theorem settled_branch {before : List (String × Arity)} {g : Shape} {c : Node}
    (h : Settled x level before g c) (hm : g.metavariable? x = none) :
    SettledAmong x level before g.children c.children := by
  obtain ⟨kind, named, text, goals⟩ := g
  rw [Settled] at h
  exact h hm

theorem settledAmong_cons_left {before : List (String × Arity)} {g : Shape} {gs : List Shape}
    {cs : List Node} (h : g.isLeft x level = true) :
    SettledAmong x level before (g :: gs) cs ↔ SettledAmong x level before gs cs := by
  rw [SettledAmong, if_pos h]

theorem settledAmong_cons_kept {before : List (String × Arity)} {g : Shape} {gs : List Shape}
    {cs : List Node} (h : g.isLeft x level = false) :
    SettledAmong x level before (g :: gs) cs ↔
      (∀ c ∈ cs, Settled x level before g c ∧
        ∀ s t, Fits x level s g c → Fits x level t g c → (∀ v ∈ before, s.looks v = t.looks v) →
          ∀ v ∈ g.captures x level, v ∈ Shape.capturesAmong x level gs →
            s.looks v = t.looks v) ∧
      SettledAmong x level (g.captures x level ++ before) gs cs := by
  rw [SettledAmong, if_neg (by simp [h])]

namespace Matching

/-- What a comparison bound, completed by an assignment under which the pattern node fits, is an
assignment under which it fits as well. If the assignment agreed with what was bound before and the
comparison could not bind otherwise what `shared` has, the two look alike on that. -/
theorem looks_orElse_of_node {before shared : List (String × Arity)} {g : Shape} {c : Node}
    {e e₁ : Env} {s : Assignment} (he : node x level g c e = some e₁) (ha : e.Agrees s)
    (hb : ∀ v ∈ before, e.Binds v) (h : Fits x level s g c)
    (hu : ∀ s t, Fits x level s g c → Fits x level t g c → (∀ v ∈ before, s.looks v = t.looks v) →
      ∀ v ∈ g.captures x level, v ∈ shared → s.looks v = t.looks v) :
    ∀ v ∈ shared, s.looks v = (e₁.assignment.orElse s).looks v := by
  have hwithin : e₁.Within (e₁.assignment.orElse s) :=
    ⟨fun _ _ hn => by simp [Assignment.orElse, Env.assignment, hn],
      fun _ _ hns => by simp [Assignment.orElse, Env.assignment, hns]⟩
  -- what was bound before the comparison looks alike in all three
  have hold : ∀ v, e.Binds v → s.looks v = (e₁.assignment.orElse s).looks v := by
    intro v hv
    rw [← ha v hv]
    have hv₁ : e₁.Binds v := (node_binds he v).mpr (Or.inl hv)
    exact ((node_within he).agrees v hv).trans (hwithin.agrees v hv₁)
  intro v hv
  by_cases hv₁ : e₁.Binds v
  · rcases (node_binds he v).mp hv₁ with hv₀ | hcap
    · exact hold v hv₀
    · exact hu s _ h (fits_of_node he hwithin) (fun w hw => hold w (hb w hw)) v hcap hv
  · have hnone : e₁.assignment.looks v = none := by simpa [Env.Binds, Env.looks] using hv₁
    rw [Assignment.looks_orElse, hnone, Option.none_or]

theorem agrees_orElse (e : Env) (s : Assignment) : e.Agrees (e.assignment.orElse s) := by
  intro v hv
  obtain ⟨l, hl⟩ := Option.isSome_iff_exists.mp hv
  rw [Env.looks] at hl ⊢
  rw [Assignment.looks_orElse, hl, Option.some_or]

theorem exists_chooses_of_fitsAmong {all : List Node} {gs : List Shape} {cs : List Node}
    {before : List (String × Arity)} {e : Env} {s : Assignment}
    (ih : ∀ g ∈ gs, ∀ c before e s, Settled x level before g c → (∀ v ∈ before, e.Binds v) →
      e.Agrees s → Fits x level s g c → ∃ e', node x level g c e = some e')
    (hcs : ∀ c ∈ cs, c ∈ all) (hsettled : SettledAmong x level before gs all)
    (hb : ∀ v ∈ before, e.Binds v) (ha : e.Agrees s) (h : FitsAmong x level s gs cs) :
    ∃ e', Chooses x level gs cs e e' := by
  induction gs generalizing cs before e s with
  | nil =>
    cases h with
    | done hs => exact ⟨e, .done hs⟩
  | cons g gs ihs =>
    obtain ⟨ihg, ihgs⟩ := List.forall_mem_cons.mp ih
    cases h with
    | @run _ _ name run rest hm hs h =>
      rw [settledAmong_cons_kept (Shape.isLeft_of_metavariable? hm)] at hsettled
      -- the search tries the length that fits, too
      obtain ⟨e₁, he, ha₁⟩ := Env.exists_bindMultiple ha hs
      have hb₁ : ∀ v ∈ g.captures x level ++ before, e₁.Binds v := by
        intro v hv
        rw [Shape.captures_of_metavariable? hm, List.mem_append] at hv
        rw [Env.binds_of_bindMultiple he]
        exact hv.symm.imp (hb v) id
      obtain ⟨e', hc⟩ := ihs ihgs (fun c hc => hcs c (List.mem_append_right _ hc)) hsettled.2 hb₁
        ha₁ h
      exact ⟨e', .run hm he hc⟩
    | leave hr hl h =>
      rw [settledAmong_cons_left (Shape.isLeft_of_skipsGoal hr hl)] at hsettled
      obtain ⟨e', hc⟩ := ihs ihgs hcs hsettled hb ha h
      exact ⟨e', .leave hr hl hc⟩
    | @pair _ _ passed c rest hr hl hp hg h =>
      rw [settledAmong_cons_kept (Shape.isLeft_of_not_skipsGoal hl)] at hsettled
      obtain ⟨hsettledg, hu⟩ := hsettled.1 c (hcs c (by simp))
      obtain ⟨e₁, he⟩ := ihg c before e s hsettledg hb ha hg
      -- the rest fits under what was bound now, since it shares no name that was bound otherwise
      have hrest : FitsAmong x level (e₁.assignment.orElse s) gs rest :=
        fitsAmong_congr (fun _ _ _ => fits_congr) h (looks_orElse_of_node he ha hb hg hu)
      have hb₁ : ∀ v ∈ g.captures x level ++ before, e₁.Binds v := by
        intro v hv
        rw [node_binds he]
        exact (List.mem_append.mp hv).symm.imp (hb v) id
      obtain ⟨e', hc⟩ := ihs ihgs (fun c hc => hcs c (by simp [hc])) hsettled.2 hb₁
        (agrees_orElse e₁ s) hrest
      exact ⟨e', .pair hr hl hp he hc⟩

/-- Whatever a settled pattern node fits under an assignment that agrees with what is bound, the
comparison finds a match. -/
theorem exists_node_of_fits {g : Shape} {c : Node} {before : List (String × Arity)} {e : Env}
    {s : Assignment} (hsettled : Settled x level before g c) (hb : ∀ v ∈ before, e.Binds v)
    (ha : e.Agrees s) (h : Fits x level s g c) : ∃ e', node x level g c e = some e' := by
  induction g using Shape.induct generalizing c before e s with
  | node kind named text goals ih =>
    simp only [node_eq_some_iff]
    cases h with
    | @single _ _ name hm hn hs =>
      obtain ⟨e', he, -⟩ := Env.exists_bindSingle ha hs
      exact ⟨e', Or.inl ⟨name, hm, hn, he⟩⟩
    | @multiple _ _ name hm hs =>
      obtain ⟨e', he, -⟩ := Env.exists_bindMultiple ha hs
      exact ⟨e', Or.inr (Or.inl ⟨name, hm, he⟩)⟩
    | leaf hm hk hc ht => exact ⟨e, Or.inr (Or.inr (Or.inl ⟨hm, hk, hc, ht, rfl⟩))⟩
    | branch hm hk hc h =>
      obtain ⟨e', hchooses⟩ := exists_chooses_of_fitsAmong (fun g hg c before e s => ih g hg)
        (fun _ hc => hc) (settled_branch hsettled hm) hb ha h
      obtain ⟨e'', he⟩ := Option.isSome_iff_exists.mp (isSome_sequence_of_chooses hchooses)
      exact ⟨e'', Or.inr (Or.inr (Or.inr ⟨hm, hk, hc, he⟩))⟩

end Matching

/-! ## When a pattern is settled -/

mutual

/-- Whatever a nested pattern node shares with the nodes after it is bound before it. Placeholders
are not nested: what they stand for is the candidate. -/
def Shape.bindsFirst (x : Char) (level : Strictness) (before : List (String × Arity)) :
    Shape → Bool
  | .node _ _ text goals =>
    (Placeholder.decode? x text).isSome || Shape.bindsFirstAmong x level before goals

/-- The same for pattern nodes in order. -/
def Shape.bindsFirstAmong (x : Char) (level : Strictness) (before : List (String × Arity)) :
    List Shape → Bool
  | [] => true
  | g :: gs =>
    if g.isLeft x level then Shape.bindsFirstAmong x level before gs
    else
      g.bindsFirst x level before &&
      ((g.metavariable? x).isSome || (g.captures x level).all fun v =>
        before.contains v || !(Shape.capturesAmong x level gs).contains v) &&
      Shape.bindsFirstAmong x level (g.captures x level ++ before) gs

end

/-- What a placeholder stands for looks like the candidate. -/
theorem looks_eq_of_fits_metavariable {g : Shape} {c : Node} {s t : Assignment}
    {v : String × Arity} (hm : g.metavariable? x = some v) (hs : Fits x level s g c)
    (ht : Fits x level t g c) : ∀ w ∈ g.captures x level, s.looks w = t.looks w := by
  rw [Shape.captures_of_metavariable? hm]
  have hlook : ∀ {s}, Fits x level s g c →
      ∀ w ∈ Metavariable.captured v, s.looks w = some [c.look] := by
    intro s h
    cases h with
    | single hm' _ hs =>
      cases hm.symm.trans hm'
      exact Assignment.stands_iff.mp hs
    | multiple hm' hs =>
      cases hm.symm.trans hm'
      exact Assignment.standsRun_iff.mp hs
    | leaf hm' _ _ _ | branch hm' _ _ _ => simp [hm] at hm'
  exact fun w hw => (hlook hs w hw).trans (hlook ht w hw).symm

theorem settledAmong_of_bindsFirst {before : List (String × Arity)} {gs : List Shape}
    {cs : List Node}
    (ih : ∀ g ∈ gs, ∀ before c, g.bindsFirst x level before = true → Settled x level before g c)
    (h : Shape.bindsFirstAmong x level before gs = true) : SettledAmong x level before gs cs := by
  induction gs generalizing before with
  | nil => simp [SettledAmong]
  | cons g gs ihs =>
    obtain ⟨ihg, ihgs⟩ := List.forall_mem_cons.mp ih
    rw [Shape.bindsFirstAmong] at h
    by_cases hl : g.isLeft x level = true
    · rw [if_pos hl] at h
      exact (settledAmong_cons_left hl).mpr (ihs ihgs h)
    rw [if_neg hl, Bool.and_eq_true, Bool.and_eq_true] at h
    obtain ⟨⟨hg, hshared⟩, hgs⟩ := h
    refine (settledAmong_cons_kept (by simpa using hl)).mpr
      ⟨fun c _ => ⟨ihg before c hg, fun s t hs ht hbefore v hv hlater => ?_⟩, ihs ihgs hgs⟩
    rcases Bool.or_eq_true_iff.mp hshared with hm | hall
    · obtain ⟨w, hm⟩ := Option.isSome_iff_exists.mp hm
      exact looks_eq_of_fits_metavariable hm hs ht v hv
    · have hmem : v ∈ before := by simpa [hlater] using List.all_eq_true.mp hall v hv
      exact hbefore v hmem

/-- A pattern is settled if whatever a nested node shares with the nodes after it is bound before
it. -/
theorem settled_of_bindsFirst {before : List (String × Arity)} {g : Shape} {c : Node}
    (h : g.bindsFirst x level before = true) : Settled x level before g c := by
  induction g using Shape.induct generalizing before c with
  | node kind named text goals ih =>
    rw [Settled]
    intro hm
    rw [Shape.bindsFirst, hm] at h
    exact settledAmong_of_bindsFirst (fun g hg before c => ih g hg) (by simpa using h)

/-! ## Completeness -/

/-- The children of a pattern node are aligned exactly if one of the alignments that the search
tries succeeds. In a settled pattern these are all that fit; and all embeddings fit where every node
needs a partner, or where every run has a name of its own and what a pattern node that is left out
could be paired with in the tree can be passed over. -/
theorem Pattern.isSome_bindings?_iff (p : Pattern) (n : Node) :
    (p.root.shape.metavariable? p.language.expando = none → p.root.shape.kind = n.kind →
      p.root.shape.children ≠ [] →
      ((p.bindings? n).isSome = true ↔ ∃ e, Matching.Chooses p.language.expando p.strictness
        p.root.shape.children n.children .empty e)) ∧
    (Settled p.language.expando p.strictness [] p.root.shape n →
      ((p.bindings? n).isSome = true ↔
        ∃ s, Fits p.language.expando p.strictness s p.root.shape n) ∧
      (p.strictness = .cst ∨
        (Shape.runs (p.root.shape.captures p.language.expando p.strictness)).Nodup ∧
        (∀ s, ∀ l ∈ p.root.shape.left p.language.expando p.strictness, ∀ c, n.OfTree c →
          Embeds p.language.expando p.strictness s l c →
            Matching.skipsNode p.strictness c = true) →
        ((p.bindings? n).isSome = true ↔
          ∃ s, Embeds p.language.expando p.strictness s p.root.shape n))) := by
  have hfits : ∀ e, p.bindings? n = some e →
      Fits p.language.expando p.strictness e.assignment p.root.shape n :=
    fun e he => Matching.fits_of_node he (Env.within_refl e)
  refine ⟨fun hm hk hc => ?_, fun hsettled => ?_⟩
  · rw [← Matching.sequence_isSome_iff, Option.isSome_iff_exists, Option.isSome_iff_exists]
    refine exists_congr fun e => ?_
    rw [Pattern.bindings?, Matching.node_eq_some_iff]
    simp [hm, hk, hc]
  · have hfound : (∃ s, Fits p.language.expando p.strictness s p.root.shape n) →
        (p.bindings? n).isSome = true := by
      rintro ⟨s, h⟩
      exact Option.isSome_iff_exists.mpr (Matching.exists_node_of_fits hsettled (by simp)
        (fun v hv => absurd hv (Env.not_binds_empty v)) h)
    refine ⟨⟨fun h => ?_, hfound⟩, fun hcondition => ⟨fun h => ?_, fun ⟨s, h⟩ => hfound ?_⟩⟩
    · obtain ⟨e, he⟩ := Option.isSome_iff_exists.mp h
      exact ⟨e.assignment, hfits e he⟩
    · obtain ⟨e, he⟩ := Option.isSome_iff_exists.mp h
      exact ⟨e.assignment, embeds_of_fits (hfits e he)⟩
    · rcases hcondition with hcst | ⟨hruns, hleft⟩
      · rw [hcst] at h ⊢
        exact ⟨s, fits_of_embeds_cst h⟩
      · obtain ⟨m, hm⟩ := exists_fits_of_embeds (P := n.OfTree)
          (fun _ hm _ hc => Node.ofTree_children hm hc) hruns (Node.ofTree_self n) (hleft s) h
        exact ⟨s.withRuns m, hm⟩

/-- In `[$X [$$$R $X]]` the name that the nested list uses again is bound before it, so the pattern
matches exactly where it embeds. -/
theorem isSome_bindings?_lastIsFirst :
    (lastIsFirst.bindings? lastIsFirstText.root).isSome = true ↔
      ∃ s, Embeds '_' .smart s lastIsFirst.root.shape lastIsFirstText.root := by
  have hsettled : Settled '_' .smart [] lastIsFirst.root.shape lastIsFirstText.root :=
    settled_of_bindsFirst (by decide +kernel)
  have hleft : lastIsFirst.root.shape.left '_' .smart = [] :=
    List.isEmpty_iff.mp (by decide +kernel)
  refine ((Pattern.isSome_bindings?_iff lastIsFirst lastIsFirstText.root).2 hsettled).2
    (Or.inr ⟨by decide +kernel, fun s l hl => ?_⟩)
  have hnone : l ∈ [] := hleft ▸ hl
  exact absurd hnone List.not_mem_nil

/-! ## A choice that is kept -/

/-- A language of lists in brackets that knows the parse of the pattern `[[$$$A $$$B] $$$A]`. -/
def bracketsOfRuns : Language := .parsing fun _ => some
  [.plain none "lists" true 0 54, .plain (some 0) "list" true 0 54,
    .plain (some 1) "[" false 0 1, .plain (some 1) "list" true 1 36,
    .plain (some 3) "[" false 1 2, .plain (some 3) "name" true 2 18,
    .plain (some 3) "name" true 19 35, .plain (some 3) "]" false 35 36,
    .plain (some 1) "name" true 37 53, .plain (some 1) "]" false 53 54]

/-- The text `[[1 2 3] 1 2]`. -/
def prefixText : Tree where
  stamp := 1
  language := bracketsOfRuns
  source := "[[1 2 3] 1 2]".toList
  records :=
    [.plain none "list" true 0 13, .plain (some 0) "[" false 0 1,
      .plain (some 0) "list" true 1 8, .plain (some 2) "[" false 1 2,
      .plain (some 2) "number" true 2 3, .plain (some 2) "number" true 4 5,
      .plain (some 2) "number" true 6 7, .plain (some 2) "]" false 7 8,
      .plain (some 0) "number" true 9 10, .plain (some 0) "number" true 11 12,
      .plain (some 0) "]" false 12 13]

/-- The run `1 2` of the text. -/
def prefixRun : List Node := [⟨prefixText, 8⟩, ⟨prefixText, 9⟩]

/-- The nested list can be cut into `1 2` and `3`, and then the first run is met again. But the
comparison with the nested list keeps the first cut that it finds, the one with an empty first run,
and nothing goes back to it. -/
theorem nested_choice_is_kept :
    ∃ p, Pattern.compile bracketsOfRuns "[[$$$A $$$B] $$$A]".toList = .ok p ∧
      (∃ s, Embeds p.language.expando p.strictness s p.root.shape prefixText.root) ∧
      p.bindings? prefixText.root = none := by
  have hcheck : (match Pattern.compile bracketsOfRuns "[[$$$A $$$B] $$$A]".toList with
      | .ok p =>
        (Matching.node p.language.expando p.strictness p.root.shape prefixText.root
          { Env.empty with multiple := NameMap.insert "A" prefixRun .empty }).isSome &&
        (p.bindings? prefixText.root).isNone
      | .error _ => false) = true := by decide +kernel
  split at hcheck
  · next p hp =>
    obtain ⟨hfound, hnone⟩ := Bool.and_eq_true_iff.mp hcheck
    obtain ⟨e, he⟩ := Option.isSome_iff_exists.mp hfound
    have hembeds := embeds_of_fits (Matching.fits_of_node he (Env.within_refl e))
    exact ⟨p, hp, ⟨e.assignment, hembeds⟩, Option.isNone_iff_eq_none.mp hnone⟩
  · simp at hcheck

end StructuralSearch
