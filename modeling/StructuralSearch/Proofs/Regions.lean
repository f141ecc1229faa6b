import StructuralSearch.Proofs.Relations

/-!
# The regions that relations search

With a stop rule, `has` goes from a node to its children and leaves out what is below a node that
does not satisfy the rule, and `inside` goes from a node to its parent up to the first that does not
satisfy it. A field is asked of the child on the way, and only of that next to the node that the
relation connects. Here a region is described by the tree alone: by which child the way goes
through, and by what holds of the nodes on the way.

* `Node.RegionBelow`, `Node.RegionAbove`: the descendants and the ancestors that are searched.
* `Rule.Accepts`, `Rule.Within`: what a rule accepts, and where a boundary lets a relation go on.
* `Rule.FirstIn`: the first member of a list with a property.

Results:
1. `Rule.firstVerdict_filter`: what a search in a part of a list finds.
2. `Rule.judgeBelow_eq`, `Rule.searchWhile_eq`: the walks search the regions, in the order of the
   descendants and of the ancestors.
3. `Rule.evaluate_has_stop`: the relation `has` with a stop rule.
4. `Rule.evaluate_inside`: the relation `inside` to the end of the tree or with a stop rule.
-/

namespace StructuralSearch

/-! ## Regions -/

namespace Node

variable {n m p c d k : Node} {P : Node → Prop} {field : Option String}

/-- All nodes on the way from `c` down to `d`, both included, have the property. -/
def OnWay (P : Node → Prop) (c d : Node) : Prop := ∀ k, k.InSubtree c → d.InSubtree k → P k

/-- The way from the node down to `d` goes through a child that occupies the field, and from this
child on all nodes have the property. -/
def RegionBelow (P : Node → Prop) (field : Option String) (n d : Node) : Prop :=
  ∃ c ∈ n.children, Rule.throughField field c = true ∧ d.InSubtree c ∧ OnWay P c d

/-- The way from `a` down to the node goes through a child of `a` that occupies the field, and all
ancestors of the node up to `a` have the property. -/
def RegionAbove (P : Node → Prop) (field : Option String) (n a : Node) : Prop :=
  (∃ c, c.parent? = some a ∧ n.InSubtree c ∧ Rule.throughField field c = true) ∧
    ∀ k ∈ n.ancestors, k.InSubtree a → P k

theorem onWay_self : OnWay P n n ↔ P n := by
  refine ⟨fun h => h n (Or.inl rfl) (Or.inl rfl), fun h k hk hn => ?_⟩
  rcases hn with rfl | hn
  · exact h
  · exact absurd hk (not_inSubtree_of_mem_ancestors hn)

/-- The way that begins one step further up has one node more. -/
theorem onWay_iff_of_child (hc : c ∈ n.children) (hd : d.InSubtree c) :
    OnWay P n d ↔ P n ∧ OnWay P c d := by
  have hcn := inSubtree_of_mem_children hc
  constructor
  · intro h
    exact ⟨h n (Or.inl rfl) (hd.trans hcn), fun k hk hdk => h k (hk.trans hcn) hdk⟩
  · rintro ⟨hn, h⟩ k hk hdk
    rcases inSubtree_or_mem_ancestors hd hdk with hkc | hkc
    · exact h k hkc hdk
    · rw [ancestors_eq_cons (parent?_of_mem_children hc), List.mem_cons] at hkc
      rcases hkc with rfl | hkn
      · exact hn
      · exact absurd hk (not_inSubtree_of_mem_ancestors hkn)

theorem regionBelow_iff_of_child (hc : c ∈ n.children) (hd : d.InSubtree c) :
    RegionBelow P field n d ↔ Rule.throughField field c = true ∧ OnWay P c d := by
  constructor
  · rintro ⟨m, hm, hfield, hdm, hway⟩
    obtain rfl : m = c := child_unique hc hm hd hdm
    exact ⟨hfield, hway⟩
  · rintro ⟨hfield, hway⟩
    exact ⟨c, hc, hfield, hd, hway⟩

/-- The parent is in the region if the node occupies the field and the parent has the property. -/
theorem regionAbove_parent_iff (hp : n.parent? = some p) :
    RegionAbove P field n p ↔ Rule.throughField field n = true ∧ P p := by
  have hancestors := ancestors_eq_cons hp
  constructor
  · rintro ⟨⟨c, hc, hnc, hfield⟩, hway⟩
    refine ⟨?_, hway p (by simp [hancestors]) (Or.inl rfl)⟩
    rcases hnc with rfl | hcn
    · exact hfield
    · -- a child of the parent is not an ancestor
      rw [hancestors, List.mem_cons] at hcn
      have hin : c.InSubtree p := inSubtree_of_parent? hc (Or.inl rfl)
      rcases hcn with rfl | hcn
      · exact absurd (id_parent?_lt hc) (Nat.lt_irrefl _)
      · exact absurd hin (not_inSubtree_of_mem_ancestors hcn)
  · rintro ⟨hfield, hP⟩
    refine ⟨⟨n, hp, Or.inl rfl, hfield⟩, fun k hk hkp => ?_⟩
    rw [hancestors, List.mem_cons] at hk
    rcases hk with rfl | hk
    · exact hP
    · exact absurd hkp (not_inSubtree_of_mem_ancestors hk)

/-- What is above the parent is in the region of the node if it is in that of the parent, and the
parent has the property. -/
theorem regionAbove_iff_of_parent (hp : n.parent? = some p) (hm : m ∈ p.ancestors) :
    RegionAbove P field n m ↔ P p ∧ RegionAbove P field p m := by
  have hancestors := ancestors_eq_cons hp
  constructor
  · rintro ⟨⟨c, hc, hnc, hfield⟩, hway⟩
    refine ⟨hway p (by simp [hancestors]) (Or.inr hm), ⟨c, hc, ?_, hfield⟩, fun k hk hkm => ?_⟩
    · rcases hnc with rfl | hcn
      · obtain rfl : p = m := Option.some.inj (hp.symm.trans hc)
        exact absurd hm (not_mem_ancestors_self p)
      · rw [hancestors, List.mem_cons] at hcn
        exact hcn.imp_left Eq.symm
    · exact hway k (by simp [hancestors, hk]) hkm
  · rintro ⟨hP, ⟨c, hc, hpc, hfield⟩, hway⟩
    refine ⟨⟨c, hc, inSubtree_of_parent? hp hpc, hfield⟩, fun k hk hkm => ?_⟩
    rw [hancestors, List.mem_cons] at hk
    rcases hk with rfl | hk
    · exact hP
    · exact hway k hk hkm

end Node

namespace Rule

/-! ## The first member of a list -/

section

variable {α : Type} {judge judge' : α → Verdict} {P Q : α → Prop} {a b : α} {l : List α}

/-- The first member of a list that has a property. -/
def FirstIn (P : α → Prop) (l : List α) (a : α) : Prop :=
  ∃ front back, l = front ++ a :: back ∧ P a ∧ ∀ b ∈ front, ¬ P b

theorem firstIn_cons_of_pos (hb : P b) : FirstIn P (b :: l) a ↔ a = b := by
  constructor
  · rintro ⟨front, back, heq, -, hfront⟩
    cases front with
    | nil => exact (List.cons.inj heq).1.symm
    | cons c front =>
      obtain ⟨rfl, -⟩ := List.cons.inj heq
      exact absurd hb (hfront b List.mem_cons_self)
  · rintro rfl
    exact ⟨[], l, rfl, hb, by simp⟩

theorem firstIn_cons_of_neg (hb : ¬ P b) : FirstIn P (b :: l) a ↔ FirstIn P l a := by
  constructor
  · rintro ⟨front, back, heq, ha, hfront⟩
    cases front with
    | nil =>
      obtain ⟨rfl, -⟩ := List.cons.inj heq
      exact absurd ha hb
    | cons c front =>
      obtain ⟨-, rfl⟩ := List.cons.inj heq
      exact ⟨front, back, rfl, ha, fun x hx => hfront x (List.mem_cons_of_mem c hx)⟩
  · rintro ⟨front, back, rfl, ha, hfront⟩
    exact ⟨b :: front, back, rfl, ha, List.forall_mem_cons.mpr ⟨hb, hfront⟩⟩

theorem firstIn_congr (h : ∀ a ∈ l, P a ↔ Q a) : FirstIn P l a ↔ FirstIn Q l a := by
  refine exists_congr fun front => exists_congr fun back => and_congr_right fun hl => ?_
  subst hl
  refine and_congr (h a (by simp)) (forall₂_congr fun b hb => ?_)
  rw [h b (by simp [hb])]

theorem mem_of_firstIn (h : FirstIn P l a) : a ∈ l ∧ P a := by
  obtain ⟨front, back, rfl, ha, -⟩ := h
  exact ⟨by simp, ha⟩

theorem exists_firstIn (ha : a ∈ l) (h : P a) : ∃ b, FirstIn P l b := by
  induction l with
  | nil => exact absurd ha List.not_mem_nil
  | cons b l ih =>
    by_cases hb : P b
    · exact ⟨b, (firstIn_cons_of_pos hb).mpr rfl⟩
    · have hne : a ≠ b := fun heq => hb (heq ▸ h)
      obtain ⟨c, hc⟩ := ih ((List.mem_cons.mp ha).resolve_left hne)
      exact ⟨c, (firstIn_cons_of_neg hb).mpr hc⟩

/-! ## Searches in a part of a list -/

theorem ne_unsettled_of_orElse {v : Verdict} {next : Unit → Verdict}
    (h : v.orElse next ≠ .unsettled) : v ≠ .unsettled := by
  rintro rfl
  exact h rfl

/-- Searches that settle come to the same if they do so for each member that settles: behind the
member that decides, no other is looked at. -/
theorem firstVerdict_congr_of_settled (h : ∀ a ∈ l, judge a ≠ .unsettled → judge a = judge' a)
    (hsettled : firstVerdict judge l ≠ .unsettled) :
    firstVerdict judge l = firstVerdict judge' l := by
  induction l with
  | nil => rfl
  | cons a l ih =>
    obtain ⟨ha, hl⟩ := List.forall_mem_cons.mp h
    rw [firstVerdict] at hsettled
    rw [firstVerdict, firstVerdict, ← ha (ne_unsettled_of_orElse hsettled)]
    cases hj : judge a with
    | accepted e => rfl
    | rejected =>
      rw [hj] at hsettled
      exact ih hl hsettled
    | unsettled =>
      rw [hj] at hsettled
      exact absurd rfl hsettled

/-- What a search in a part of a list finds. -/
theorem firstVerdict_filter [DecidablePred P]
    (hsettled : firstVerdict judge (l.filter (P ·)) ≠ .unsettled) :
    (∀ e, firstVerdict judge (l.filter (P ·)) = .accepted e ↔
      ∃ a, FirstIn (fun a => P a ∧ ∃ e, judge a = .accepted e) l a ∧ judge a = .accepted e) ∧
    (firstVerdict judge (l.filter (P ·)) = .rejected ↔
      ∀ a ∈ l, P a → ¬ ∃ e, judge a = .accepted e) := by
  have hpos : ∀ {b l}, P b → (∃ e, judge b = .accepted e) → ∀ a,
      FirstIn (fun a => P a ∧ ∃ e, judge a = .accepted e) (b :: l) a ↔ a = b :=
    fun hb he a => firstIn_cons_of_pos ⟨hb, he⟩
  have hneg : ∀ {b l}, (P b → ¬ ∃ e, judge b = .accepted e) → ∀ a,
      FirstIn (fun a => P a ∧ ∃ e, judge a = .accepted e) (b :: l) a ↔
        FirstIn (fun a => P a ∧ ∃ e, judge a = .accepted e) l a :=
    fun hb a => firstIn_cons_of_neg (not_and.mpr hb)
  induction l with
  | nil => simp [firstVerdict, FirstIn]
  | cons b l ih =>
    by_cases hb : P b
    · rw [List.filter_cons_of_pos (by simpa using hb), firstVerdict] at hsettled ⊢
      cases hj : judge b with
      | accepted e =>
        simp only [hpos hb ⟨e, hj⟩, exists_eq_left, List.forall_mem_cons, hj]
        simp [Verdict.orElse, hb]
      | rejected =>
        have hlater : P b → ¬ ∃ e, judge b = .accepted e := by simp [hj]
        rw [hj] at hsettled
        simp only [hneg hlater, List.forall_mem_cons]
        simpa [Verdict.orElse, hj] using ih hsettled
      | unsettled =>
        rw [hj] at hsettled
        exact absurd rfl hsettled
    · rw [List.filter_cons_of_neg (by simpa using hb)] at hsettled ⊢
      simp only [hneg fun h => absurd h hb, List.forall_mem_cons]
      simpa [hb] using ih hsettled

end

/-! ## Searching a region -/

section

variable {stop : Judgement} {target : Node → Verdict} {field : Option String} {n p c : Node}
  {P : Node → Prop}

open Classical

/-- In a subtree in pre-order, the nodes to which the way is open are the root, and then those of
the subtrees of the children. -/
theorem filter_onWay (h : n.tree.Preordered) (hn : n.id < n.tree.size) (hroot : P n) :
    n.preorder.filter (Node.OnWay P n ·) =
      n :: n.children.flatMap fun c => c.preorder.filter (Node.OnWay P c ·) := by
  have hchild : ∀ c ∈ n.children,
      c.preorder.filter (Node.OnWay P n ·) = c.preorder.filter (Node.OnWay P c ·) := by
    intro c hc
    have hpre := Node.tree_of_mem_children hc ▸ h
    refine List.filter_congr fun d hd => ?_
    have hin := (Node.mem_preorder_iff hpre (Node.lt_size_of_mem_children hc)).mp hd
    simp [Node.onWay_iff_of_child hc hin, hroot]
  rw [Node.preorder_eq h hn, List.filter_cons_of_pos (by simpa using Node.onWay_self.mpr hroot),
    List.filter_flatMap, List.flatMap_congr hchild]

/-- The search from a node to its children tries the nodes to which the way is open. -/
theorem searchBelow_eq (h : n.tree.Preordered) (hn : n.id < n.tree.size)
    (hP : ∀ k ∈ n.preorder, P k ↔ ∃ e, stop k .empty = .accepted e)
    (hsettled : searchBelow stop target n ≠ .unsettled) :
    searchBelow stop target n = firstVerdict target (n.preorder.filter (Node.OnWay P n ·)) := by
  induction n using searchBelow.induct stop with
  | case1 n hs => exact absurd (searchBelow_of_unsettled hs) hsettled
  | case2 n hs =>
    have hnone : ∀ d ∈ n.preorder, ¬ Node.OnWay P n d := by
      intro d hd hway
      have hroot := hway n (Or.inl rfl) ((Node.mem_preorder_iff h hn).mp hd)
      obtain ⟨e, he⟩ := (hP n n.mem_preorder_self).mp hroot
      cases hs.symm.trans he
    rw [List.filter_eq_nil_iff.mpr (by simpa using hnone), searchBelow_of_rejected hs, firstVerdict]
  | case3 n e hs ih =>
    have hroot : P n := (hP n n.mem_preorder_self).mpr ⟨e, hs⟩
    rw [searchBelow_of_accepted hs] at hsettled
    rw [searchBelow_of_accepted hs, filter_onWay h hn hroot, firstVerdict, firstVerdict_flatMap]
    cases ht : target n with
    | accepted e' => rfl
    | unsettled =>
      rw [ht] at hsettled
      exact absurd rfl hsettled
    | rejected =>
      rw [ht] at hsettled
      refine firstVerdict_congr_of_settled (fun c hc hcs => ?_) hsettled
      exact ih ⟨c, hc⟩ (Node.tree_of_mem_children hc ▸ h) (Node.lt_size_of_mem_children hc)
        (fun k hk => hP k (Node.preorder_subset hc hk)) hcs

/-- What a filter keeps and what it leaves out, when both are mapped to lists. -/
theorem flatMap_filter {α β : Type} {keep : α → Bool} {f g : α → List β} {l : List α}
    (hkeep : ∀ a ∈ l, keep a = true → f a = g a) (hdrop : ∀ a ∈ l, keep a = false → g a = []) :
    (l.filter keep).flatMap f = l.flatMap g := by
  induction l with
  | nil => rfl
  | cons a l ih =>
    obtain ⟨ha, hl⟩ := List.forall_mem_cons.mp hkeep
    obtain ⟨ha', hl'⟩ := List.forall_mem_cons.mp hdrop
    cases hk : keep a with
    | true =>
      rw [List.filter_cons_of_pos hk, List.flatMap_cons, List.flatMap_cons, ih hl hl', ha hk]
    | false =>
      rw [List.filter_cons_of_neg (by simp [hk]), List.flatMap_cons, ih hl hl', ha' hk,
        List.nil_append]

/-- With a stop rule, `has` searches the region below the node, in the order of the descendants. -/
theorem judgeBelow_eq (h : n.tree.Preordered) (hn : n.id < n.tree.size)
    (hP : ∀ k, n.OfTree k → (P k ↔ ∃ e, stop k .empty = .accepted e))
    (hsettled : judgeBelow (.rule stop) field n target ≠ .unsettled) :
    judgeBelow (.rule stop) field n target =
      firstVerdict target (n.descendants.filter (Node.RegionBelow P field n ·)) := by
  have hin : ∀ c ∈ n.children, ∀ d ∈ c.preorder, d.InSubtree c := fun c hc d hd =>
    (Node.mem_preorder_iff (Node.tree_of_mem_children hc ▸ h)
      (Node.lt_size_of_mem_children hc)).mp hd
  have hchild : ∀ c ∈ n.children, searchBelow stop target c ≠ .unsettled →
      searchBelow stop target c =
        firstVerdict target (c.preorder.filter (Node.OnWay P c ·)) := by
    intro c hc hcs
    refine searchBelow_eq (Node.tree_of_mem_children hc ▸ h) (Node.lt_size_of_mem_children hc)
      (fun k hk => hP k ?_) hcs
    exact Node.ofTree_preorder (Node.ofTree_children (Node.ofTree_self n) hc) hk
  have hstarts : judgeBelow (.rule stop) field n target =
      firstVerdict (fun c => firstVerdict target (c.preorder.filter (Node.OnWay P c ·)))
        (n.children.filter (throughField field)) := by
    rw [judgeBelow_rule] at hsettled ⊢
    exact firstVerdict_congr_of_settled (fun c hc => hchild c (List.mem_of_mem_filter hc)) hsettled
  rw [hstarts, ← firstVerdict_flatMap, Node.descendants_eq h hn, List.filter_flatMap]
  congr 1
  refine flatMap_filter (fun c hc hfield => ?_) (fun c hc hfield => ?_)
  · refine List.filter_congr fun d hd => ?_
    simp [Node.regionBelow_iff_of_child hc (hin c hc d hd), hfield]
  · refine List.filter_eq_nil_iff.mpr fun d hd => ?_
    simp [Node.regionBelow_iff_of_child hc (hin c hc d hd), hfield]

/-- The ancestors of a node are those of the parent, with the parent in front. -/
theorem candidates_inside_eq_cons (hp : n.parent? = some p) :
    candidates .inside field n = (p, throughField field n) :: candidates .inside field p := by
  simp only [candidates, steps]
  rw [Node.ancestors_eq_cons hp, List.zip_cons_cons, List.map_cons]

theorem candidates_inside_eq_nil (hp : n.parent? = none) : candidates .inside field n = [] := by
  simp [candidates, steps, Node.ancestors_eq_nil hp]

/-- With a stop rule, `inside` searches the region above the node, in the order of the ancestors. -/
theorem searchWhile_eq (hP : ∀ k ∈ n.ancestors, P k ↔ ∃ e, stop k .empty = .accepted e)
    (hsettled : searchWhile stop target (candidates .inside field n) ≠ .unsettled) :
    searchWhile stop target (candidates .inside field n) =
      firstVerdict target (n.ancestors.filter (Node.RegionAbove P field n ·)) := by
  induction n using Node.ancestors.induct with
  | case1 n hnone =>
    rw [candidates_inside_eq_nil hnone, Node.ancestors_eq_nil hnone]
    rfl
  | case2 n p hp ih =>
    rw [candidates_inside_eq_cons hp, searchWhile] at hsettled ⊢
    rw [Node.ancestors_eq_cons hp] at hP ⊢
    obtain ⟨hparent, hP⟩ := List.forall_mem_cons.mp hP
    cases hs : stop p .empty with
    | unsettled =>
      rw [hs] at hsettled
      exact absurd rfl hsettled
    | rejected =>
      have hnot : ¬ P p := by simp [hparent, hs]
      have hnone : ∀ a ∈ p :: p.ancestors, ¬ Node.RegionAbove P field n a := by
        intro a ha hregion
        have hpa : p.InSubtree a := (List.mem_cons.mp ha).imp_left Eq.symm
        exact hnot (hregion.2 p (by simp [Node.ancestors_eq_cons hp]) hpa)
      rw [List.filter_eq_nil_iff.mpr (by simpa using hnone), firstVerdict]
    | accepted e =>
      have hpass : P p := hparent.mpr ⟨e, hs⟩
      have htail : p.ancestors.filter (Node.RegionAbove P field n ·) =
          p.ancestors.filter (Node.RegionAbove P field p ·) :=
        List.filter_congr fun a ha => by simp [Node.regionAbove_iff_of_parent hp ha, hpass]
      rw [hs] at hsettled
      cases hfield : throughField field n with
      | false =>
        have hout : ¬ Node.RegionAbove P field n p := by
          simp [Node.regionAbove_parent_iff hp, hfield]
        rw [List.filter_cons_of_neg (by simpa using hout), htail]
        rw [hfield] at hsettled
        exact ih hP hsettled
      | true =>
        have hin : Node.RegionAbove P field n p :=
          (Node.regionAbove_parent_iff hp).mpr ⟨hfield, hpass⟩
        rw [List.filter_cons_of_pos (by simpa using hin), htail, firstVerdict]
        rw [hfield] at hsettled
        simp only [judgeCandidate, if_true] at hsettled ⊢
        cases ht : target p with
        | accepted e' => rfl
        | unsettled =>
          rw [ht] at hsettled
          exact absurd rfl hsettled
        | rejected =>
          rw [ht] at hsettled
          exact ih hP hsettled

end

/-! ## The relations -/

section

variable {utils : NameMap Rule} {target stop : Rule} {boundary : StopBy Rule}
  {field : Option String} {n : Node} {e : Env}

/-- The rule accepts the node, given what is bound. -/
def Accepts (utils : NameMap Rule) (rule : Rule) (n : Node) (e : Env) : Prop :=
  ∃ e', evaluate utils rule n e = .accepted e'

/-- The boundary lets a relation go on at the node: if it is a stop rule, the node satisfies it. -/
def Within (utils : NameMap Rule) : StopBy Rule → Node → Prop
  | .rule stop, n => Accepts utils stop n .empty
  | .neighbor, _ => True
  | .toEnd, _ => True

open Classical in
theorem evaluate_has_eq (h : n.tree.Preordered) (hn : n.id < n.tree.size)
    (hsettled : evaluate utils (.relation .has target (.rule stop) field) n e ≠ .unsettled) :
    evaluate utils (.relation .has target (.rule stop) field) n e =
      firstVerdict (fun d => evaluate utils target d e)
        (n.descendants.filter (Node.RegionBelow (Within utils (.rule stop)) field n ·)) := by
  obtain ⟨refer, hrefer⟩ := exists_refer utils n
    [.relation .has target (.rule stop) field, target, stop]
  obtain ⟨hwhole, htarget, hstop, -⟩ := by simpa only [List.forall_mem_cons] using hrefer
  rw [hwhole n e (Node.ofTree_self n), judge] at hsettled ⊢
  have hP : ∀ k, n.OfTree k →
      (Within utils (.rule stop) k ↔ ∃ e, judge refer stop k .empty = .accepted e) := by
    intro k hk
    rw [← hstop k .empty hk]
    rfl
  rw [judgeRelation, judgeBelow_eq h hn hP hsettled]
  refine firstVerdict_congr fun d hd => (htarget d e ?_).symm
  exact Node.ofTree_preorder (Node.ofTree_self n) (List.mem_of_mem_tail (List.mem_of_mem_filter hd))

open Classical in
theorem evaluate_inside_eq (hboundary : boundary ≠ .neighbor)
    (hsettled : evaluate utils (.relation .inside target boundary field) n e ≠ .unsettled) :
    evaluate utils (.relation .inside target boundary field) n e =
      firstVerdict (fun a => evaluate utils target a e)
        (n.ancestors.filter (Node.RegionAbove (Within utils boundary) field n ·)) := by
  cases boundary with
  | neighbor => exact absurd rfl hboundary
  | toEnd =>
    -- to the end is up to a stop rule that is satisfied everywhere
    have hwhole : evaluate utils (.relation .inside target .toEnd field) n e =
        searchWhile (fun _ e => .accepted e) (fun a => evaluate utils target a e)
          (candidates .inside field n) := by
      rw [evaluate_toEnd, searchWhile_of_satisfied fun c _ => ⟨.empty, rfl⟩]
      rfl
    rw [hwhole] at hsettled ⊢
    exact searchWhile_eq (fun k _ => by simp [Within]) hsettled
  | rule stop =>
    obtain ⟨refer, hrefer⟩ := exists_refer utils n
      [.relation .inside target (.rule stop) field, target, stop]
    obtain ⟨hwhole, htarget, hstop, -⟩ := by simpa only [List.forall_mem_cons] using hrefer
    have htree : ∀ a ∈ n.ancestors, n.OfTree a := fun a ha =>
      Node.ofTree_ancestors (Node.ofTree_self n) ha
    have hP : ∀ k ∈ n.ancestors,
        Within utils (.rule stop) k ↔ ∃ e, judge refer stop k .empty = .accepted e := by
      intro k hk
      rw [← hstop k .empty (htree k hk)]
      rfl
    have hsearch : evaluate utils (.relation .inside target (.rule stop) field) n e =
        searchWhile (judge refer stop) (fun a => judge refer target a e)
          (candidates .inside field n) := hwhole n e (Node.ofTree_self n)
    rw [hsearch] at hsettled ⊢
    rw [searchWhile_eq hP hsettled]
    exact firstVerdict_congr fun a ha => (htarget a e (htree a (List.mem_of_mem_filter ha))).symm

/-- The relation `has` with a stop rule returns what its target returns at the first descendant that
the target accepts and to which the way is open: the child that it goes through occupies the field,
and all nodes from this child down to the descendant satisfy the stop rule. It rejects exactly if
there is no such descendant. -/
theorem evaluate_has_stop (h : n.tree.Preordered) (hn : n.id < n.tree.size)
    (hsettled : evaluate utils (.relation .has target (.rule stop) field) n e ≠ .unsettled) :
    (∀ e', evaluate utils (.relation .has target (.rule stop) field) n e = .accepted e' ↔
      ∃ d, FirstIn (fun d => Node.RegionBelow (Within utils (.rule stop)) field n d ∧
          Accepts utils target d e) n.descendants d ∧
        evaluate utils target d e = .accepted e') ∧
    (evaluate utils (.relation .has target (.rule stop) field) n e = .rejected ↔
      ∀ d ∈ n.descendants, Node.RegionBelow (Within utils (.rule stop)) field n d →
        ¬ Accepts utils target d e) := by
  classical
  have heq := evaluate_has_eq h hn hsettled
  rw [heq] at hsettled ⊢
  exact firstVerdict_filter hsettled

/-- In `a = f(b)`, what is assigned. -/
def assignment : Tree where
  stamp := 0
  language := .parsing fun _ => none
  source := "a=f(b)".toList
  records :=
    [.plain none "assignment" true 0 6,
      { Record.plain (some 0) "name" true 0 1 with field := some "left" },
      .plain (some 0) "=" false 1 2,
      { Record.plain (some 0) "call" true 2 6 with field := some "right" },
      { Record.plain (some 3) "name" true 2 3 with field := some "function" },
      { Record.plain (some 3) "arguments" true 3 6 with field := some "arguments" },
      .plain (some 5) "(" false 3 4, .plain (some 5) "name" true 4 5,
      .plain (some 5) ")" false 5 6]

theorem accepts_kind_iff {name : String} : Accepts utils (.kind name) n e ↔ n.kind = name := by
  rw [Accepts, evaluate, evaluateWithin_eq_judge, judge, Verdict.ofBool]
  by_cases h : n.kind = name <;> simp [h]

theorem accepts_not_kind_iff {name : String} :
    Accepts utils (.not (.kind name)) n e ↔ n.kind ≠ name := by
  rw [Accepts, evaluate, evaluateWithin_eq_judge, judge, judge, Verdict.ofBool]
  by_cases h : n.kind = name <;> simp [h, Verdict.negate]

/-- On the right of `a = f(b)`, outside of arguments, the first name is `f`. -/
theorem evaluate_has_assignment :
    assignment.WellFormed ∧
    evaluate [] (.relation .has (.kind "name") (.rule (.not (.kind "arguments"))) (some "right"))
      assignment.root .empty = .accepted .empty := by
  have hwell : assignment.WellFormed := by decide
  have hsettled := evaluate_nil_ne_unsettled
    (.relation .has (.kind "name") (.rule (.not (.kind "arguments"))) (some "right"))
    assignment.root .empty
  have hcall : (⟨assignment, 3⟩ : Node) ∈ assignment.root.children :=
    List.mem_map_of_mem (by decide)
  have hname : (⟨assignment, 4⟩ : Node) ∈ Node.children ⟨assignment, 3⟩ :=
    List.mem_map_of_mem (by decide)
  refine ⟨hwell, ((evaluate_has_stop hwell.preordered hwell.nonempty hsettled).1 .empty).mpr
    ⟨⟨assignment, 4⟩, ⟨[⟨assignment, 1⟩, ⟨assignment, 2⟩, ⟨assignment, 3⟩], _, rfl, ⟨?_, ?_⟩, ?_⟩,
      ?_⟩⟩
  · rw [Node.regionBelow_iff_of_child hcall (Node.inSubtree_of_mem_children hname),
      Node.onWay_iff_of_child hname (Or.inl rfl), Node.onWay_self]
    exact ⟨rfl, accepts_not_kind_iff.mpr (by decide), accepts_not_kind_iff.mpr (by decide)⟩
  · exact accepts_kind_iff.mpr rfl
  · -- the name on the left is not in the field, the others are no names
    have hleft : (⟨assignment, 1⟩ : Node) ∈ assignment.root.children :=
      List.mem_map_of_mem (by decide)
    simp only [List.forall_mem_cons, accepts_kind_iff,
      Node.regionBelow_iff_of_child hleft (Or.inl rfl)]
    refine ⟨fun h => absurd h.1.1 (by decide), fun h => absurd h.2 (by decide),
      fun h => absurd h.2 (by decide), by simp⟩
  · rw [evaluate, evaluateWithin_eq_judge, judge]
    rfl

/-- The relation `inside`, to the end of the tree or with a stop rule, returns what its target
returns at the nearest ancestor that the target accepts and that is in the region: the child of the
ancestor on the way to the node occupies the field, and the ancestor and all ancestors between
satisfy the stop rule, those whose child does not occupy the field as well. It rejects exactly if
there is no such ancestor. -/
theorem evaluate_inside (hboundary : boundary ≠ .neighbor)
    (hsettled : evaluate utils (.relation .inside target boundary field) n e ≠ .unsettled) :
    (∀ e', evaluate utils (.relation .inside target boundary field) n e = .accepted e' ↔
      ∃ a, FirstIn (fun a => Node.RegionAbove (Within utils boundary) field n a ∧
          Accepts utils target a e) n.ancestors a ∧
        evaluate utils target a e = .accepted e') ∧
    (evaluate utils (.relation .inside target boundary field) n e = .rejected ↔
      ∀ a ∈ n.ancestors, Node.RegionAbove (Within utils boundary) field n a →
        ¬ Accepts utils target a e) := by
  classical
  have heq := evaluate_inside_eq hboundary hsettled
  rw [heq] at hsettled ⊢
  exact firstVerdict_filter hsettled

/-- Around the argument of `a = f(b)`, the nearest node on the right of something is the
assignment. -/
theorem evaluate_inside_assignment :
    evaluate [] (.relation .inside (.not (.kind "name")) (.rule (.not (.kind "program")))
      (some "right")) ⟨assignment, 7⟩ .empty = .accepted .empty := by
  have hsettled := evaluate_nil_ne_unsettled
    (.relation .inside (.not (.kind "name")) (.rule (.not (.kind "program"))) (some "right"))
    ⟨assignment, 7⟩ .empty
  have harguments : Node.parent? ⟨assignment, 7⟩ = some ⟨assignment, 5⟩ := rfl
  have hcall : Node.parent? ⟨assignment, 5⟩ = some ⟨assignment, 3⟩ := rfl
  have hroot : Node.parent? ⟨assignment, 3⟩ = some assignment.root := rfl
  have habove : ∀ {P : Node → Prop} {m : Node}, m ∈ Node.ancestors ⟨assignment, 5⟩ →
      (Node.RegionAbove P (some "right") ⟨assignment, 7⟩ m ↔
        P ⟨assignment, 5⟩ ∧ Node.RegionAbove P (some "right") ⟨assignment, 5⟩ m) :=
    fun hm => Node.regionAbove_iff_of_parent harguments hm
  have hmem : ⟨assignment, 3⟩ ∈ Node.ancestors ⟨assignment, 5⟩ := by
    simp [Node.ancestors_eq_cons hcall]
  have hmemRoot : assignment.root ∈ Node.ancestors ⟨assignment, 3⟩ := by
    simp [Node.ancestors_eq_cons hroot]
  refine ((evaluate_inside (by simp) hsettled).1 .empty).mpr
    ⟨assignment.root, ⟨[⟨assignment, 5⟩, ⟨assignment, 3⟩], [], ?_, ⟨?_, ?_⟩, ?_⟩, ?_⟩
  · rw [Node.ancestors_eq_cons harguments, Node.ancestors_eq_cons hcall,
      Node.ancestors_eq_cons hroot, Node.ancestors_eq_nil rfl]
    rfl
  · rw [habove (Node.ancestors_trans hmem hmemRoot), Node.regionAbove_iff_of_parent hcall hmemRoot,
      Node.regionAbove_parent_iff hroot]
    exact ⟨accepts_not_kind_iff.mpr (by decide), accepts_not_kind_iff.mpr (by decide), rfl,
      accepts_not_kind_iff.mpr (by decide)⟩
  · exact accepts_not_kind_iff.mpr (by decide)
  · simp only [List.forall_mem_cons, habove hmem, Node.regionAbove_parent_iff harguments,
      Node.regionAbove_parent_iff hcall]
    refine ⟨fun h => absurd h.1.1 (by decide), fun h => absurd h.1.2.1 (by decide), by simp⟩
  · rw [evaluate, evaluateWithin_eq_judge, judge, judge]
    rfl

end

end Rule

end StructuralSearch
