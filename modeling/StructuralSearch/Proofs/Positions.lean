import StructuralSearch.Proofs.Regions
import StructuralSearch.Proofs.Tree.Order

/-!
# Positions among siblings

A position is looked up in the list of the counted siblings: the first of them that is the same as
the node decides. Nodes are the same if they cover the same bytes. Siblings do not overlap, so the
first that is the same is the node itself, unless nodes are empty: a parser inserts what is missing
as an empty node, and a grammar can have empty nodes of its own.

* `Rule.isCounted`: the siblings that are counted.
* `Rule.rank`: the number of counted siblings before a node, from the first or from the last.

Results:
1. `Rule.evaluate_nthChild`: a position is looked up among the counted siblings.
2. `Rule.eq_of_rank_eq`: no two counted siblings have the same rank.
3. `Rule.evaluate_nthChild_rank_iff`: when the position that is looked up is the rank of the node.
4. `inserted_node_takes_position`: an anonymous node at the position of an empty one that is named.
-/

namespace StructuralSearch

/-- A formula without a step selects one position. -/
theorem Formula.selects_offset_iff {i j : Int} :
    (Formula.mk 0 i).selects j = true ↔ j = i := by
  constructor
  · intro h
    have hzero : j - i = 0 := by
      simp only [selects] at h
      split at h
      · cases h
      · simpa using h
    omega
  · rintro rfl
    simp [selects, fits, minInteger, maxInteger]

/-! ## Lists in an order -/

namespace Rule

section

variable {α : Type} {before : α → α → Bool} {P : α → Prop} {p : α → Bool} {a b : α} {l : List α}

/-- In a list in an order, the first member with a property comes before the others. -/
theorem before_of_firstIn (hl : l.Pairwise fun a b => before a b = true) (h : FirstIn P l a)
    (hb : b ∈ l) (hPb : P b) (hne : b ≠ a) : before a b = true := by
  obtain ⟨front, back, rfl, -, hfront⟩ := h
  rcases List.mem_append.mp hb with hb | hb
  · exact absurd hPb (hfront b hb)
  · have hback := (List.mem_cons.mp hb).resolve_left hne
    exact (List.pairwise_cons.mp (List.pairwise_append.mp hl).2.1).1 b hback

/-- In a list in an order, as many members are before the head as before nothing. -/
theorem countP_before_head (hasymm : ∀ a b, before a b = true → before b a = false)
    (hl : (b :: l).Pairwise fun a b => before a b = true) :
    (b :: l).countP (before · b) = 0 := by
  rw [List.countP_eq_zero]
  intro c hc hbefore
  rcases List.mem_cons.mp hc with rfl | hc
  · exact absurd hbefore (by simp [hasymm c c hbefore])
  · have := hasymm b c ((List.pairwise_cons.mp hl).1 c hc)
    simp [this] at hbefore

theorem countP_before_tail (hl : (b :: l).Pairwise fun a b => before a b = true) (ha : a ∈ l) :
    (b :: l).countP (before · a) = l.countP (before · a) + 1 :=
  List.countP_cons_of_pos ((List.pairwise_cons.mp hl).1 a ha)

/-- In a list in an order, a member is at the place that the number of members before it gives. -/
theorem getElem?_countP_before (hasymm : ∀ a b, before a b = true → before b a = false)
    (hl : l.Pairwise fun a b => before a b = true) (ha : a ∈ l) :
    l[l.countP (before · a)]? = some a := by
  induction l with
  | nil => exact absurd ha List.not_mem_nil
  | cons b l ih =>
    rcases List.mem_cons.mp ha with rfl | hal
    · rw [countP_before_head hasymm hl, List.getElem?_cons_zero]
    · rw [countP_before_tail hl hal, List.getElem?_cons_succ]
      exact ih (List.pairwise_cons.mp hl).2 hal

/-- In a list in an order, a search by place finds the first member with a property, and the place
is the number of members before it. -/
theorem findIdx?_eq_some_iff_before (hasymm : ∀ a b, before a b = true → before b a = false)
    (hl : l.Pairwise fun a b => before a b = true) {i : Nat} :
    l.findIdx? p = some i ↔
      ∃ a, FirstIn (fun a => p a = true) l a ∧ l.countP (before · a) = i := by
  induction l generalizing i with
  | nil => simp [FirstIn]
  | cons b l ih =>
    have htail := (List.pairwise_cons.mp hl).2
    by_cases hb : p b = true
    · rw [List.findIdx?_cons, if_pos hb, Option.some.injEq]
      simp only [firstIn_cons_of_pos (P := fun a => p a = true) hb, exists_eq_left,
        countP_before_head hasymm hl]
    · rw [List.findIdx?_cons, if_neg hb, Option.map_eq_some_iff]
      simp only [firstIn_cons_of_neg (P := fun a => p a = true) hb, ih htail]
      constructor
      · rintro ⟨_, ⟨a, ha, rfl⟩, rfl⟩
        exact ⟨a, ha, countP_before_tail hl (mem_of_firstIn ha).1⟩
      · rintro ⟨a, ha, rfl⟩
        exact ⟨_, ⟨a, ha, rfl⟩, (countP_before_tail hl (mem_of_firstIn ha).1).symm⟩

end

variable {utils : NameMap Rule} {ofRule : Option Rule} {reverse : Bool} {f : Formula}
  {n m k p : Node} {e : Env}

/-! ## Counted siblings -/

/-- A node is counted if it is named and satisfies the rule, if one is given. -/
def isCounted (utils : NameMap Rule) (ofRule : Option Rule) (m : Node) : Bool :=
  m.isNamed && ofRule.all fun r => (evaluate utils r m .empty).env?.isSome

/-- The order in which positions are counted. -/
def comesBefore (reverse : Bool) (a b : Node) : Bool :=
  if reverse then b.id < a.id else a.id < b.id

/-- The number of counted siblings that come before the node. -/
def rank (utils : NameMap Rule) (ofRule : Option Rule) (reverse : Bool) (n : Node) : Nat :=
  n.siblings.countP fun m => isCounted utils ofRule m && comesBefore reverse m n

/-- The counted siblings of a node in the order in which they are counted. -/
def countedSiblings (utils : NameMap Rule) (ofRule : Option Rule) (reverse : Bool) (n : Node) :
    List Node :=
  let counted := n.siblings.filter (isCounted utils ofRule)
  if reverse then counted.reverse else counted

theorem mem_countedSiblings :
    m ∈ countedSiblings utils ofRule reverse n ↔
      m ∈ n.siblings ∧ isCounted utils ofRule m = true := by
  cases reverse <;> simp [countedSiblings]

theorem acceptedNodes_eq {judge : Judgement} {l : List Node}
    (h : ∀ m ∈ l, judge m .empty ≠ .unsettled) :
    acceptedNodes judge l = some (l.filter fun m => (judge m .empty).env?.isSome) := by
  induction l with
  | nil => rfl
  | cons m l ih =>
    obtain ⟨hm, hl⟩ := List.forall_mem_cons.mp h
    rw [acceptedNodes, ih hl]
    cases hj : judge m .empty with
    | accepted e => simp [hj, Verdict.env?]
    | rejected => simp [hj, Verdict.env?]
    | unsettled => exact absurd hj hm

theorem countedSiblings_eq_nil (hp : n.parent? = none) :
    countedSiblings utils ofRule reverse n = [] := by
  cases reverse <;> simp [countedSiblings, Node.siblings, hp]

theorem judgePosition_eq (counted : List Node) :
    judgePosition f reverse n counted =
      (positionOf? n (if reverse then counted.reverse else counted)).any fun (i : Nat) =>
        f.selects i := by
  rw [judgePosition]
  cases positionOf? n (if reverse then counted.reverse else counted) <;> rfl

/-- A position is looked up among the counted siblings. -/
theorem evaluate_nthChild
    (hsettled : ∀ r ∈ ofRule, ∀ m ∈ n.siblings, m.isNamed = true →
      evaluate utils r m .empty ≠ .unsettled) :
    evaluate utils (.nthChild f ofRule reverse) n e =
      .ofBool e ((positionOf? n (countedSiblings utils ofRule reverse n)).any fun (i : Nat) =>
        f.selects i) := by
  cases ofRule with
  | none =>
    have hcounted : isCounted utils none = Node.isNamed := by
      funext m
      simp [isCounted]
    rw [evaluate, evaluateWithin_eq_judge, judge]
    cases hp : n.parent? with
    | none =>
      rw [countedSiblings_eq_nil hp]
      rfl
    | some p =>
      rw [countedSiblings, Node.siblings_eq hp, hcounted, ← judgePosition_eq]
      rfl
  | some r =>
    obtain ⟨refer, hrefer⟩ := exists_refer utils n [.nthChild f (some r) reverse, r]
    obtain ⟨hwhole, hr, -⟩ := by simpa only [List.forall_mem_cons] using hrefer
    rw [hwhole n e (Node.ofTree_self n), judge]
    cases hp : n.parent? with
    | none =>
      rw [countedSiblings_eq_nil hp]
      rfl
    | some p =>
      have hsiblings := Node.siblings_eq hp
      have hjudge : ∀ m ∈ p.children, judge refer r m .empty = evaluate utils r m .empty :=
        fun m hm => (hr m .empty (Node.ofTree_siblings (Node.ofTree_self n) (hsiblings ▸ hm))).symm
      have haccepted : acceptedNodes (judge refer r) p.namedChildren =
          some (p.children.filter (isCounted utils (some r))) := by
        rw [acceptedNodes_eq fun m hm => ?_, Node.namedChildren, List.filter_filter]
        · refine congrArg some (List.filter_congr fun m hm => ?_)
          rw [hjudge m hm, Bool.and_comm]
          rfl
        · obtain ⟨hmem, hnamed⟩ := List.mem_filter.mp hm
          rw [hjudge m hmem]
          exact hsettled r rfl m (hsiblings ▸ hmem) hnamed
      simp only [haccepted]
      rw [countedSiblings, hsiblings, judgePosition_eq]

/-! ## Ranks -/

theorem comesBefore_asymm (a b : Node) (h : comesBefore reverse a b = true) :
    comesBefore reverse b a = false := by
  cases reverse with
  | false =>
    simp only [comesBefore, Bool.false_eq_true, if_false, decide_eq_true_eq] at h
    simpa [comesBefore] using Nat.le_of_lt h
  | true =>
    simp only [comesBefore, if_true, decide_eq_true_eq] at h
    simpa [comesBefore] using Nat.le_of_lt h

theorem pairwise_countedSiblings :
    (countedSiblings utils ofRule reverse n).Pairwise fun a b =>
      comesBefore reverse a b = true := by
  have hsorted := (Node.pairwise_siblings n).filter (isCounted utils ofRule)
  cases reverse with
  | false => exact hsorted.imp fun h => by simpa [comesBefore] using h
  | true => exact (List.pairwise_reverse.mpr hsorted).imp fun h => by simpa [comesBefore] using h

/-- The rank of a sibling is the number of counted siblings in front of it. -/
theorem rank_eq_countP (hm : m ∈ n.siblings) :
    rank utils ofRule reverse m =
      (countedSiblings utils ofRule reverse n).countP (comesBefore reverse · m) := by
  have hreverse : (countedSiblings utils ofRule reverse n).countP (comesBefore reverse · m) =
      (n.siblings.filter (isCounted utils ofRule)).countP (comesBefore reverse · m) := by
    cases reverse <;> simp [countedSiblings]
  rw [hreverse, List.countP_filter, rank, Node.siblings_of_mem hm]
  simp only [Bool.and_comm]

/-- No two counted siblings have the same rank. -/
theorem eq_of_rank_eq (hm : m ∈ n.siblings) (hk : k ∈ n.siblings)
    (hmc : isCounted utils ofRule m = true) (hkc : isCounted utils ofRule k = true)
    (h : rank utils ofRule reverse m = rank utils ofRule reverse k) : m = k := by
  have hplace : ∀ {x}, x ∈ n.siblings → isCounted utils ofRule x = true →
      (countedSiblings utils ofRule reverse n)[rank utils ofRule reverse x]? = some x := by
    intro x hx hxc
    rw [rank_eq_countP hx]
    exact getElem?_countP_before comesBefore_asymm pairwise_countedSiblings
      (mem_countedSiblings.mpr ⟨hx, hxc⟩)
  have hpm := hplace hm hmc
  rw [h, hplace hk hkc] at hpm
  exact (Option.some.inj hpm).symm

/-! ## The position that is looked up -/

/-- The nodes begin and end at the same bytes. -/
def SamePlace (n m : Node) : Prop := m.start = n.start ∧ m.stop = n.stop

/-- The node is a counted child of its parent, and the formula selects its rank, counted from
one. -/
def selectedByRank (utils : NameMap Rule) (f : Formula) (ofRule : Option Rule) (reverse : Bool)
    (n : Node) : Bool :=
  n.parent?.isSome && isCounted utils ofRule n &&
    f.selects (rank utils ofRule reverse n + 1 : Nat)

/-- The position that is looked up is the rank of the first counted sibling at the place of the
node. -/
theorem positionOf?_eq_some_iff {i : Nat} :
    positionOf? n (countedSiblings utils ofRule reverse n) = some i ↔
      ∃ m, FirstIn (SamePlace n) (countedSiblings utils ofRule reverse n) m ∧
        rank utils ofRule reverse m + 1 = i := by
  have hsame : ∀ m ∈ countedSiblings utils ofRule reverse n, m.same n = true ↔ SamePlace n m := by
    intro m hm
    simp [Node.same, SamePlace, Node.tree_of_mem_siblings (mem_countedSiblings.mp hm).1]
  rw [positionOf?, Option.map_eq_some_iff]
  simp only [findIdx?_eq_some_iff_before comesBefore_asymm pairwise_countedSiblings,
    firstIn_congr hsame]
  constructor
  · rintro ⟨_, ⟨m, hm, rfl⟩, rfl⟩
    exact ⟨m, hm, by rw [rank_eq_countP (mem_countedSiblings.mp (mem_of_firstIn hm).1).1]⟩
  · rintro ⟨m, hm, rfl⟩
    exact ⟨_, ⟨m, hm, rfl⟩, by rw [rank_eq_countP (mem_countedSiblings.mp (mem_of_firstIn hm).1).1]⟩

theorem exists_evaluate_nthChild
    (hsettled : ∀ r ∈ ofRule, ∀ m ∈ n.siblings, m.isNamed = true →
      evaluate utils r m .empty ≠ .unsettled) (f : Formula) (reverse : Bool) (e : Env) :
    ∃ found, evaluate utils (.nthChild f ofRule reverse) n e = .ofBool e found ∧
      (found = true ↔ ∃ m, FirstIn (SamePlace n) (countedSiblings utils ofRule reverse n) m ∧
        f.selects (rank utils ofRule reverse m + 1 : Nat) = true) := by
  refine ⟨_, evaluate_nthChild hsettled, ?_⟩
  rw [Option.any_eq_true]
  simp only [positionOf?_eq_some_iff]
  constructor
  · rintro ⟨_, ⟨m, hm, rfl⟩, hselects⟩
    exact ⟨m, hm, hselects⟩
  · rintro ⟨m, hm, hselects⟩
    exact ⟨_, ⟨m, hm, rfl⟩, hselects⟩

theorem ofBool_injective {b b' : Bool} (h : Verdict.ofBool e b = .ofBool e b') : b = b' := by
  cases b <;> cases b' <;> simp_all [Verdict.ofBool]

/-- A counted sibling at the place of the node hides it, unless the node is counted before it. -/
def Unhidden (utils : NameMap Rule) (ofRule : Option Rule) (reverse : Bool) (n : Node) : Prop :=
  ∀ m ∈ n.siblings, isCounted utils ofRule m = true → SamePlace n m → m ≠ n →
    isCounted utils ofRule n = true ∧ comesBefore reverse n m = true

theorem firstIn_iff_of_unhidden (h : n.tree.Preordered)
    (hfree : Unhidden utils ofRule reverse n) :
    FirstIn (SamePlace n) (countedSiblings utils ofRule reverse n) m ↔
      m = n ∧ n.parent?.isSome = true ∧ isCounted utils ofRule n = true := by
  have hself : n.parent?.isSome = true → isCounted utils ofRule n = true →
      n ∈ countedSiblings utils ofRule reverse n := by
    intro hparent hcounted
    obtain ⟨p, hp⟩ := Option.isSome_iff_exists.mp hparent
    exact mem_countedSiblings.mpr ⟨Node.mem_siblings_self h hp, hcounted⟩
  have hfirst : ∀ {k}, FirstIn (SamePlace n) (countedSiblings utils ofRule reverse n) k →
      k = n ∧ n.parent?.isSome = true ∧ isCounted utils ofRule n = true := by
    intro k hk
    obtain ⟨hmem, hplace⟩ := mem_of_firstIn hk
    obtain ⟨hsibling, hcounted⟩ := mem_countedSiblings.mp hmem
    obtain ⟨p, hp, -⟩ := Node.exists_parent?_of_mem_siblings hsibling
    have hparent : n.parent?.isSome = true := by rw [hp, Option.isSome_some]
    by_cases heq : k = n
    · exact ⟨heq, hparent, heq ▸ hcounted⟩
    · obtain ⟨hn, hbefore⟩ := hfree k hsibling hcounted hplace heq
      have hafter := before_of_firstIn pairwise_countedSiblings hk (hself hparent hn)
        ⟨rfl, rfl⟩ (Ne.symm heq)
      simp [comesBefore_asymm _ _ hbefore] at hafter
  refine ⟨hfirst, ?_⟩
  rintro ⟨rfl, hparent, hcounted⟩
  obtain ⟨k, hk⟩ := exists_firstIn (P := SamePlace m) (hself hparent hcounted) ⟨rfl, rfl⟩
  obtain ⟨rfl, -⟩ := hfirst hk
  exact hk

/-- In a well-formed tree, only empty nodes are hidden. -/
theorem unhidden_of_lt (h : n.tree.WellFormed) (hn : n.start < n.stop) :
    Unhidden utils ofRule reverse n := by
  rintro m hm - ⟨hstart, hstop⟩ hne
  obtain ⟨p, hp, hmp⟩ := Node.exists_parent?_of_mem_siblings hm
  have hmtree := Node.tree_of_mem_siblings hm
  obtain ⟨-, hmparent, -⟩ := Node.parent?_eq_some_iff.mp (Node.parent?_of_mem_children hmp)
  obtain ⟨-, hnparent, -⟩ := Node.parent?_eq_some_iff.mp hp
  have hmsize := Node.lt_size_of_mem_children hmp
  have hnsize := Node.lt_size_of_parent? hp
  obtain ⟨tree, id⟩ := m
  obtain rfl : tree = n.tree := hmtree
  -- the one that is listed later starts where the other stops, or later
  rcases Nat.lt_trichotomy id n.id with hlt | heq | hlt
  · have hle := h.siblings id n.id p.id hlt hnsize hmparent hnparent
    exact absurd (Nat.lt_of_lt_of_le hn (hstop ▸ hle)) (Nat.lt_irrefl _)
  · exact absurd (congrArg (Node.mk n.tree) heq) hne
  · have hle := h.siblings n.id id p.id hlt hmsize hnparent hmparent
    exact absurd (Nat.lt_of_lt_of_le hn (hstart ▸ hle)) (Nat.lt_irrefl _)

/-- A node that is not hidden is selected by its rank. -/
theorem evaluate_nthChild_of_unhidden (h : n.tree.Preordered)
    (hsettled : ∀ r ∈ ofRule, ∀ m ∈ n.siblings, m.isNamed = true →
      evaluate utils r m .empty ≠ .unsettled)
    (hfree : Unhidden utils ofRule reverse n) (f : Formula) :
    evaluate utils (.nthChild f ofRule reverse) n e =
      .ofBool e (selectedByRank utils f ofRule reverse n) := by
  obtain ⟨found, heval, hfound⟩ := exists_evaluate_nthChild hsettled f reverse e
  rw [heval]
  refine congrArg _ (Bool.eq_iff_iff.mpr ?_)
  simp only [hfound, firstIn_iff_of_unhidden h hfree, selectedByRank, Bool.and_eq_true]
  constructor
  · rintro ⟨_, ⟨rfl, hparent, hcounted⟩, hselects⟩
    exact ⟨⟨hparent, hcounted⟩, hselects⟩
  · rintro ⟨⟨hparent, hcounted⟩, hselects⟩
    exact ⟨n, ⟨rfl, hparent, hcounted⟩, hselects⟩

/-- A node that is always selected by its rank is not hidden: otherwise, the formula for the rank of
the first sibling at its place selects it. -/
theorem unhidden_of_evaluate
    (hsettled : ∀ r ∈ ofRule, ∀ m ∈ n.siblings, m.isNamed = true →
      evaluate utils r m .empty ≠ .unsettled) (h : n.tree.Preordered)
    (hrank : ∀ f, evaluate utils (.nthChild f ofRule reverse) n e =
      .ofBool e (selectedByRank utils f ofRule reverse n)) :
    Unhidden utils ofRule reverse n := by
  intro m hm hmc hplace hne
  have hmem : m ∈ countedSiblings utils ofRule reverse n := mem_countedSiblings.mpr ⟨hm, hmc⟩
  obtain ⟨k, hk⟩ := exists_firstIn (P := SamePlace n) hmem hplace
  obtain ⟨hks, hkc⟩ := mem_countedSiblings.mp (mem_of_firstIn hk).1
  obtain ⟨found, heval, hfound⟩ :=
    exists_evaluate_nthChild hsettled ⟨0, (rank utils ofRule reverse k + 1 : Nat)⟩ reverse e
  have hselected : selectedByRank utils ⟨0, (rank utils ofRule reverse k + 1 : Nat)⟩ ofRule reverse
      n = true := by
    rw [← ofBool_injective (heval.symm.trans (hrank _)), hfound]
    exact ⟨k, hk, Formula.selects_offset_iff.mpr rfl⟩
  simp only [selectedByRank, Bool.and_eq_true, Formula.selects_offset_iff] at hselected
  obtain ⟨⟨hparent, hcounted⟩, hposition⟩ := hselected
  have hsame : rank utils ofRule reverse n = rank utils ofRule reverse k := by omega
  obtain ⟨p, hp⟩ := Option.isSome_iff_exists.mp hparent
  -- so the first of them is the node itself
  obtain rfl : n = k := eq_of_rank_eq (Node.mem_siblings_self h hp) hks hcounted hkc hsame
  exact ⟨hcounted, before_of_firstIn pairwise_countedSiblings hk hmem hplace hne⟩

/-- The position of a node is the rank of the first counted sibling at its place, and the node is
selected if a formula selects that. This is the rank of the node itself, for all formulas, exactly
if no other counted sibling at its place comes before it, and none is there if the node itself is
not counted; in particular if the node is not empty. No two counted siblings have the same rank. -/
theorem evaluate_nthChild_rank_iff (h : n.tree.WellFormed)
    (hsettled : ∀ r ∈ ofRule, ∀ m ∈ n.siblings, m.isNamed = true →
      evaluate utils r m .empty ≠ .unsettled) :
    (∀ f, ∃ found, evaluate utils (.nthChild f ofRule reverse) n e = .ofBool e found ∧
      (found = true ↔ ∃ m, FirstIn (SamePlace n) (countedSiblings utils ofRule reverse n) m ∧
        f.selects (rank utils ofRule reverse m + 1 : Nat) = true)) ∧
    ((∀ f, evaluate utils (.nthChild f ofRule reverse) n e =
        .ofBool e (selectedByRank utils f ofRule reverse n)) ↔
      ∀ m ∈ n.siblings, isCounted utils ofRule m = true → SamePlace n m → m ≠ n →
        isCounted utils ofRule n = true ∧ comesBefore reverse n m = true) ∧
    (n.start < n.stop → ∀ f, evaluate utils (.nthChild f ofRule reverse) n e =
      .ofBool e (selectedByRank utils f ofRule reverse n)) ∧
    ∀ m ∈ n.siblings, ∀ k ∈ n.siblings, isCounted utils ofRule m = true →
      isCounted utils ofRule k = true →
      rank utils ofRule reverse m = rank utils ofRule reverse k → m = k := by
  refine ⟨fun f => exists_evaluate_nthChild hsettled f reverse e,
    ⟨unhidden_of_evaluate hsettled h.preordered, ?_⟩,
    fun hn => ?_, fun m hm k hk hmc hkc => eq_of_rank_eq hm hk hmc hkc⟩
  · exact evaluate_nthChild_of_unhidden h.preordered hsettled
  · exact evaluate_nthChild_of_unhidden h.preordered hsettled (unhidden_of_lt h hn)

/-- In `--a -b`, the first of the two outer negations is the second from the end. -/
theorem evaluate_nthChild_negation :
    negations.WellFormed ∧
      evaluate [] (.nthChild ⟨2, 0⟩ (some (.kind "negation")) true) ⟨negations, 1⟩ .empty =
        .accepted .empty := by
  have hwell : negations.WellFormed := by decide
  have hselected : selectedByRank [] ⟨2, 0⟩ (some (.kind "negation")) true ⟨negations, 1⟩ =
      true := by decide
  obtain ⟨-, -, hrank, -⟩ := evaluate_nthChild_rank_iff (n := ⟨negations, 1⟩) (e := .empty) hwell
    fun r _ m _ _ => evaluate_nil_ne_unsettled r m .empty
  refine ⟨hwell, ?_⟩
  rw [hrank (by decide), hselected]
  rfl

end Rule

/-! ## A comment that is not closed -/

/-- The start of a documentation comment, with an empty text, and the mark for its end, which the
parser has inserted. -/
def openComment : Tree where
  stamp := 0
  language := .parsing fun _ => none
  source := "/*!".toList
  records :=
    [.plain none "block_comment" true 0 3, .plain (some 0) "/*" false 0 2,
      .plain (some 0) "inner_doc_comment_marker" true 2 3,
      .plain (some 0) "doc_comment" true 3 3,
      { Record.plain (some 0) "*/" false 3 3 with missing := true }]

/-- The inserted node is selected at the position of the empty text, although it is not named: two
siblings are at one position. -/
theorem inserted_node_takes_position :
    openComment.WellFormed ∧ Node.isNamed ⟨openComment, 4⟩ = false ∧
      Rule.evaluate [] (.nthChild ⟨0, 2⟩ none false) ⟨openComment, 3⟩ .empty = .accepted .empty ∧
      Rule.evaluate [] (.nthChild ⟨0, 2⟩ none false) ⟨openComment, 4⟩ .empty = .accepted .empty ∧
      Rule.selectedByRank [] ⟨0, 2⟩ none false ⟨openComment, 4⟩ = false := by
  have hposition : ∀ id, Rule.evaluate [] (.nthChild ⟨0, 2⟩ none false) ⟨openComment, id⟩ .empty =
      .ofBool .empty ((Rule.positionOf? ⟨openComment, id⟩
        (Rule.countedSiblings [] none false ⟨openComment, id⟩)).any fun (i : Nat) =>
          Formula.selects ⟨0, 2⟩ i) := fun id => Rule.evaluate_nthChild (by simp)
  refine ⟨by decide, rfl, ?_, ?_, by decide⟩
  · rw [hposition]
    rfl
  · rw [hposition]
    rfl

end StructuralSearch
