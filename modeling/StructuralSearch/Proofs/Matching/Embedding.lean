import StructuralSearch.Pattern.Matching
import StructuralSearch.Proofs.Captures
import StructuralSearch.Proofs.Tree

/-!
# Embeddings of patterns

What it means that a pattern fits a node, without a search: an assignment of the names under which
the pattern node embeds into the candidate.

* `Embeds`, `Aligns`: the pattern node with a candidate, and its children with candidates in order.
  Whatever the strictness allows to go without a partner may do so.
* `Fits`, `FitsAmong`: the embeddings that the search considers. A pattern node that may go without
  a partner has none, a run is never left out, and it begins right where the alignment stands.
* `Shape.captures`, `Shape.left`: the variables that a comparison binds, and the pattern nodes that
  go without a partner.

Results:
1. `embeds_of_fits`: the search considers embeddings only.
2. `fits_congr`: whether a pattern node fits depends on its variables only.
3. `fits_of_embeds_cst`: where every node needs a partner, the search considers all embeddings.
4. `exists_fits_of_embeds`: elsewhere it does up to the lengths of runs, if every run has a name of
   its own and whatever a pattern node that is left out could be paired with can be passed over.
-/

namespace StructuralSearch

namespace Shape

/-- Whether a pattern node stands for a run of siblings. -/
def isRun (x : Char) (g : Shape) : Bool := g.metavariable? x matches some (_, .multiple)

theorem isRun_of_metavariable? {x : Char} {g : Shape} {name : String}
    (h : g.metavariable? x = some (name, .multiple)) : g.isRun x = true := by
  simp [isRun, h]

theorem metavariable?_of_isRun {x : Char} {g : Shape} (h : g.isRun x = true) :
    ∃ name, g.metavariable? x = some (name, .multiple) := by
  rw [isRun] at h
  split at h
  · next name hm => exact ⟨name, hm⟩
  · simp at h

end Shape

variable {x : Char} {level : Strictness}

/-! ## Variables -/

/-- Whether a pattern node is left without a partner. -/
def Shape.isLeft (x : Char) (level : Strictness) (g : Shape) : Bool :=
  !g.isRun x && level.skipsGoal g.kind g.named

mutual

/-- The variables that a comparison with a pattern node binds. -/
def Shape.captures (x : Char) (level : Strictness) : Shape → List (String × Arity)
  | .node _ _ text goals =>
    match Placeholder.decode? x text with
    | some v => Metavariable.captured v
    | none => Shape.capturesAmong x level goals

/-- The variables that an alignment of pattern nodes binds: those that go without a partner bind
nothing. -/
def Shape.capturesAmong (x : Char) (level : Strictness) : List Shape → List (String × Arity)
  | [] => []
  | g :: gs =>
    (if g.isLeft x level then [] else g.captures x level) ++ Shape.capturesAmong x level gs

end

namespace Shape

theorem captures_of_metavariable? {g : Shape} {v : String × Arity}
    (h : g.metavariable? x = some v) : g.captures x level = Metavariable.captured v := by
  obtain ⟨kind, named, text, goals⟩ := g
  have h' : Placeholder.decode? x text = some v := h
  simp [captures, h']

theorem captures_of_branch {g : Shape} (h : g.metavariable? x = none) :
    g.captures x level = capturesAmong x level g.children := by
  obtain ⟨kind, named, text, goals⟩ := g
  have h' : Placeholder.decode? x text = none := h
  simp [captures, h', children]

theorem isLeft_of_metavariable? {g : Shape} {name : String}
    (h : g.metavariable? x = some (name, .multiple)) : g.isLeft x level = false := by
  simp [isLeft, isRun_of_metavariable? h]

theorem isLeft_of_skipsGoal {g : Shape} (hr : g.isRun x = false)
    (hl : level.skipsGoal g.kind g.named = true) : g.isLeft x level = true := by
  simp [isLeft, hr, hl]

theorem isLeft_of_not_skipsGoal {g : Shape} (hl : level.skipsGoal g.kind g.named = false) :
    g.isLeft x level = false := by
  simp [isLeft, hl]

theorem capturesAmong_cons_left {g : Shape} {gs : List Shape} (h : g.isLeft x level = true) :
    capturesAmong x level (g :: gs) = capturesAmong x level gs := by
  simp [capturesAmong, h]

theorem capturesAmong_cons_kept {g : Shape} {gs : List Shape} (h : g.isLeft x level = false) :
    capturesAmong x level (g :: gs) = g.captures x level ++ capturesAmong x level gs := by
  simp [capturesAmong, h]

end Shape

/-! ## Embeddings -/

mutual

/-- The pattern node embeds into the candidate. -/
inductive Embeds (x : Char) (level : Strictness) (s : Assignment) : Shape → Node → Prop
  | single {g : Shape} {c : Node} {name : String} :
      g.metavariable? x = some (name, .single) → c.isNamed = true → s.Stands name c →
      Embeds x level s g c
  | multiple {g : Shape} {c : Node} {name : String} :
      g.metavariable? x = some (name, .multiple) → s.StandsRun name [c] → Embeds x level s g c
  | leaf {g : Shape} {c : Node} :
      g.metavariable? x = none → g.kind = c.kind → g.children = [] →
      (level.comparesText = true → g.text = c.text) → Embeds x level s g c
  | branch {g : Shape} {c : Node} :
      g.metavariable? x = none → g.kind = c.kind → g.children ≠ [] →
      Aligns x level s g.children c.children → Embeds x level s g c

/-- The pattern nodes are aligned with the candidates in order. -/
inductive Aligns (x : Char) (level : Strictness) (s : Assignment) : List Shape → List Node → Prop
  | done : Aligns x level s [] []
  | leave {g : Shape} {gs : List Shape} {cs : List Node} :
      level.skipsGoal g.kind g.named = true → Aligns x level s gs cs →
      Aligns x level s (g :: gs) cs
  | pass {gs : List Shape} {c : Node} {cs : List Node} :
      level.skipsCandidate c.kind c.isNamed = true → Aligns x level s gs cs →
      Aligns x level s gs (c :: cs)
  | run {g : Shape} {gs : List Shape} {name : String} {run rest : List Node} :
      g.metavariable? x = some (name, .multiple) → s.StandsRun name run →
      Aligns x level s gs rest → Aligns x level s (g :: gs) (run ++ rest)
  | pair {g : Shape} {gs : List Shape} {c : Node} {cs : List Node} :
      Embeds x level s g c → Aligns x level s gs cs → Aligns x level s (g :: gs) (c :: cs)

end

mutual

/-- The pattern node embeds into the candidate in a way that the search considers. -/
inductive Fits (x : Char) (level : Strictness) (s : Assignment) : Shape → Node → Prop
  | single {g : Shape} {c : Node} {name : String} :
      g.metavariable? x = some (name, .single) → c.isNamed = true → s.Stands name c →
      Fits x level s g c
  | multiple {g : Shape} {c : Node} {name : String} :
      g.metavariable? x = some (name, .multiple) → s.StandsRun name [c] → Fits x level s g c
  | leaf {g : Shape} {c : Node} :
      g.metavariable? x = none → g.kind = c.kind → g.children = [] →
      (level.comparesText = true → g.text = c.text) → Fits x level s g c
  | branch {g : Shape} {c : Node} :
      g.metavariable? x = none → g.kind = c.kind → g.children ≠ [] →
      FitsAmong x level s g.children c.children → Fits x level s g c

/-- The pattern nodes are aligned with the candidates in a way that the search considers. -/
inductive FitsAmong (x : Char) (level : Strictness) (s : Assignment) :
    List Shape → List Node → Prop
  | done {cs : List Node} :
      (∀ c ∈ cs, Matching.skipsNode level c = true) → FitsAmong x level s [] cs
  | run {g : Shape} {gs : List Shape} {name : String} {run rest : List Node} :
      g.metavariable? x = some (name, .multiple) → s.StandsRun name run →
      FitsAmong x level s gs rest → FitsAmong x level s (g :: gs) (run ++ rest)
  | leave {g : Shape} {gs : List Shape} {cs : List Node} :
      g.isRun x = false → level.skipsGoal g.kind g.named = true → FitsAmong x level s gs cs →
      FitsAmong x level s (g :: gs) cs
  | pair {g : Shape} {gs : List Shape} {passed : List Node} {c : Node} {rest : List Node} :
      g.isRun x = false → level.skipsGoal g.kind g.named = false →
      (∀ p ∈ passed, Matching.skipsNode level p = true) → Fits x level s g c →
      FitsAmong x level s gs rest → FitsAmong x level s (g :: gs) (passed ++ c :: rest)

end

/-! ## From the search to embeddings -/

variable {s : Assignment}

theorem Aligns.pass_all {gs : List Shape} {passed cs : List Node}
    (h : ∀ p ∈ passed, Matching.skipsNode level p = true) (k : Aligns x level s gs cs) :
    Aligns x level s gs (passed ++ cs) := by
  induction passed with
  | nil => exact k
  | cons p passed ih =>
    obtain ⟨hp, hps⟩ := List.forall_mem_cons.mp h
    exact .pass hp (ih hps)

theorem aligns_of_fitsAmong {gs : List Shape} {cs : List Node}
    (ih : ∀ g ∈ gs, ∀ c, Fits x level s g c → Embeds x level s g c)
    (h : FitsAmong x level s gs cs) : Aligns x level s gs cs := by
  induction gs generalizing cs with
  | nil =>
    cases h with
    | done h => simpa using Aligns.pass_all h .done
  | cons g gs ihs =>
    obtain ⟨ihg, ihgs⟩ := List.forall_mem_cons.mp ih
    cases h with
    | run hm hs h => exact .run hm hs (ihs ihgs h)
    | leave _ hl h => exact .leave hl (ihs ihgs h)
    | pair _ _ hp hc h => exact .pass_all hp (.pair (ihg _ hc) (ihs ihgs h))

/-- The search considers embeddings only. -/
theorem embeds_of_fits {g : Shape} {c : Node} (h : Fits x level s g c) : Embeds x level s g c := by
  induction g using Shape.induct generalizing c with
  | node kind named text goals ih =>
    cases h with
    | single hm hn hs => exact .single hm hn hs
    | multiple hm hs => exact .multiple hm hs
    | leaf hm hk hc ht => exact .leaf hm hk hc ht
    | branch hm hk hc h => exact .branch hm hk hc (aligns_of_fitsAmong (fun g hg c => ih g hg) h)

/-! ## Fits depend on the variables only -/

theorem fitsAmong_congr {gs : List Shape} {cs : List Node} {s t : Assignment}
    (ih : ∀ g ∈ gs, ∀ c, Fits x level s g c → (∀ v ∈ g.captures x level, s.looks v = t.looks v) →
      Fits x level t g c)
    (h : FitsAmong x level s gs cs)
    (k : ∀ v ∈ Shape.capturesAmong x level gs, s.looks v = t.looks v) :
    FitsAmong x level t gs cs := by
  induction gs generalizing cs with
  | nil =>
    cases h with
    | done hs => exact .done hs
  | cons g gs ihs =>
    obtain ⟨ihg, ihgs⟩ := List.forall_mem_cons.mp ih
    cases h with
    | @run _ _ name run rest hm hs h =>
      rw [Shape.capturesAmong_cons_kept (Shape.isLeft_of_metavariable? hm),
        List.forall_mem_append, Shape.captures_of_metavariable? hm] at k
      refine .run hm ?_ (ihs ihgs h k.2)
      rw [Assignment.standsRun_iff] at hs ⊢
      exact fun v hv => (k.1 v hv).symm.trans (hs v hv)
    | leave hr hl h =>
      rw [Shape.capturesAmong_cons_left (Shape.isLeft_of_skipsGoal hr hl)] at k
      exact .leave hr hl (ihs ihgs h k)
    | pair hr hl hp hc h =>
      rw [Shape.capturesAmong_cons_kept (Shape.isLeft_of_not_skipsGoal hl),
        List.forall_mem_append] at k
      exact .pair hr hl hp (ihg _ hc k.1) (ihs ihgs h k.2)

/-- Whether a pattern node fits depends on its variables only. -/
theorem fits_congr {g : Shape} {c : Node} {s t : Assignment} (h : Fits x level s g c)
    (k : ∀ v ∈ g.captures x level, s.looks v = t.looks v) : Fits x level t g c := by
  induction g using Shape.induct generalizing c with
  | node kind named text goals ih =>
    cases h with
    | single hm hn hs =>
      rw [Shape.captures_of_metavariable? hm] at k
      refine .single hm hn ?_
      rw [Assignment.stands_iff] at hs ⊢
      exact fun v hv => (k v hv).symm.trans (hs v hv)
    | multiple hm hs =>
      rw [Shape.captures_of_metavariable? hm] at k
      refine .multiple hm ?_
      rw [Assignment.standsRun_iff] at hs ⊢
      exact fun v hv => (k v hv).symm.trans (hs v hv)
    | leaf hm hk hc ht => exact .leaf hm hk hc ht
    | branch hm hk hc h =>
      rw [Shape.captures_of_branch hm] at k
      exact .branch hm hk hc (fitsAmong_congr (fun g hg c => ih g hg) h k)

/-! ## Where every node needs a partner -/

theorem fitsAmong_of_aligns_cst {gs : List Shape} {cs : List Node}
    (ih : ∀ g ∈ gs, ∀ c, Embeds x .cst s g c → Fits x .cst s g c)
    (h : Aligns x .cst s gs cs) : FitsAmong x .cst s gs cs := by
  induction gs generalizing cs with
  | nil =>
    cases h with
    | done => exact .done (fun _ hc => absurd hc List.not_mem_nil)
    | pass hp _ => simp [Strictness.skipsCandidate] at hp
  | cons g gs ihs =>
    obtain ⟨ihg, ihgs⟩ := List.forall_mem_cons.mp ih
    cases h with
    | leave hl _ => simp [Strictness.skipsGoal] at hl
    | pass hp _ => simp [Strictness.skipsCandidate] at hp
    | run hm hs h => exact .run hm hs (ihs ihgs h)
    | @pair _ _ c rest hc h =>
      cases hr : g.isRun x with
      | true =>
        -- a placeholder for a run that is paired with one node takes it as a run of one
        obtain ⟨name, hm⟩ := Shape.metavariable?_of_isRun hr
        cases hc with
        | multiple hm' hs =>
          show FitsAmong x .cst s (g :: gs) ([c] ++ rest)
          exact .run hm' hs (ihs ihgs h)
        | single hm' _ _ | leaf hm' _ _ _ | branch hm' _ _ _ => simp [hm] at hm'
      | false =>
        show FitsAmong x .cst s (g :: gs) ([] ++ c :: rest)
        exact .pair hr rfl (fun _ hp => absurd hp List.not_mem_nil) (ihg c hc) (ihs ihgs h)

/-- Where every node needs a partner, the search considers all embeddings. -/
theorem fits_of_embeds_cst {g : Shape} {c : Node} (h : Embeds x .cst s g c) :
    Fits x .cst s g c := by
  induction g using Shape.induct generalizing c with
  | node kind named text goals ih =>
    cases h with
    | single hm hn hs => exact .single hm hn hs
    | multiple hm hs => exact .multiple hm hs
    | leaf hm hk hc ht => exact .leaf hm hk hc ht
    | branch hm hk hc h =>
      exact .branch hm hk hc (fitsAmong_of_aligns_cst (fun g hg c => ih g hg) h)

/-! ## Where nodes may go without a partner -/

mutual

/-- The pattern nodes below a pattern node that are left without a partner. -/
def Shape.left (x : Char) (level : Strictness) : Shape → List Shape
  | .node _ _ _ goals => Shape.leftAmong x level goals

/-- The same for pattern nodes in order, with these themselves. -/
def Shape.leftAmong (x : Char) (level : Strictness) : List Shape → List Shape
  | [] => []
  | g :: gs => (if g.isLeft x level then [g] else g.left x level) ++ Shape.leftAmong x level gs

end

/-- The variables for runs among some. -/
def Shape.runs (vs : List (String × Arity)) : List (String × Arity) := vs.filter (·.2 = .multiple)

/-- The assignment with other runs. -/
def Assignment.withRuns (s : Assignment) (m : String → Option (List Node)) : Assignment :=
  { s with multiple := m }

/-- One choice of runs for some variables, and another for the others. -/
def Shape.runsFor (vs : List (String × Arity)) (m m' : String → Option (List Node))
    (name : String) : Option (List Node) :=
  if (Shape.runs vs).contains (name, Arity.multiple) then m name else m' name

theorem looks_withRuns_congr {m m' : String → Option (List Node)} {vs : List (String × Arity)}
    (h : ∀ name, (name, .multiple) ∈ Shape.runs vs → m name = m' name) :
    ∀ v ∈ vs, (s.withRuns m).looks v = (s.withRuns m').looks v := by
  rintro ⟨name, _ | _⟩ hv
  · rfl
  · simp [Assignment.looks, Assignment.withRuns, h name (by simp [Shape.runs, hv])]

/-- A pattern node depends on the runs that are chosen for its variables. -/
theorem fits_runsFor {m m' : String → Option (List Node)} {g : Shape} {c : Node}
    (h : Fits x level (s.withRuns m) g c) :
    Fits x level (s.withRuns (Shape.runsFor (g.captures x level) m m')) g c :=
  fits_congr h (looks_withRuns_congr fun _ hmem => (if_pos (List.contains_iff_mem.mpr hmem)).symm)

/-- Pattern nodes do not depend on the runs that are chosen for other variables. -/
theorem fitsAmong_runsFor {m m' : String → Option (List Node)} {vs : List (String × Arity)}
    {gs : List Shape} {cs : List Node}
    (hn : (Shape.runs (vs ++ Shape.capturesAmong x level gs)).Nodup)
    (h : FitsAmong x level (s.withRuns m') gs cs) :
    FitsAmong x level (s.withRuns (Shape.runsFor vs m m')) gs cs := by
  rw [Shape.runs, List.filter_append, List.nodup_append] at hn
  refine fitsAmong_congr (fun _ _ _ => fits_congr) h (looks_withRuns_congr fun other hmem => ?_)
  have hnot : (other, Arity.multiple) ∉ Shape.runs vs := fun hmem' => hn.2.2 _ hmem' _ hmem rfl
  exact (if_neg (mt List.contains_iff_mem.mp hnot)).symm

/-- The run of a name that is not used again can be any. -/
theorem exists_fitsAmong_run {m : String → Option (List Node)} {g : Shape} {gs : List Shape}
    (hr : g.isRun x = true) (hn : (Shape.runs (Shape.capturesAmong x level (g :: gs))).Nodup)
    (run : List Node) {rest : List Node} (h : FitsAmong x level (s.withRuns m) gs rest) :
    ∃ m', FitsAmong x level (s.withRuns m') (g :: gs) (run ++ rest) := by
  obtain ⟨name, hm⟩ := Shape.metavariable?_of_isRun hr
  rw [Shape.capturesAmong_cons_kept (Shape.isLeft_of_metavariable? hm),
    Shape.captures_of_metavariable? hm] at hn
  have hrun : (s.withRuns (Shape.runsFor (Metavariable.captured (name, .multiple))
      (fun _ => some run) m)).StandsRun name run := by
    by_cases ha : name = Metavariable.anonymous
    · exact Or.inl ha
    · exact Or.inr ⟨run, by simp [Assignment.withRuns, Shape.runsFor, Shape.runs,
        Metavariable.captured, ha], rfl⟩
  exact ⟨_, .run hm hrun (fitsAmong_runsFor hn h)⟩

/-- Runs that were chosen for a pattern node and for those after it can be chosen together, if no
name is used in both. -/
theorem exists_fits_fitsAmong {m m' : String → Option (List Node)} {g : Shape} {gs : List Shape}
    (hl : g.isLeft x level = false)
    (hn : (Shape.runs (Shape.capturesAmong x level (g :: gs))).Nodup) {c : Node} {rest : List Node}
    (hg : Fits x level (s.withRuns m) g c) (h : FitsAmong x level (s.withRuns m') gs rest) :
    ∃ m'', Fits x level (s.withRuns m'') g c ∧ FitsAmong x level (s.withRuns m'') gs rest := by
  rw [Shape.capturesAmong_cons_kept hl] at hn
  exact ⟨_, fits_runsFor hg, fitsAmong_runsFor hn h⟩

/-- What is aligned after the last pattern node was passed. -/
theorem skipsNode_of_aligns_nil {cs : List Node} (h : Aligns x level s [] cs) :
    ∀ c ∈ cs, Matching.skipsNode level c = true := by
  match h with
  | .done => exact fun _ hc => absurd hc List.not_mem_nil
  | .pass hc h => exact List.forall_mem_cons.mpr ⟨hc, skipsNode_of_aligns_nil h⟩

/-- Some candidates are passed, and then the next pattern node is left out, takes a run or has a
partner. -/
theorem aligns_cons {g : Shape} {gs : List Shape} {cs : List Node}
    (h : Aligns x level s (g :: gs) cs) :
    ∃ passed cs', cs = passed ++ cs' ∧ (∀ p ∈ passed, Matching.skipsNode level p = true) ∧
      ((level.skipsGoal g.kind g.named = true ∧ Aligns x level s gs cs') ∨
        (∃ run rest, g.isRun x = true ∧ cs' = run ++ rest ∧ Aligns x level s gs rest) ∨
        ∃ c rest, cs' = c :: rest ∧ Embeds x level s g c ∧ Aligns x level s gs rest) := by
  match h with
  | .leave hl h => exact ⟨[], cs, rfl, by simp, Or.inl ⟨hl, h⟩⟩
  | .pass hc h =>
    obtain ⟨passed, cs', rfl, hp, h⟩ := aligns_cons h
    exact ⟨_ :: passed, cs', rfl, List.forall_mem_cons.mpr ⟨hc, hp⟩, h⟩
  | .run hm _ h =>
    exact ⟨[], _, rfl, by simp, Or.inr (Or.inl ⟨_, _, Shape.isRun_of_metavariable? hm, rfl, h⟩)⟩
  | .pair hc h => exact ⟨[], _, rfl, by simp, Or.inr (Or.inr ⟨_, _, rfl, hc, h⟩)⟩

theorem exists_fitsAmong_of_aligns {P : Node → Prop} {gs : List Shape} {passed cs : List Node}
    (ih : ∀ g ∈ gs, ∀ c, (Shape.runs (g.captures x level)).Nodup → P c →
      (∀ l ∈ g.left x level, ∀ c, P c → Embeds x level s l c → Matching.skipsNode level c = true) →
      Embeds x level s g c → ∃ m, Fits x level (s.withRuns m) g c)
    (hn : (Shape.runs (Shape.capturesAmong x level gs)).Nodup) (hcs : ∀ c ∈ cs, P c)
    (hleft : ∀ l ∈ Shape.leftAmong x level gs, ∀ c, P c → Embeds x level s l c →
      Matching.skipsNode level c = true)
    (hpassed : ∀ p ∈ passed, Matching.skipsNode level p = true) (h : Aligns x level s gs cs) :
    ∃ m, FitsAmong x level (s.withRuns m) gs (passed ++ cs) := by
  -- candidates that were passed are carried along: partners of nodes that are left out join them
  induction gs generalizing passed cs with
  | nil =>
    exact ⟨s.multiple,
      .done (List.forall_mem_append.mpr ⟨hpassed, skipsNode_of_aligns_nil h⟩)⟩
  | cons g gs ihs =>
    obtain ⟨ihg, ihgs⟩ := List.forall_mem_cons.mp ih
    obtain ⟨passed', cs', rfl, hp', hnext⟩ := aligns_cons h
    clear h
    obtain ⟨-, hcs'⟩ := List.forall_mem_append.mp hcs
    rw [← List.append_assoc]
    have hnone : ∀ p ∈ ([] : List Node), Matching.skipsNode level p = true := by simp
    have hall : ∀ p ∈ passed ++ passed', Matching.skipsNode level p = true :=
      List.forall_mem_append.mpr ⟨hpassed, hp'⟩
    have hleftgs : ∀ l ∈ Shape.leftAmong x level gs, ∀ c, P c → Embeds x level s l c →
        Matching.skipsNode level c = true :=
      fun l hl => hleft l (by rw [Shape.leftAmong]; exact List.mem_append_right _ hl)
    have hngs : (Shape.runs (Shape.capturesAmong x level gs)).Nodup := by
      refine hn.sublist (List.Sublist.filter _ ?_)
      rw [Shape.capturesAmong]
      exact List.sublist_append_right _ _
    cases hr : g.isRun x with
    | true =>
      -- a run takes whatever was passed right before it
      have hrun : ∀ run rest, (∀ c ∈ rest, P c) → Aligns x level s gs rest →
          ∃ m, FitsAmong x level (s.withRuns m) (g :: gs) (run ++ rest) := by
        intro run rest hrest h
        obtain ⟨m, hm⟩ := ihs ihgs hngs hrest hleftgs hnone h
        exact exists_fitsAmong_run hr hn run hm
      rcases hnext with ⟨-, h⟩ | ⟨run, rest, -, rfl, h⟩ | ⟨c, rest, rfl, -, h⟩
      · exact hrun _ _ hcs' h
      · rw [← List.append_assoc]
        exact hrun _ _ (List.forall_mem_append.mp hcs').2 h
      · rw [List.append_cons]
        exact hrun _ _ (List.forall_mem_cons.mp hcs').2 h
    | false =>
      cases hl : level.skipsGoal g.kind g.named with
      | true =>
        have hisLeft := Shape.isLeft_of_skipsGoal hr hl
        rw [Shape.capturesAmong_cons_left hisLeft] at hn
        rcases hnext with ⟨-, h⟩ | ⟨_, _, hrun, -, -⟩ | ⟨c, rest, rfl, hc, h⟩
        · obtain ⟨m, hm⟩ := ihs ihgs hn hcs' hleftgs hall h
          exact ⟨m, .leave hr hl hm⟩
        · simp [hr] at hrun
        · -- the partner is passed over as well
          obtain ⟨hPc, hrest⟩ := List.forall_mem_cons.mp hcs'
          have hskip : Matching.skipsNode level c = true :=
            hleft g (by simp [Shape.leftAmong, hisLeft]) c hPc hc
          have hall' : ∀ p ∈ (passed ++ passed') ++ [c], Matching.skipsNode level p = true :=
            List.forall_mem_append.mpr ⟨hall, by simpa using hskip⟩
          obtain ⟨m, hm⟩ := ihs ihgs hn hrest hleftgs hall' h
          rw [List.append_cons]
          exact ⟨m, .leave hr hl hm⟩
      | false =>
        have hisLeft := @Shape.isLeft_of_not_skipsGoal x level g hl
        rcases hnext with ⟨hleave, -⟩ | ⟨_, _, hrun, -, -⟩ | ⟨c, rest, rfl, hc, h⟩
        · simp [hl] at hleave
        · simp [hr] at hrun
        · have hng : (Shape.runs (g.captures x level)).Nodup := by
            refine hn.sublist (List.Sublist.filter _ ?_)
            rw [Shape.capturesAmong_cons_kept hisLeft]
            exact List.sublist_append_left _ _
          have hleftg : ∀ l ∈ g.left x level, l ∈ Shape.leftAmong x level (g :: gs) :=
            fun l hl => by simp [Shape.leftAmong, hisLeft, hl]
          obtain ⟨hPc, hrest⟩ := List.forall_mem_cons.mp hcs'
          obtain ⟨m, hm⟩ := ihg c hng hPc (fun l hl => hleft l (hleftg l hl)) hc
          obtain ⟨m', hm'⟩ := ihs ihgs hngs hrest hleftgs hnone h
          obtain ⟨m'', hg, hgs⟩ := exists_fits_fitsAmong hisLeft hn hm hm'
          exact ⟨m'', .pair hr hl hall hg hgs⟩

/-- If every run has a name of its own, and pattern nodes that are left out embed only into
candidates that may be passed, then whatever embeds also fits, perhaps with longer runs. The
candidates may be restricted to a part of the tree, with all that is below it. -/
theorem exists_fits_of_embeds {P : Node → Prop} (hP : ∀ n, P n → ∀ c ∈ n.children, P c)
    {g : Shape} {c : Node} (hn : (Shape.runs (g.captures x level)).Nodup) (hc : P c)
    (hleft : ∀ l ∈ g.left x level, ∀ c, P c → Embeds x level s l c →
      Matching.skipsNode level c = true)
    (h : Embeds x level s g c) : ∃ m, Fits x level (s.withRuns m) g c := by
  induction g using Shape.induct generalizing c with
  | node kind named text goals ih =>
    cases h with
    | single hm hc hs => exact ⟨s.multiple, .single hm hc hs⟩
    | multiple hm hs => exact ⟨s.multiple, .multiple hm hs⟩
    | leaf hm hk hc ht => exact ⟨s.multiple, .leaf hm hk hc ht⟩
    | branch hm hk hne h =>
      rw [Shape.captures_of_branch hm] at hn
      rw [Shape.left] at hleft
      have hnone : ∀ p ∈ ([] : List Node), Matching.skipsNode level p = true := by simp
      obtain ⟨m, hgoals⟩ :=
        exists_fitsAmong_of_aligns (fun g hg c => ih g hg) hn (hP c hc) hleft hnone h
      exact ⟨m, .branch hm hk hne hgoals⟩

end StructuralSearch
