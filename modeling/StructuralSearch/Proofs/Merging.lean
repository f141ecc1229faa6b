import Mathlib.Data.List.Forall2
import StructuralSearch.Proofs.Evaluation.Bindings

/-!
# Merging environments

Two environments can be merged unless a name is bound in both to different nodes or to different
runs. The merged environment has the captures of both, and the transform results of both, where a
result of the second replaces one of the first. Which nodes are different is decided by tree and
bytes, so environments, too, are compared by the places of what they captured. Up to that, merging
has the empty environment as its unit, it is idempotent and associative, and as long as there are no
transform results also commutative.

* `Coincide`: two values are equal, if both are there.
* `Env.Conflicts`: a name is bound in both environments to what differs.
* `Env.SameResult`: no environment on both sides, or equal ones.

Results:
1. `NameMap.compatible_iff`, `NameMap.same_iff`: maps are compared name by name.
2. `Env.merge_eq_some_iff`: when environments merge, and to what.
3. `Env.coincides_assoc`: conflicts among three environments are met however they are grouped.
4. `Env.merge_laws`: the laws of merging.
-/

namespace StructuralSearch

/-! ## Values that coincide -/

section

variable {κ : Type} {x y z : Option κ}

/-- The values are equal, if both are there. -/
def Coincide (x y : Option κ) : Prop := ∀ k ∈ x, ∀ l ∈ y, k = l

theorem coincide_self (x : Option κ) : Coincide x x := fun _ hk _ hl => Option.mem_unique hk hl

theorem coincide_none_left (y : Option κ) : Coincide none y := fun _ hk => by cases hk

theorem Coincide.symm (h : Coincide x y) : Coincide y x := fun l hl k hk => (h k hk l hl).symm

/-- It does not matter which two of three values are joined first. -/
theorem coincide_assoc :
    Coincide x y ∧ Coincide (x.or y) z ↔ Coincide y z ∧ Coincide x (y.or z) := by
  cases x with
  | none => simp [Coincide]
  | some k =>
    cases y with
    | none => simp [Coincide]
    | some l =>
      cases z with
      | none => simp [Coincide]
      | some m =>
        simp only [Coincide, Option.or_some, Option.mem_some, forall_eq']
        constructor
        · rintro ⟨rfl, rfl⟩
          exact ⟨rfl, rfl⟩
        · rintro ⟨rfl, rfl⟩
          exact ⟨rfl, rfl⟩

theorem or_comm_of_coincide (h : Coincide x y) : x.or y = y.or x := by
  cases x with
  | none => simp
  | some k =>
    cases y with
    | none => simp
    | some l => rw [h k rfl l rfl]

/-- Two values do not coincide if both are there and differ. -/
theorem not_coincide_map_iff {α : Type} {eq : α → α → Bool} {key : α → κ} {v w : Option α}
    (heq : ∀ a b, eq a b = true ↔ key a = key b) :
    ¬ Coincide (v.map key) (w.map key) ↔ ∃ a b, v = some a ∧ w = some b ∧ eq a b = false := by
  constructor
  · intro h
    cases v with
    | none => exact absurd (coincide_none_left _) h
    | some a =>
      cases w with
      | none => exact absurd (coincide_none_left _).symm h
      | some b =>
        refine ⟨a, b, rfl, rfl, Bool.eq_false_iff.mpr fun hab => h ?_⟩
        rw [Option.map_some, Option.map_some, (heq a b).mp hab]
        exact coincide_self _
  · rintro ⟨a, b, rfl, rfl, hne⟩ h
    rw [(heq a b).mpr (h _ rfl _ rfl)] at hne
    cases hne

end

/-! ## Maps, name by name -/

namespace NameMap

variable {α κ : Type} {eq : α → α → Bool} {key : α → κ} {a b : NameMap α} {name : String}

/-- Maps are compatible if no name has different values in them. -/
theorem compatible_iff (heq : ∀ v w, eq v w = true ↔ key v = key w) (hb : b.names.Nodup) :
    compatible eq a b = true ↔
      ∀ name, Coincide ((a.find? name).map key) ((b.find? name).map key) := by
  rw [compatible, List.all_eq_true]
  constructor
  · intro h name k hk l hl
    obtain ⟨v, hv, rfl⟩ := Option.map_eq_some_iff.mp hk
    obtain ⟨w, hw, rfl⟩ := Option.map_eq_some_iff.mp hl
    have hvw := h _ (mem_of_find? hw)
    rw [hv] at hvw
    exact (heq v w).mp hvw
  · rintro h ⟨name, w⟩ hmem
    cases hv : a.find? name with
    | none => rfl
    | some v =>
      have hw := find?_of_mem hb hmem
      exact (heq v w).mpr (h name _ (by rw [hv]; rfl) _ (by rw [hw]; rfl))

/-- Maps are the same if they have the same names with equal values. -/
theorem same_iff (heq : ∀ v w, eq v w = true ↔ key v = key w) (ha : a.names.Nodup)
    (hb : b.names.Nodup) :
    same eq a b = true ↔ ∀ name, (a.find? name).map key = (b.find? name).map key := by
  rw [same, Bool.and_eq_true, List.all_eq_true, List.all_eq_true]
  constructor
  · rintro ⟨hab, hba⟩ name
    cases hv : a.find? name with
    | some v =>
      obtain ⟨w, hw, hvw⟩ := (Option.any_eq_true _ _).mp (hab _ (mem_of_find? hv))
      rw [show b.find? name = some w from hw, Option.map_some, Option.map_some,
        (heq v w).mp hvw]
    | none =>
      cases hw : b.find? name with
      | none => rfl
      | some w =>
        have hcontains := hba _ (mem_of_find? hw)
        rw [contains, hv] at hcontains
        cases hcontains
  · intro h
    constructor
    · rintro ⟨name, v⟩ hmem
      have hname := h name
      rw [find?_of_mem ha hmem, Option.map_some] at hname
      obtain ⟨w, hw, hvw⟩ := Option.map_eq_some_iff.mp hname.symm
      exact (Option.any_eq_true _ _).mpr ⟨w, hw, (heq v w).mpr hvw.symm⟩
    · rintro ⟨name, w⟩ hmem
      have hname := h name
      rw [find?_of_mem hb hmem, Option.map_some] at hname
      obtain ⟨v, hv, -⟩ := Option.map_eq_some_iff.mp hname
      rw [contains, hv, Option.isSome_some]

/-- Of two values the second counts. -/
theorem find?_override (hb : b.names.Nodup) (name : String) :
    (a.override b).find? name = (b.find? name).or (a.find? name) := by
  induction b generalizing a with
  | nil => rfl
  | cons e b ih =>
    obtain ⟨k, v⟩ := e
    obtain ⟨hk, hb⟩ := List.nodup_cons.mp hb
    have hstep : (a.override ((k, v) :: b)).find? name =
        (NameMap.find? b name).or ((a.insert k v).find? name) := ih hb
    rw [hstep]
    by_cases hname : name = k
    · subst hname
      have hnone : NameMap.find? b name = none := by
        simpa [contains] using contains_eq_false_iff.mpr hk
      rw [hnone, find?_insert_self, find?, List.lookup_cons_self]
      rfl
    · have hne : (name == k) = false := beq_eq_false_iff_ne.mpr hname
      rw [find?_insert_of_ne hname]
      simp [find?, List.lookup_cons, hne]

theorem nodup_override (ha : a.names.Nodup) : (a.override b).names.Nodup := by
  induction b generalizing a with
  | nil => exact ha
  | cons e b ih => exact ih (nodup_insert ha)

end NameMap

/-! ## Equal nodes and runs -/

/-- What nodes are compared by: the tree, and where in it they begin and end. -/
def Node.place (n : Node) : Nat × Nat × Nat := (n.tree.stamp, n.start, n.stop)

theorem Node.same_iff (a b : Node) : a.same b = true ↔ a.place = b.place := by
  simp [same, place, and_assoc]

namespace Env

theorem sameRun_iff (as bs : List Node) :
    sameRun as bs = true ↔ as.map Node.place = bs.map Node.place := by
  have hzip : sameRun as bs = true ↔ List.Forall₂ (fun a b => a.place = b.place) as bs := by
    simp only [sameRun, Bool.and_eq_true, beq_iff_eq, List.all_eq_true, List.forall₂_iff_zip,
      ← Node.same_iff]
    exact and_congr_right fun _ => Prod.forall
  rw [hzip, ← List.forall₂_eq_eq_eq, List.forall₂_map_left_iff, List.forall₂_map_right_iff]

variable {a b c m : Env} {name : String}

/-! ## Environments, name by name -/

/-- The place of the node that a name captured. -/
def place? (e : Env) (name : String) : Option (Nat × Nat × Nat) := (e.node? name).map Node.place

/-- The places of the run that a name captured. -/
def places? (e : Env) (name : String) : Option (List (Nat × Nat × Nat)) :=
  (e.multiple.find? name).map (List.map Node.place)

theorem same_iff (ha : a.Distinct) (hb : b.Distinct) :
    a.same b = true ↔ ∀ name, a.place? name = b.place? name ∧ a.places? name = b.places? name ∧
      a.transformed? name = b.transformed? name := by
  have htransformed : NameMap.same (· == ·) a.transformed b.transformed = true ↔
      ∀ name, (a.transformed? name).map id = (b.transformed? name).map id :=
    NameMap.same_iff (fun _ _ => beq_iff_eq) ha.transformed hb.transformed
  simp only [Option.map_id_fun, id] at htransformed
  rw [same, Bool.and_eq_true, Bool.and_eq_true, and_assoc, htransformed,
    NameMap.same_iff Node.same_iff ha.single hb.single,
    NameMap.same_iff sameRun_iff ha.multiple hb.multiple, ← forall_and, ← forall_and]
  rfl

/-- The captures of both coincide wherever both have some. -/
def Coincides (a b : Env) : Prop :=
  ∀ name, Coincide (a.place? name) (b.place? name) ∧ Coincide (a.places? name) (b.places? name)

/-- The captures of both environments, and the transform results of both; of two results the second
counts. -/
def join (a b : Env) : Env :=
  ⟨a.single.union b.single, a.multiple.union b.multiple, a.transformed.override b.transformed⟩

/-- Environments whose captures coincide merge, and others do not. -/
theorem merge_eq_some_iff (hb : b.Distinct) :
    a.merge b = some m ↔ a.Coincides b ∧ a.join b = m := by
  have hcompatible : (NameMap.compatible Node.same a.single b.single &&
      NameMap.compatible sameRun a.multiple b.multiple) = true ↔ a.Coincides b := by
    rw [Bool.and_eq_true, NameMap.compatible_iff Node.same_iff hb.single,
      NameMap.compatible_iff sameRun_iff hb.multiple, ← forall_and]
    rfl
  unfold merge
  split
  · next h => simp [hcompatible.mp h, join]
  · next h => simp [mt hcompatible.mpr h]

theorem place?_join (a b : Env) (name : String) :
    (a.join b).place? name = (a.place? name).or (b.place? name) := by
  show ((a.single.union b.single).find? name).map Node.place = _
  rw [NameMap.find?_union, Option.map_or]
  rfl

theorem places?_join (a b : Env) (name : String) :
    (a.join b).places? name = (a.places? name).or (b.places? name) := by
  show ((a.multiple.union b.multiple).find? name).map (List.map Node.place) = _
  rw [NameMap.find?_union, Option.map_or]
  rfl

theorem transformed?_join (hb : b.Distinct) (name : String) :
    (a.join b).transformed? name = (b.transformed? name).or (a.transformed? name) :=
  NameMap.find?_override hb.transformed name

theorem Distinct.join (ha : a.Distinct) (hb : b.Distinct) : (a.join b).Distinct where
  single := NameMap.nodup_union ha.single hb.single
  multiple := NameMap.nodup_union ha.multiple hb.multiple
  transformed := NameMap.nodup_override ha.transformed

/-! ## Conflicts -/

/-- A name is bound in both environments to different nodes, or to different runs. -/
def Conflicts (a b : Env) : Prop :=
  (∃ name n m, a.single.find? name = some n ∧ b.single.find? name = some m ∧
    n.same m = false) ∨
  ∃ name ns ms, a.multiple.find? name = some ns ∧ b.multiple.find? name = some ms ∧
    sameRun ns ms = false

theorem not_coincides_iff : ¬ a.Coincides b ↔ a.Conflicts b := by
  rw [Coincides, not_forall]
  simp only [not_and_or, exists_or]
  exact or_congr (exists_congr fun _ => not_coincide_map_iff Node.same_iff)
    (exists_congr fun _ => not_coincide_map_iff sameRun_iff)

theorem Coincides.symm (h : a.Coincides b) : b.Coincides a :=
  fun name => ⟨(h name).1.symm, (h name).2.symm⟩

theorem coincides_empty_left (a : Env) : empty.Coincides a :=
  fun _ => ⟨coincide_none_left _, coincide_none_left _⟩

/-- Conflicts among three environments are met however they are grouped. -/
theorem coincides_assoc :
    a.Coincides b ∧ (a.join b).Coincides c ↔ b.Coincides c ∧ a.Coincides (b.join c) := by
  simp only [Coincides, place?_join, places?_join, ← forall_and]
  refine forall_congr' fun name => ?_
  rw [and_and_and_comm, coincide_assoc, coincide_assoc, and_and_and_comm]

/-! ## Laws -/

/-- Neither has a result, or both have results that are the same. -/
def SameResult (x y : Option Env) : Prop := Option.Rel (fun a b => a.same b = true) x y

theorem sameResult_of_iff {P Q : Prop} {x y : Option Env} (hx : ∀ m, x = some m ↔ P ∧ a = m)
    (hy : ∀ m, y = some m ↔ Q ∧ b = m) (hPQ : P ↔ Q) (h : P → a.same b = true) :
    SameResult x y := by
  by_cases hP : P
  · rw [(hx a).mpr ⟨hP, rfl⟩, (hy b).mpr ⟨hPQ.mp hP, rfl⟩]
    exact .some (h hP)
  · have hnone : x = none := Option.eq_none_iff_forall_ne_some.mpr fun m hm => hP ((hx m).mp hm).1
    have hnone' : y = none :=
      Option.eq_none_iff_forall_ne_some.mpr fun m hm => hP (hPQ.mpr ((hy m).mp hm).1)
    rw [hnone, hnone']
    exact .none

theorem join_assoc (ha : a.Distinct) (hb : b.Distinct) (hc : c.Distinct) :
    ((a.join b).join c).same (a.join (b.join c)) = true := by
  refine (same_iff ((ha.join hb).join hc) (ha.join (hb.join hc))).mpr fun name => ⟨?_, ?_, ?_⟩
  · simp only [place?_join, Option.or_assoc]
  · simp only [places?_join, Option.or_assoc]
  · rw [transformed?_join hc, transformed?_join hb, transformed?_join (hb.join hc),
      transformed?_join hc, Option.or_assoc]

theorem join_comm (ha : a.Distinct) (hb : b.Distinct) (hta : a.transformed = .empty)
    (htb : b.transformed = .empty) (h : a.Coincides b) : (a.join b).same (b.join a) = true := by
  refine (same_iff (ha.join hb) (hb.join ha)).mpr fun name => ⟨?_, ?_, ?_⟩
  · rw [place?_join, place?_join, or_comm_of_coincide (h name).1]
  · rw [places?_join, places?_join, or_comm_of_coincide (h name).2]
  · rw [transformed?_join hb, transformed?_join ha, transformed?, transformed?, hta, htb]

theorem merge_assoc (ha : a.Distinct) (hb : b.Distinct) (hc : c.Distinct) :
    SameResult ((a.merge b).bind (·.merge c)) ((b.merge c).bind a.merge) := by
  have hleft : ∀ m, (a.merge b).bind (·.merge c) = some m ↔
      (a.Coincides b ∧ (a.join b).Coincides c) ∧ (a.join b).join c = m := by
    intro m
    simp only [Option.bind_eq_some_iff, merge_eq_some_iff hb, merge_eq_some_iff hc]
    constructor
    · rintro ⟨_, ⟨hab, rfl⟩, habc, rfl⟩
      exact ⟨⟨hab, habc⟩, rfl⟩
    · rintro ⟨⟨hab, habc⟩, rfl⟩
      exact ⟨_, ⟨hab, rfl⟩, habc, rfl⟩
  have hright : ∀ m, (b.merge c).bind a.merge = some m ↔
      (b.Coincides c ∧ a.Coincides (b.join c)) ∧ a.join (b.join c) = m := by
    intro m
    simp only [Option.bind_eq_some_iff, merge_eq_some_iff hc]
    constructor
    · rintro ⟨_, ⟨hbc, rfl⟩, hm⟩
      obtain ⟨habc, rfl⟩ := (merge_eq_some_iff (hb.join hc)).mp hm
      exact ⟨⟨hbc, habc⟩, rfl⟩
    · rintro ⟨⟨hbc, habc⟩, rfl⟩
      exact ⟨_, ⟨hbc, rfl⟩, (merge_eq_some_iff (hb.join hc)).mpr ⟨habc, rfl⟩⟩
  exact sameResult_of_iff hleft hright coincides_assoc fun _ => join_assoc ha hb hc

theorem merge_comm (ha : a.Distinct) (hb : b.Distinct) (hta : a.transformed = .empty)
    (htb : b.transformed = .empty) : SameResult (a.merge b) (b.merge a) :=
  sameResult_of_iff (fun _ => merge_eq_some_iff hb) (fun _ => merge_eq_some_iff ha)
    ⟨Coincides.symm, Coincides.symm⟩ (join_comm ha hb hta htb)

theorem empty_merge (ha : a.Distinct) : SameResult (empty.merge a) (some a) := by
  have hjoin : empty.merge a = some (empty.join a) :=
    (merge_eq_some_iff ha).mpr ⟨coincides_empty_left a, rfl⟩
  rw [hjoin]
  refine .some ((same_iff (distinct_empty.join ha) ha).mpr fun name => ⟨?_, ?_, ?_⟩)
  · rw [place?_join]
    exact Option.none_or
  · rw [places?_join]
    exact Option.none_or
  · rw [transformed?_join ha]
    exact Option.or_none

/-- Environments merge unless a name is bound in both to what differs. The merged environment binds
exactly what one of them binds, and has the transform results of both; of two results of one name,
that of the second environment. Merging has the empty environment as its unit, it is idempotent and
associative; and it is commutative on environments without transform results. -/
theorem merge_laws (ha : a.Distinct) (hb : b.Distinct) (hc : c.Distinct) :
    (a.merge b = none ↔ a.Conflicts b) ∧
    (∀ m, a.merge b = some m → m.Distinct ∧ ∀ name,
      m.single.find? name = (a.single.find? name).or (b.single.find? name) ∧
      m.multiple.find? name = (a.multiple.find? name).or (b.multiple.find? name) ∧
      m.transformed.find? name = (b.transformed.find? name).or (a.transformed.find? name)) ∧
    SameResult (a.merge .empty) (some a) ∧ SameResult (empty.merge a) (some a) ∧
    SameResult (a.merge a) (some a) ∧
    SameResult ((a.merge b).bind (·.merge c)) ((b.merge c).bind a.merge) ∧
    (a.transformed = .empty → b.transformed = .empty →
      SameResult (a.merge b) (b.merge a)) := by
  refine ⟨?_, fun m hm => ?_, ?_, empty_merge ha, ?_, merge_assoc ha hb hc, merge_comm ha hb⟩
  · rw [← not_coincides_iff, Option.eq_none_iff_forall_ne_some]
    constructor
    · exact fun h hab => h _ ((merge_eq_some_iff hb).mpr ⟨hab, rfl⟩)
    · exact fun h m hm => h ((merge_eq_some_iff hb).mp hm).1
  · obtain ⟨-, rfl⟩ := (merge_eq_some_iff hb).mp hm
    exact ⟨ha.join hb, fun name => ⟨NameMap.find?_union _ _ name, NameMap.find?_union _ _ name,
      NameMap.find?_override hb.transformed name⟩⟩
  · rw [merge_empty]
    exact .some ha.same_self
  · rw [(Extends.refl a).merge ha]
    exact .some ha.same_self

end Env

/-! ## An example -/

/-- The word `b` has been captured as `B` and the words `b c` as `R`, and `T` has a result. -/
def runCaptured : Env :=
  ⟨[("B", ⟨lastIsFirstText, 5⟩)], [("R", [⟨lastIsFirstText, 5⟩, ⟨lastIsFirstText, 6⟩])],
    [("T", ['t'])]⟩

/-- The last word has been captured as `A` and the words `b c` as `R`, and `T` has another
result. -/
def lastCaptured : Env :=
  ⟨[("A", ⟨lastIsFirstText, 7⟩)], [("R", [⟨lastIsFirstText, 5⟩, ⟨lastIsFirstText, 6⟩])],
    [("T", ['u'])]⟩

/-- Two words with one name do not merge, although they read the same; nor do they after something
else has been merged with one of them. -/
theorem merge_captured :
    firstCaptured.Distinct ∧ runCaptured.Distinct ∧ lastCaptured.Distinct ∧
      firstCaptured.merge lastCaptured = none ∧
      (firstCaptured.merge runCaptured).isSome = true ∧
      (runCaptured.merge lastCaptured).isSome = true ∧
      Env.SameResult ((firstCaptured.merge runCaptured).bind (·.merge lastCaptured))
        ((runCaptured.merge lastCaptured).bind firstCaptured.merge) := by
  have hfirst : firstCaptured.Distinct := ⟨by decide, by decide, by decide⟩
  have hrun : runCaptured.Distinct := ⟨by decide, by decide, by decide⟩
  have hlast : lastCaptured.Distinct := ⟨by decide, by decide, by decide⟩
  have hconflicts : firstCaptured.Conflicts lastCaptured :=
    Or.inl ⟨"A", ⟨lastIsFirstText, 2⟩, ⟨lastIsFirstText, 7⟩, rfl, rfl, by decide⟩
  obtain ⟨hnone, -⟩ := Env.merge_laws hfirst hlast hrun
  obtain ⟨-, -, -, -, -, hassoc, -⟩ := Env.merge_laws hfirst hrun hlast
  exact ⟨hfirst, hrun, hlast, hnone.mpr hconflicts, by decide, by decide, hassoc⟩

end StructuralSearch
