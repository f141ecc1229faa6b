import StructuralSearch.Proofs.Commit.Kept

/-!
# Whether the order of a list of edits matters

Edits that start at the same place are made from the last to the first as they are listed. If two of
them are apart, and none is dropped in either order, both insert only, and the one listed later
stands first in the text. So the order matters for what is dropped, and else only where insertions
at one place do not commute.

* `insertedBack`: what edits at one place insert, taken together.
* `MeetEmpty`: two edits that start at the same place both insert only.

Results:
1. `splice_eq_splice_iff`, `commit_eq_commit_iff`: when two orders of a list of edits give the same
   text.
2. `forall_perm_kept_iff`: when nothing is dropped in any order.
3. `commit_perm_iff`: when every order gives the same text and drops nothing.
4. `splices_iff_of_commit`: when edits listed as they stand in the text are made in this order.
5. `insertion_hides_replacement`: two orders of two edits, one of which drops an edit.
-/

namespace StructuralSearch

namespace Edit

variable {text : Text} {base limit : Nat} {l l' edits : List Edit}

/-! ## The same text from two orders -/

/-- What edits insert, from the last to the first. -/
def insertedBack (l : List Edit) : Text := l.reverse.flatMap inserted

theorem insertedBack_cons (e : Edit) (l : List Edit) :
    insertedBack (e :: l) = insertedBack l ++ e.inserted := by
  simp [insertedBack]

theorem length_insertedBack (h : l.Perm l') : (insertedBack l).length = (insertedBack l').length :=
  (((List.reverse_perm l).trans h).trans (List.reverse_perm l').symm).flatMap_right inserted
    |>.length_eq

theorem slice?_self (text : Text) (i : Nat) : (text.slice? i i).getD [] = [] := by
  rw [Text.slice?, if_pos (Nat.le_refl i), Nat.sub_self]
  cases text.dropBytes? i with
  | none => rfl
  | some t => cases t <;> rfl

/-- Edits that insert only, all at the limit. -/
theorem splice_append_insertions {s : Nat} (h : ∀ e ∈ l, e.start = s ∧ e.stop = s) :
    splice text s (l ++ l') = splice text s l' ++ insertedBack l := by
  induction l with
  | nil => simp [insertedBack]
  | cons e l ih =>
    obtain ⟨⟨hstart, hstop⟩, hl⟩ := List.forall_mem_cons.mp h
    rw [List.cons_append, splice, hstart, hstop, slice?_self, ih hl, insertedBack_cons]
    simp

/-- In order of their starts, the edits that start last come first. -/
theorem eq_startingAt_append {s : Nat} (hs : l.Pairwise fun a b => b.start ≤ a.start)
    (hle : ∀ e ∈ l, e.start ≤ s) : l = startingAt s l ++ l.filter fun e => e.start < s := by
  induction l with
  | nil => rfl
  | cons e l ih =>
    obtain ⟨he, hl⟩ := List.pairwise_cons.mp hs
    obtain ⟨hes, hls⟩ := List.forall_mem_cons.mp hle
    rw [startingAt_cons, List.filter_cons]
    by_cases hstart : e.start = s
    · rw [if_pos hstart, if_neg (by simp [hstart]), List.cons_append, ← ih hl hls]
    · have hlt : ∀ f ∈ l, f.start < s := by
        intro f hf
        have := he f hf
        omega
      have hnone : startingAt s l = [] := startingAt_eq_nil fun f hf => Nat.ne_of_lt (hlt f hf)
      rw [if_neg hstart, if_pos (by simp only [decide_eq_true_eq]; omega), hnone, List.nil_append,
        List.filter_eq_self.mpr (by simpa using hlt)]

/-- Two edits that start at the same place both insert only. -/
def MeetEmpty (a b : Edit) : Prop := a.start = b.start → a.stop = a.start ∧ b.stop = b.start

theorem MeetEmpty.symm {a b : Edit} (h : MeetEmpty a b) : MeetEmpty b a :=
  fun hstart => (h hstart.symm).symm

/-- The edits that start last insert one before the other, and those before them are made as if
the text ended there. -/
theorem splice_eq_append {s : Nat} {e : Edit} {g : List Edit}
    (hs : l.Pairwise fun a b => b.start ≤ a.start) (hle : ∀ f ∈ l, f.start ≤ s)
    (hm : l.Pairwise MeetEmpty) (hg : startingAt s l = e :: g) :
    splice text limit l = splice text s (l.filter fun f => f.start < s) ++
      (insertedBack (startingAt s l) ++ (text.slice? e.stop limit).getD []) := by
  have hstart : ∀ f ∈ e :: g, f.start = s := by
    intro f hf
    rw [← hg] at hf
    exact (mem_startingAt.mp hf).2
  obtain ⟨he, hgs⟩ := List.forall_mem_cons.mp hstart
  have hmeet := hm.sublist (startingAt_sublist s l)
  rw [hg, List.pairwise_cons] at hmeet
  have hempty : ∀ f ∈ g, f.start = s ∧ f.stop = s := by
    intro f hf
    have hfs := hgs f hf
    have := (hmeet.1 f hf (he.trans hfs.symm)).2
    omega
  conv => lhs; rw [eq_startingAt_append hs hle]
  rw [hg, List.cons_append, splice, he, splice_append_insertions hempty, insertedBack_cons]
  simp

/-- The edit that is looked at first among those that start last ends at the same place in every
order. -/
theorem stop_eq_of_perm {s : Nat} {e e' : Edit} {g g' : List Edit} (hp : l.Perm l')
    (hm : l.Pairwise MeetEmpty) (hg : startingAt s l = e :: g) (hg' : startingAt s l' = e' :: g') :
    e.stop = e'.stop := by
  have hpg : (e :: g).Perm (e' :: g') := by
    rw [← hg, ← hg']
    exact hp.filter _
  have hstart : ∀ f ∈ e :: g, f.start = s := by
    intro f hf
    rw [← hg] at hf
    exact (mem_startingAt.mp hf).2
  have hmeet := hm.sublist (startingAt_sublist s l)
  rw [hg, List.pairwise_cons] at hmeet
  rcases List.mem_cons.mp (hpg.mem_iff.mpr List.mem_cons_self) with rfl | hmem
  · rfl
  · -- there are two edits, so both insert only
    have he := hstart e List.mem_cons_self
    have he' := hstart e' (List.mem_cons_of_mem _ hmem)
    have := hmeet.1 e' hmem (he.trans he'.symm)
    omega

theorem startingAt_filter_lt {s i : Nat} (h : i < s) (l : List Edit) :
    startingAt i (l.filter fun e => e.start < s) = startingAt i l := by
  rw [startingAt, List.filter_filter, startingAt]
  refine List.filter_congr ?_
  intro e _
  by_cases he : e.start = i
  · simp [he, h]
  · simp [he]

theorem startingAt_filter_lt_eq_nil {s i : Nat} (h : s ≤ i) (l : List Edit) :
    startingAt i (l.filter fun e => e.start < s) = [] := by
  refine startingAt_eq_nil ?_
  intro e he
  have := (List.mem_filter.mp he).2
  simp only [decide_eq_true_eq] at this
  omega

/-- Lists insert the same everywhere exactly if they do so at the last place and before it. -/
theorem forall_insertedBack_iff {s : Nat} (hle : ∀ e ∈ l, e.start ≤ s)
    (hle' : ∀ e ∈ l', e.start ≤ s) :
    (∀ i, insertedBack (startingAt i l) = insertedBack (startingAt i l')) ↔
      insertedBack (startingAt s l) = insertedBack (startingAt s l') ∧
      ∀ i, insertedBack (startingAt i (l.filter fun e => e.start < s)) =
        insertedBack (startingAt i (l'.filter fun e => e.start < s)) := by
  constructor
  · intro h
    refine ⟨h s, fun i => ?_⟩
    rcases Nat.lt_or_ge i s with hi | hi
    · rw [startingAt_filter_lt hi, startingAt_filter_lt hi, h i]
    · rw [startingAt_filter_lt_eq_nil hi, startingAt_filter_lt_eq_nil hi]
  · rintro ⟨hlast, hbefore⟩ i
    rcases Nat.lt_trichotomy i s with hi | rfl | hi
    · have := hbefore i
      rwa [startingAt_filter_lt hi, startingAt_filter_lt hi] at this
    · exact hlast
    · have hnone : ∀ k : List Edit, (∀ e ∈ k, e.start ≤ s) → startingAt i k = [] :=
        fun k hk => startingAt_eq_nil fun e he => Nat.ne_of_lt (Nat.lt_of_le_of_lt (hk e he) hi)
      rw [hnone l hle, hnone l' hle']

/-- Two lists of the same edits, both in order of their starts, give the same text exactly if at
each place they insert the same. -/
theorem splice_eq_splice_iff (hp : l.Perm l') (hs : l.Pairwise fun a b => b.start ≤ a.start)
    (hs' : l'.Pairwise fun a b => b.start ≤ a.start) (hm : l.Pairwise MeetEmpty) :
    splice text limit l = splice text limit l' ↔
      ∀ s, insertedBack (startingAt s l) = insertedBack (startingAt s l') := by
  induction hn : l.length using Nat.strongRecOn generalizing l l' limit with
  | ind n ih =>
    cases l with
    | nil =>
      obtain rfl := hp.nil_eq
      simp
    | cons e k =>
      have hle : ∀ f ∈ e :: k, f.start ≤ e.start :=
        List.forall_mem_cons.mpr ⟨Nat.le_refl _, (List.pairwise_cons.mp hs).1⟩
      have hle' : ∀ f ∈ l', f.start ≤ e.start := fun f hf => hle f (hp.mem_iff.mpr hf)
      have hg : startingAt e.start (e :: k) = e :: startingAt e.start k := by
        rw [startingAt_cons, if_pos rfl]
      have hpg : (startingAt e.start (e :: k)).Perm (startingAt e.start l') := hp.filter _
      cases hg' : startingAt e.start l' with
      | nil => simp [hg, hg'] at hpg
      | cons e' g' =>
        have hlt : ((e :: k).filter fun f => f.start < e.start).length < n := by
          rw [← hn]
          exact List.length_filter_lt_length_iff_exists.mpr ⟨e, List.mem_cons_self, by simp⟩
        have hbefore : splice text e.start ((e :: k).filter fun f => f.start < e.start) =
            splice text e.start (l'.filter fun f => f.start < e.start) ↔ _ :=
          ih _ hlt (hp.filter _) (hs.sublist List.filter_sublist)
            (hs'.sublist List.filter_sublist) (hm.sublist List.filter_sublist) rfl
        rw [forall_insertedBack_iff hle hle', ← hbefore, splice_eq_append hs hle hm hg,
          splice_eq_append hs' hle' (hm.perm hp MeetEmpty.symm) hg', stop_eq_of_perm hp hm hg hg']
        constructor
        · intro h
          -- what is inserted at the last place is equally long on both sides
          obtain ⟨hfront, hlast⟩ := List.append_inj' h (by
            simp only [List.length_append, length_insertedBack hpg])
          exact ⟨List.append_cancel_right hlast, hfront⟩
        · rintro ⟨hlast, hfront⟩
          rw [hlast, hfront]

/-! ## Orders of the edits of a commit -/

theorem rebase_injective (base : Nat) : Function.Injective (rebase base) := by
  rintro ⟨i, j, new⟩ ⟨i', j', new'⟩ h
  simp only [rebase, mk.injEq, Nat.add_left_cancel_iff] at h
  simpa using h

theorem insertedBack_map (l : List Edit) : insertedBack (l.map (rebase base)) = insertedBack l := by
  induction l with
  | nil => rfl
  | cons e l ih =>
    rw [List.map_cons, insertedBack_cons, ih, insertedBack_cons]
    rfl

theorem startingAt_map (i : Nat) (l : List Edit) :
    startingAt (base + i) (l.map (rebase base)) = (startingAt i l).map (rebase base) := by
  rw [startingAt, List.filter_map, startingAt]
  congr 1
  refine List.filter_congr ?_
  intro e _
  simp [rebase]

theorem forall_insertedBack_map_iff :
    (∀ s, insertedBack (startingAt s (l.map (rebase base))) =
        insertedBack (startingAt s (l'.map (rebase base)))) ↔
      ∀ s, insertedBack (startingAt s l) = insertedBack (startingAt s l') := by
  have hshift : ∀ (k : List Edit) (i : Nat),
      insertedBack (startingAt (base + i) (k.map (rebase base))) =
        insertedBack (startingAt i k) := by
    intro k i
    rw [startingAt_map, insertedBack_map]
  constructor
  · intro h i
    rw [← hshift l, ← hshift l', h (base + i)]
  · intro h s
    rcases Nat.lt_or_ge s base with hs | hs
    · have hnone : ∀ k : List Edit, startingAt s (k.map (rebase base)) = [] := by
        intro k
        refine startingAt_eq_nil ?_
        intro e he
        obtain ⟨f, -, rfl⟩ := List.mem_map.mp he
        simp only [rebase]
        omega
      rw [hnone, hnone]
    · obtain ⟨i, rfl⟩ := Nat.exists_eq_add_of_le hs
      rw [hshift, hshift, h i]

theorem kept_descending_map_iff :
    kept (base + limit) (descending (l.map (rebase base))) = descending (l.map (rebase base)) ↔
      kept limit (descending l) = descending l := by
  rw [descending_map, kept_map]
  exact (List.map_injective_iff.mpr (rebase_injective base)).eq_iff

/-- Two orders of edits, none of which is dropped in either, give the same text exactly if at each
place they insert the same. -/
theorem commit_eq_commit_iff (hp : l.Perm l') (hplaced : ∀ e ∈ l, ¬ e.Misplaced text base)
    (hm : l.Pairwise MeetEmpty)
    (hk : kept (base + text.byteLength) (descending l) = descending l)
    (hk' : kept (base + text.byteLength) (descending l') = descending l') :
    commit text base l = commit text base l' ↔
      ∀ s, insertedBack (startingAt s l) = insertedBack (startingAt s l') := by
  obtain ⟨located, rfl, hfits⟩ := exists_located fun e he => not_misplaced_iff.mp (hplaced e he)
  obtain ⟨located', rfl, hfits'⟩ :=
    exists_located fun e he => not_misplaced_iff.mp (hplaced e (hp.mem_iff.mpr he))
  have hlocated : located.Perm located' := (List.map_perm_map_iff (rebase_injective base)).mp hp
  have hmeet : located.Pairwise MeetEmpty := by
    refine (List.pairwise_map.mp hm).imp ?_
    intro a b h hstart
    have := h (congrArg (base + ·) hstart)
    simp only [rebase] at this
    omega
  have hsorted : (descending located).Perm (descending located') :=
    ((descending_perm located).trans hlocated).trans (descending_perm located').symm
  rw [commit_eq_ok_iff.mpr ⟨located, rfl, hfits, rfl⟩,
    commit_eq_ok_iff.mpr ⟨located', rfl, hfits', rfl⟩, kept_descending_map_iff.mp hk,
    kept_descending_map_iff.mp hk', Except.ok.injEq,
    splice_eq_splice_iff hsorted (pairwise_descending located) (pairwise_descending located')
      (hmeet.perm (descending_perm located).symm MeetEmpty.symm), forall_insertedBack_map_iff]
  simp only [startingAt_descending]

/-- Insertions whose texts commute with each other insert the same in any order. -/
theorem insertedBack_eq_of_perm (hp : l.Perm l')
    (hc : l.Pairwise fun a b => a.inserted ++ b.inserted = b.inserted ++ a.inserted) :
    insertedBack l = insertedBack l' := by
  induction hp with
  | nil => rfl
  | cons e _ ih => rw [insertedBack_cons, insertedBack_cons, ih (List.pairwise_cons.mp hc).2]
  | swap a b l =>
    have hab := (List.pairwise_cons.mp hc).1 a List.mem_cons_self
    simp only [insertedBack_cons, List.append_assoc, hab]
  | trans hp _ ih ih' => exact (ih hc).trans (ih' (hc.perm hp Eq.symm))

theorem start_le_stop {e : Edit} (h : ¬ e.Misplaced text base) : e.start ≤ e.stop :=
  Nat.le_of_not_lt fun hlt => h (Or.inl hlt)

theorem stop_le {e : Edit} (h : ¬ e.Misplaced text base) : e.stop ≤ base + text.byteLength :=
  Nat.le_of_not_lt fun hlt => h (Or.inr (Or.inl (Or.inr hlt)))

/-- Whatever the order of edits that are apart, none is dropped, exactly if edits that start at the
same place insert only. -/
theorem forall_perm_kept_iff (hplaced : ∀ e ∈ edits, ¬ e.Misplaced text base)
    (ha : edits.Pairwise Apart) :
    (∀ l, l.Perm edits → kept (base + text.byteLength) (descending l) = descending l) ↔
      edits.Pairwise MeetEmpty := by
  have hkept : ∀ l, l.Perm edits →
      (kept (base + text.byteLength) (descending l) = descending l ↔
        l.Pairwise fun a b => a.start = b.start → b.stop = b.start) := by
    intro l hp
    have hl : ∀ e ∈ l, ¬ e.Misplaced text base := fun e he => hplaced e (hp.mem_iff.mp he)
    exact kept_descending_eq_self_iff (fun e he => start_le_stop (hl e he))
      (fun e he => stop_le (hl e he)) (ha.perm hp.symm Or.symm)
  constructor
  · intro hall
    -- either of two edits is listed later in one of two orders
    have hreverse := List.reverse_perm edits
    have hlater := (hkept edits (.refl edits)).mp (hall edits (.refl edits))
    have hearlier := (hkept _ hreverse).mp (hall _ hreverse)
    rw [List.pairwise_reverse] at hearlier
    refine hearlier.imp₂ ?_ hlater
    intro a b ha hb hstart
    exact ⟨ha hstart.symm, hb hstart⟩
  · intro hm l hp
    refine (hkept l hp).mpr ((hm.perm hp.symm MeetEmpty.symm).imp ?_)
    intro a b h hstart
    exact (h hstart).2

/-- Two insertions at the same place give the same text in either order only if their texts
commute. -/
theorem inserted_comm {a b : Edit} {rest : List Edit} (hstart : a.start = b.start)
    (h : ∀ s, insertedBack (startingAt s (b :: a :: rest)) =
      insertedBack (startingAt s (a :: b :: rest))) :
    a.inserted ++ b.inserted = b.inserted ++ a.inserted := by
  have hplace := h b.start
  simp only [startingAt_cons, hstart, if_true, insertedBack_cons, List.append_assoc] at hplace
  exact List.append_cancel_left hplace

/-- Of edits that a commit accepts and that are apart, every order gives the same text and makes
every edit, exactly if wherever two start at the same place, both insert only and their texts
commute. -/
theorem commit_perm_iff {out : Text} (h : commit text base edits = .ok out)
    (ha : edits.Pairwise Apart) :
    (∀ edits', edits'.Perm edits → commit text base edits' = .ok out ∧
        ∀ applied, Selects (base + text.byteLength) (edits'.mergeSort startsLater) applied →
          applied.Perm edits') ↔
      edits.Pairwise fun a b => a.start = b.start → a.stop = a.start ∧ b.stop = b.start ∧
        a.inserted ++ b.inserted = b.inserted ++ a.inserted := by
  have hplaced := exists_commit_iff.mp ⟨out, h⟩
  have hkept := forall_perm_kept_iff hplaced ha
  have hcommit : ∀ l l', l.Perm edits → l'.Perm edits → edits.Pairwise MeetEmpty →
      (commit text base l = commit text base l' ↔
        ∀ s, insertedBack (startingAt s l) = insertedBack (startingAt s l')) := by
    intro l l' hp hp' hm
    exact commit_eq_commit_iff (hp.trans hp'.symm) (fun e he => hplaced e (hp.mem_iff.mp he))
      (hm.perm hp.symm MeetEmpty.symm) (hkept.mpr hm l hp) (hkept.mpr hm l' hp')
  constructor
  · intro hall
    have hm : edits.Pairwise MeetEmpty := by
      refine hkept.mp ?_
      intro l hp
      have hselects : Selects (base + text.byteLength) (l.mergeSort startsLater) _ :=
        selects_iff.mpr rfl
      exact (perm_iff_of_selects hselects).mp ((hall l hp).2 _ hselects)
    rw [List.pairwise_iff_forall_sublist]
    intro a b hab hstart
    obtain ⟨hastop, hbstop⟩ := List.pairwise_iff_forall_sublist.mp hm hab hstart
    refine ⟨hastop, hbstop, ?_⟩
    -- both edits are put in front of the others, in either order
    obtain ⟨rest, hrest⟩ := hab.exists_perm_append
    have hp : (a :: b :: rest).Perm edits := hrest.symm
    have hp' : (b :: a :: rest).Perm edits := (List.Perm.swap a b rest).trans hp
    exact inserted_comm hstart
      ((hcommit _ _ hp' hp hm).mp ((hall _ hp').1.trans (hall _ hp).1.symm))
  · intro hpair l hp
    have hm : edits.Pairwise MeetEmpty := by
      refine hpair.imp ?_
      intro a b h hstart
      exact ⟨(h hstart).1, (h hstart).2.1⟩
    constructor
    · rw [← h, hcommit l edits hp (.refl edits) hm]
      intro s
      symm
      refine insertedBack_eq_of_perm (hp.symm.filter _) ?_
      refine (hpair.sublist (startingAt_sublist s edits)).imp_of_mem ?_
      intro a b hamem hbmem hab
      exact (hab ((mem_startingAt.mp hamem).2.trans (mem_startingAt.mp hbmem).2.symm)).2.2
    · intro applied hselects
      exact (perm_iff_of_selects hselects).mpr (hkept.mpr hm l hp)

/-! ## Edits listed as they stand in the text -/

theorem startingAt_reverse (s : Nat) (l : List Edit) :
    startingAt s l.reverse = (startingAt s l).reverse := by
  rw [startingAt, List.filter_reverse, startingAt]

theorem insertedBack_reverse (l : List Edit) : insertedBack l.reverse = l.flatMap inserted := by
  rw [insertedBack, List.reverse_reverse]

variable (hplaced : ∀ e ∈ l, ¬ e.Misplaced text base) (hl : l.Pairwise fun a b => a.stop ≤ b.start)

include hplaced hl

theorem descending_reverse : descending l.reverse = l.reverse := by
  rw [descending_eq_mergeSort]
  refine List.mergeSort_of_pairwise ?_
  rw [List.pairwise_reverse]
  refine hl.imp_of_mem ?_
  intro a b ha _ hab
  have := start_le_stop (hplaced a ha)
  simp only [startsLater, decide_eq_true_eq]
  omega

theorem kept_reverse : kept (base + text.byteLength) l.reverse = l.reverse := by
  refine kept_eq_self (List.pairwise_reverse.mpr hl) ?_
  intro e he
  exact stop_le (hplaced e (List.mem_reverse.mp he))

/-- Listed from the last to the first, the edits are all made. -/
theorem splices_of_commit_reverse {out : Text} (h : commit text base l.reverse = .ok out) :
    Splices base l text out := by
  obtain ⟨applied, hselects, hsplices⟩ := exists_splices_of_commit h
  rw [← descending_eq_mergeSort, descending_reverse hplaced hl, selects_iff,
    kept_reverse hplaced hl, List.reverse_reverse] at hselects
  rwa [hselects] at hsplices

/-- Edits that are listed as they stand in the text are all made and in this order, exactly if
wherever two start at the same place, the one listed later inserts only, and at each place the
texts that are inserted read the same from the last to the first. -/
theorem splices_iff_of_commit {out : Text} {applied : List Edit} (h : commit text base l = .ok out)
    (hselects : Selects (base + text.byteLength) (l.mergeSort startsLater) applied) :
    (Splices base l text out ∧ applied.length = l.length) ↔
      (l.Pairwise fun a b => a.start = b.start → b.stop = b.start) ∧
      ∀ s, insertedBack (startingAt s l) = (startingAt s l).flatMap inserted := by
  have hkept := kept_descending_eq_self_iff (fun e he => start_le_stop (hplaced e he))
    (fun e he => stop_le (hplaced e he)) (hl.imp Or.inl)
  -- the order in which the text has them is that of committing them from the last to the first
  obtain ⟨out', hout'⟩ := exists_commit_iff.mpr fun e he => hplaced e (List.mem_reverse.mp he)
  have hsplices := splices_of_commit_reverse hplaced hl hout'
  have hsame : Splices base l text out ↔ commit text base l = commit text base l.reverse := by
    rw [h, hout', Except.ok.injEq]
    exact ⟨fun hs => hs.unique hsplices, fun heq => heq ▸ hsplices⟩
  rw [length_eq_iff_of_selects hselects, hkept, and_comm, hsame, and_congr_right_iff]
  intro hlater
  have hm : l.Pairwise MeetEmpty := by
    refine (hlater.and hl).imp_of_mem ?_
    intro a b ha _ hab hstart
    have := start_le_stop (hplaced a ha)
    have := hab.1 hstart
    omega
  have hk' : kept (base + text.byteLength) (descending l.reverse) = descending l.reverse := by
    rw [descending_reverse hplaced hl, kept_reverse hplaced hl]
  rw [commit_eq_commit_iff (List.reverse_perm l).symm hplaced hm (hkept.mpr hlater) hk']
  simp only [startingAt_reverse, insertedBack_reverse]

omit hplaced hl

/-! ## Examples -/

/-- A replacement, and two insertions at one place behind it, of texts that commute. -/
def spreadEdits : List Edit := [⟨8, 9, ['x']⟩, ⟨12, 12, ['-']⟩, ⟨12, 12, ['-', '-']⟩]

/-- The three edits can be listed in any order. -/
theorem commit_spreadEdits :
    commit "a + b".toList 8 spreadEdits = .ok "x + ---b".toList ∧ spreadEdits.Pairwise Apart ∧
    ∀ edits', edits'.Perm spreadEdits → commit "a + b".toList 8 edits' = .ok "x + ---b".toList ∧
      ∀ applied, Selects 13 (edits'.mergeSort startsLater) applied → applied.Perm edits' := by
  have hcommit : commit "a + b".toList 8 spreadEdits = .ok "x + ---b".toList := by rfl
  have hapart : spreadEdits.Pairwise Apart := by
    simp [spreadEdits, Apart]
  exact ⟨hcommit, hapart, (commit_perm_iff hcommit hapart).mpr (by simp [spreadEdits])⟩

/-- An insertion, and a replacement of what stands behind that place. -/
def touchingEdits : List Edit := [⟨1, 1, ['X']⟩, ⟨1, 2, ['Y']⟩]

/-- The edits are apart, but with the insertion listed first the replacement is dropped; listed the
other way round, both are made. -/
theorem insertion_hides_replacement :
    touchingEdits.Pairwise Apart ∧ commit "a;b".toList 0 touchingEdits = .ok "aX;b".toList ∧
    commit "a;b".toList 0 touchingEdits.reverse = .ok "aXYb".toList ∧
    ∃ applied, Selects 3 (touchingEdits.mergeSort startsLater) applied ∧
      ¬ applied.Perm touchingEdits := by
  have hapart : touchingEdits.Pairwise Apart := by
    simp [touchingEdits, Apart]
  refine ⟨hapart, rfl, rfl, _, selects_iff.mpr rfl, ?_⟩
  rw [← descending_eq_mergeSort]
  intro hperm
  have := hperm.length_eq
  simp [touchingEdits, descending, descending.insertDescending, kept] at this

end Edit

end StructuralSearch
