import Mathlib.Data.List.Induction
import StructuralSearch.Proofs.Commit

/-!
# Committing is splicing

A commit works from the last edit back, cuts what stands behind each one, and moves a limit towards
the beginning of the text. Here the same is said without a limit that moves: which edits are made,
and how a text reads from its beginning to its end once all of these are made at the same time.

* `Misplaced`: the edit cannot be made in the text that begins at `base`.
* `startsLater`: the order in which edits are looked at; equal starts keep the order of the list.
* `Selects`: which of the edits, looked at one after the other, are made.
* `Splices`: the text with edits made, from its beginning to its end.

Results:
1. `descending_eq_mergeSort`: the edits are looked at in the order of a stable sort.
2. `selects_iff`: the edits that are kept are those that are selected.
3. `Splices.unique`, `splices_splice`: what is assembled from the end is the spliced text.
4. `commit_splices_iff`: when a commit fails, and what it returns otherwise.
-/

namespace StructuralSearch

namespace Edit

variable {text : Text} {base limit : Nat} {e : Edit} {l edits : List Edit}

/-! ## Edits that cannot be made -/

/-- The offset stands between two characters of the text that begins at `base`, or at an end. -/
def OnBoundary (text : Text) (base i : Nat) : Prop :=
  ∃ front back, text = front ++ back ∧ base + front.byteLength = i

/-- The edit ends before it starts, lies outside the text, or splits a character. -/
def Misplaced (text : Text) (base : Nat) (e : Edit) : Prop :=
  e.stop < e.start ∨ (e.start < base ∨ base + text.byteLength < e.stop) ∨
    ¬ (OnBoundary text base e.start ∧ OnBoundary text base e.stop)

theorem onBoundary_iff {i : Nat} : OnBoundary text base (base + i) ↔ text.isBoundary i = true := by
  rw [Text.isBoundary_iff]
  constructor
  · rintro ⟨front, back, htext, hi⟩
    exact ⟨front, back, htext, Nat.add_left_cancel hi⟩
  · rintro ⟨front, back, htext, rfl⟩
    exact ⟨front, back, htext, rfl⟩

/-- An edit is not misplaced exactly if it replaces a slice of the text. -/
theorem not_misplaced_iff :
    ¬ e.Misplaced text base ↔ ∃ f : Edit, e = f.rebase base ∧ f.FitsIn text := by
  constructor
  · intro h
    rw [Misplaced, not_or, not_or, not_or, not_not] at h
    obtain ⟨hordered, ⟨hstart, hstop⟩, hboundaries⟩ := h
    obtain ⟨i, hi⟩ := Nat.exists_eq_add_of_le (Nat.le_of_not_lt hstart)
    obtain ⟨j, hj⟩ := Nat.exists_eq_add_of_le (show base ≤ e.stop by omega)
    rw [hi, hj, onBoundary_iff, onBoundary_iff] at hboundaries
    refine ⟨⟨i, j, e.inserted⟩, ?_, ?_, ?_, hboundaries.1, hboundaries.2⟩
    · rw [rebase, ← hi, ← hj]
    · show i ≤ j
      omega
    · show j ≤ text.byteLength
      omega
  · rintro ⟨f, rfl, hordered, hinside, hstart, hstop⟩ (h | h | h)
    · simp only [rebase] at h
      omega
    · simp only [rebase] at h
      omega
    · exact h ⟨onBoundary_iff.mpr hstart, onBoundary_iff.mpr hstop⟩

/-- A commit succeeds exactly if no edit is misplaced. -/
theorem exists_commit_iff :
    (∃ out, commit text base edits = .ok out) ↔ ∀ e ∈ edits, ¬ e.Misplaced text base := by
  constructor
  · rintro ⟨out, h⟩ e he
    obtain ⟨located, rfl, hfits, -⟩ := commit_eq_ok_iff.mp h
    obtain ⟨f, hf, rfl⟩ := List.mem_map.mp he
    exact not_misplaced_iff.mpr ⟨f, rfl, hfits f hf⟩
  · intro h
    obtain ⟨located, heq, hfits⟩ := exists_located fun e he => not_misplaced_iff.mp (h e he)
    exact ⟨_, commit_eq_ok_iff.mpr ⟨located, heq, hfits, rfl⟩⟩

/-! ## The order in which edits are looked at -/

/-- Of two edits, the one that starts later comes first. -/
def startsLater (a b : Edit) : Bool := b.start ≤ a.start

theorem startsLater_trans (a b c : Edit) (hab : startsLater a b = true)
    (hbc : startsLater b c = true) : startsLater a c = true := by
  simp only [startsLater, decide_eq_true_eq] at *
  omega

theorem startsLater_total (a b : Edit) : (startsLater a b || startsLater b a) = true := by
  simp only [startsLater, Bool.or_eq_true, decide_eq_true_eq]
  omega

/-- An edit goes behind those that start later, and before the first that does not. -/
theorem insertDescending_append {l₁ l₂ : List Edit} (h₁ : ∀ f ∈ l₁, e.start < f.start)
    (h₂ : ∀ f ∈ l₂, f.start ≤ e.start) :
    descending.insertDescending e (l₁ ++ l₂) = l₁ ++ e :: l₂ := by
  induction l₁ with
  | nil =>
    cases l₂ with
    | nil => rfl
    | cons f l₂ =>
      rw [List.nil_append, descending.insertDescending, if_pos (h₂ f List.mem_cons_self)]
      rfl
  | cons f l₁ ih =>
    obtain ⟨hf, hl₁⟩ := List.forall_mem_cons.mp h₁
    rw [List.cons_append, descending.insertDescending, if_neg (Nat.not_le_of_lt hf), ih hl₁]
    rfl

theorem descending_cons (e : Edit) (l : List Edit) :
    descending (e :: l) = descending.insertDescending e (descending l) := rfl

/-- Edits are looked at in the order of a stable sort. -/
theorem descending_eq_mergeSort (l : List Edit) : descending l = l.mergeSort startsLater := by
  induction l with
  | nil => simp [descending]
  | cons e l ih =>
    obtain ⟨l₁, l₂, hsort, hrest, hbefore⟩ :=
      List.mergeSort_cons startsLater_trans startsLater_total e l
    have hsorted := List.pairwise_mergeSort startsLater_trans startsLater_total (e :: l)
    rw [hsort, List.pairwise_append, List.pairwise_cons] at hsorted
    rw [descending_cons, ih, hrest, hsort]
    refine insertDescending_append ?_ ?_
    · intro f hf
      simpa [startsLater] using hbefore f hf
    · intro f hf
      simpa [startsLater] using hsorted.2.1.1 f hf

theorem descending_perm (l : List Edit) : (descending l).Perm l := by
  rw [descending_eq_mergeSort]
  exact List.mergeSort_perm l startsLater

theorem pairwise_descending (l : List Edit) :
    (descending l).Pairwise fun a b => b.start ≤ a.start := by
  rw [descending_eq_mergeSort]
  refine (List.pairwise_mergeSort startsLater_trans startsLater_total l).imp ?_
  intro a b h
  simpa [startsLater] using h

/-! ## The edits that are made -/

/-- Where the edits made so far begin, given from the first on. -/
def reach (limit : Nat) : List Edit → Nat
  | [] => limit
  | e :: _ => e.start

/-- Of edits that are looked at in this order, one is made if it ends at or before the start of the
one that was made last, and the first if it ends at or before `limit`. Those made are listed from
the beginning of the text on. -/
inductive Selects (limit : Nat) : List Edit → List Edit → Prop
  | nil : Selects limit [] []
  | keep {seen applied : List Edit} {e : Edit} : Selects limit seen applied →
      e.stop ≤ reach limit applied → Selects limit (seen ++ [e]) (e :: applied)
  | drop {seen applied : List Edit} {e : Edit} : Selects limit seen applied →
      reach limit applied < e.stop → Selects limit (seen ++ [e]) applied

theorem kept_concat (limit : Nat) (l : List Edit) (e : Edit) :
    kept limit (l ++ [e]) =
      if e.stop ≤ reach limit (kept limit l).reverse then kept limit l ++ [e]
      else kept limit l := by
  induction l generalizing limit with
  | nil => rfl
  | cons f l ih =>
    rw [List.cons_append, kept, kept]
    by_cases hf : f.stop ≤ limit
    · -- the start of `f` is the limit for what follows, also if nothing of it is kept
      have hreach : reach limit (f :: kept f.start l).reverse =
          reach f.start (kept f.start l).reverse := by
        rw [List.reverse_cons]
        cases (kept f.start l).reverse <;> rfl
      rw [if_pos hf, if_pos hf, ih, hreach]
      split <;> rfl
    · rw [if_neg hf, if_neg hf, ih]

/-- The edits that are kept are those that are selected. -/
theorem selects_iff {applied : List Edit} :
    Selects limit l applied ↔ applied = (kept limit l).reverse := by
  constructor
  · intro h
    induction h with
    | nil => rfl
    | keep _ hle ih =>
      rw [ih] at hle
      rw [kept_concat, if_pos hle, ih, List.reverse_append]
      rfl
    | drop _ hlt ih =>
      rw [ih] at hlt
      rw [kept_concat, if_neg (Nat.not_le_of_lt hlt), ih]
  · rintro rfl
    induction l using List.reverseRecOn with
    | nil => exact .nil
    | append_singleton l e ih =>
      rw [kept_concat]
      by_cases hle : e.stop ≤ reach limit (kept limit l).reverse
      · rw [if_pos hle, List.reverse_append]
        exact .keep ih hle
      · rw [if_neg hle]
        exact .drop ih (Nat.lt_of_not_le hle)

/-! ## Splicing -/

/-- The text from the offset `i` on, and how it reads with the edits made: from one edit to the next
the text is kept, and what the edit spans gives way to what it inserts. -/
inductive Splices : Nat → List Edit → Text → Text → Prop
  | rest (i : Nat) (t : Text) : Splices i [] t t
  | replace {i : Nat} {e : Edit} {l : List Edit} {gap old t out : Text} :
      i + gap.byteLength = e.start → e.start + old.byteLength = e.stop → Splices e.stop l t out →
      Splices i (e :: l) (gap ++ (old ++ t)) (gap ++ (e.inserted ++ out))

/-- The edits determine how the text reads. -/
theorem Splices.unique {i : Nat} {out out' : Text} (h : Splices i l text out)
    (h' : Splices i l text out') : out = out' := by
  induction h generalizing out' with
  | rest i t =>
    cases h'
    rfl
  | @replace i e l gap old t out hgap hold _ ih =>
    generalize htext : gap ++ (old ++ t) = text at h'
    cases h' with
    | @replace _ _ _ gap' old' t' out' hgap' hold' h' =>
      obtain ⟨rfl, hrest⟩ := Text.append_inj htext (Nat.add_left_cancel (hgap.trans hgap'.symm))
      obtain ⟨rfl, rfl⟩ := Text.append_inj hrest (Nat.add_left_cancel (hold.trans hold'.symm))
      rw [ih h']

/-- A further edit behind the others. -/
theorem Splices.concat {i : Nat} {front out old back : Text} (h : Splices i l front out)
    (hstart : i + front.byteLength = e.start) (hstop : e.start + old.byteLength = e.stop) :
    Splices i (l ++ [e]) (front ++ (old ++ back)) (out ++ (e.inserted ++ back)) := by
  induction h with
  | rest i t => exact .replace hstart hstop (.rest e.stop back)
  | @replace i f l gap old' t out hgap hold _ ih =>
    have hrest : f.stop + t.byteLength = e.start := by
      simp only [Text.byteLength_append] at hstart
      omega
    simpa only [List.append_assoc, List.cons_append] using .replace hgap hold (ih hrest)

/-- What is assembled from the end is the spliced text. -/
theorem splices_splice {front : Text} (base : Nat) (h : Applies text limit l)
    (hfront : text.takeBytes? limit = some front) :
    Splices base (l.map (rebase base)).reverse front (splice text limit l) := by
  induction l generalizing limit front with
  | nil =>
    rw [splice, hfront]
    exact .rest base front
  | cons e l ih =>
    obtain ⟨hfits, hlimit, hle, hrest⟩ := h
    obtain ⟨before, hbefore⟩ := takeBytes?_of_isBoundary hfits.start
    obtain ⟨old, hold⟩ := Text.exists_slice? hfits.start hfits.stop hfits.ordered
    obtain ⟨back, hback⟩ := Text.exists_slice? hfits.stop hlimit hle
    have hcut := takeBytes?_append_slice (takeBytes?_append_slice hbefore hold) hback
    obtain rfl : front = before ++ old ++ back := Option.some.inj (hfront.symm.trans hcut)
    obtain ⟨_, -, hstart⟩ := Text.eq_append_of_takeBytes? hbefore
    obtain ⟨_, _, -, hi, hj⟩ := Text.slice?_eq_some_iff.mp hold
    have hstop : e.start + old.byteLength = e.stop := by omega
    rw [splice, hback, Option.getD_some, List.append_assoc, List.append_assoc, List.map_cons,
      List.reverse_cons]
    refine (ih hrest hbefore).concat (e := e.rebase base) ?_ ?_
    · simp only [rebase]
      omega
    · simp only [rebase]
      omega

/-! ## What a commit returns -/

/-- A commit that succeeds returns the text with the selected edits spliced in. -/
theorem exists_splices_of_commit {out : Text} (h : commit text base edits = .ok out) :
    ∃ applied, Selects (base + text.byteLength) (edits.mergeSort startsLater) applied ∧
      Splices base applied text out := by
  obtain ⟨located, rfl, hfits, rfl⟩ := commit_eq_ok_iff.mp h
  have happlies := applies_kept (l := descending located)
    (fun e he => hfits e (mem_descending.mp he)) (isBoundary_byteLength text)
  have hall : text.takeBytes? text.byteLength = some text :=
    Text.takeBytes?_eq_some_iff.mpr ⟨[], by simp, rfl⟩
  refine ⟨_, selects_iff.mpr rfl, ?_⟩
  rw [← descending_eq_mergeSort, descending_map, kept_map]
  exact splices_splice base happlies hall

/-- A commit fails exactly if some edit is misplaced. Otherwise it returns the text with the
selected edits spliced in, all of them against the text as it was, and with nothing else changed. -/
theorem commit_splices_iff (text : Text) (base : Nat) (edits : List Edit) :
    ((∃ fault, commit text base edits = .error fault) ↔ ∃ e ∈ edits, e.Misplaced text base) ∧
    ∀ out, commit text base edits = .ok out ↔
      (∀ e ∈ edits, ¬ e.Misplaced text base) ∧
      ∃ applied, Selects (base + text.byteLength) (edits.mergeSort startsLater) applied ∧
        Splices base applied text out := by
  constructor
  · have hok := @exists_commit_iff text base edits
    constructor
    · rintro ⟨fault, hfault⟩
      by_contra hnone
      obtain ⟨out, hout⟩ := hok.mpr fun e he hmisplaced => hnone ⟨e, he, hmisplaced⟩
      cases hfault.symm.trans hout
    · rintro ⟨e, he, hmisplaced⟩
      cases hc : commit text base edits with
      | error fault => exact ⟨fault, rfl⟩
      | ok out => exact absurd hmisplaced (hok.mp ⟨out, hc⟩ e he)
  · intro out
    constructor
    · intro h
      exact ⟨exists_commit_iff.mp ⟨out, h⟩, exists_splices_of_commit h⟩
    · rintro ⟨hplaced, applied, hselects, hsplices⟩
      obtain ⟨out', hout'⟩ := exists_commit_iff.mpr hplaced
      obtain ⟨applied', hselects', hsplices'⟩ := exists_splices_of_commit hout'
      obtain rfl : applied = applied' :=
        (selects_iff.mp hselects).trans (selects_iff.mp hselects').symm
      rw [hout', hsplices.unique hsplices']

end Edit

end StructuralSearch
