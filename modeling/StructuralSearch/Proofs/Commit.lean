import StructuralSearch.Edit
import StructuralSearch.Proofs.Except
import StructuralSearch.Proofs.Text

/-!
# What committing edits does

Results:
1. `Edit.commit_eq_ok_iff`: edits are committed exactly if each of them lies in the text and on
   character boundaries.
2. `Edit.differsWithin_of_commit`: the result differs from the text within the spans of the edits
   only.
3. `Edit.commit_within`: the same edits can be committed to a text around it, and what lies around
   is kept.
-/

namespace StructuralSearch

namespace Edit

open Text (DiffersWithin)

/-! ## The checks -/

/-- The edit with its offsets counted from `base` bytes earlier. -/
def rebase (base : Nat) (e : Edit) : Edit := ⟨base + e.start, base + e.stop, e.inserted⟩

/-- The edit replaces a slice of the text. -/
structure FitsIn (text : Text) (e : Edit) : Prop where
  ordered : e.start ≤ e.stop
  inside : e.stop ≤ text.byteLength
  start : text.isBoundary e.start = true
  stop : text.isBoundary e.stop = true

theorem locate_eq_ok_iff {text : Text} {base : Nat} {e f : Edit} :
    locate text base e = .ok f ↔ e = f.rebase base ∧ f.FitsIn text := by
  obtain ⟨start, stop, inserted⟩ := e
  constructor
  · intro h
    rw [locate] at h
    split at h
    · simp at h
    · next hordered =>
      split at h
      · simp at h
      · next hinside =>
        split at h
        · next hboundary =>
          obtain ⟨hstart, hstop⟩ := Bool.and_eq_true_iff.mp hboundary
          simp only at hordered hinside
          cases h
          refine ⟨?_, ?_, ?_, hstart, hstop⟩
          · simp only [rebase, mk.injEq, and_true]
            omega
          · simp only
            omega
          · simp only
            omega
        · simp at h
  · rintro ⟨heq, hordered, hinside, hstart, hstop⟩
    cases heq
    have hordered' : ¬ base + f.stop < base + f.start := by omega
    simp [locate, hordered', hinside, hstart, hstop]

theorem mapM_locate_eq_ok_iff {text : Text} {base : Nat} {edits located : List Edit} :
    edits.mapM (locate text base) = .ok located ↔
      edits = located.map (rebase base) ∧ ∀ f ∈ located, f.FitsIn text := by
  rw [List.mapM_eq_ok_iff]
  constructor
  · intro h
    induction h with
    | nil => exact ⟨rfl, by simp⟩
    | cons he _ ih =>
      obtain ⟨rfl, hf⟩ := locate_eq_ok_iff.mp he
      obtain ⟨rfl, hfs⟩ := ih
      exact ⟨rfl, List.forall_mem_cons.mpr ⟨hf, hfs⟩⟩
  · rintro ⟨rfl, hall⟩
    rw [List.forall₂_map_left_iff, List.forall₂_same]
    exact fun f hf => locate_eq_ok_iff.mpr ⟨rfl, hall f hf⟩

/-- Edits that replace slices of the text can be located one by one. -/
theorem exists_located {text : Text} {base : Nat} {edits : List Edit}
    (h : ∀ e ∈ edits, ∃ f : Edit, e = f.rebase base ∧ f.FitsIn text) :
    ∃ located : List Edit, edits = located.map (rebase base) ∧ ∀ f ∈ located, f.FitsIn text := by
  induction edits with
  | nil => exact ⟨[], rfl, by simp⟩
  | cons e edits ih =>
    obtain ⟨he, hes⟩ := List.forall_mem_cons.mp h
    obtain ⟨f, rfl, hf⟩ := he
    obtain ⟨fs, rfl, hfs⟩ := ih hes
    exact ⟨f :: fs, rfl, List.forall_mem_cons.mpr ⟨hf, hfs⟩⟩

/-- Edits are committed exactly if each of them replaces a slice of the text. -/
theorem commit_eq_ok_iff {text : Text} {base : Nat} {edits : List Edit} {out : Text} :
    commit text base edits = .ok out ↔
      ∃ located, edits = located.map (rebase base) ∧ (∀ f ∈ located, f.FitsIn text) ∧
        out = splice text text.byteLength (kept text.byteLength (descending located)) := by
  rw [commit, Except.bind_eq_ok_iff]
  constructor
  · rintro ⟨located, hl, hout⟩
    obtain ⟨heq, hall⟩ := mapM_locate_eq_ok_iff.mp hl
    exact ⟨located, heq, hall, (Except.ok.inj hout).symm⟩
  · rintro ⟨located, heq, hall, rfl⟩
    exact ⟨located, mapM_locate_eq_ok_iff.mpr ⟨heq, hall⟩, rfl⟩

/-! ## The edits that are kept -/

theorem mem_insertDescending {e f : Edit} {l : List Edit} :
    f ∈ descending.insertDescending e l ↔ f = e ∨ f ∈ l := by
  induction l with
  | nil => simp [descending.insertDescending]
  | cons g l ih =>
    rw [descending.insertDescending]
    split
    · simp
    · simp only [List.mem_cons, ih]
      tauto

theorem mem_descending {f : Edit} {l : List Edit} : f ∈ descending l ↔ f ∈ l := by
  induction l with
  | nil => simp [descending]
  | cons e l ih =>
    show f ∈ descending.insertDescending e (descending l) ↔ f ∈ e :: l
    rw [mem_insertDescending, ih, List.mem_cons]

theorem mem_of_mem_kept {f : Edit} {l : List Edit} {limit : Nat} (h : f ∈ kept limit l) :
    f ∈ l := by
  induction l generalizing limit with
  | nil => exact h
  | cons e l ih =>
    rw [kept] at h
    split at h
    · rcases List.mem_cons.mp h with rfl | h
      · exact List.mem_cons_self
      · exact List.mem_cons_of_mem _ (ih h)
    · exact List.mem_cons_of_mem _ (ih h)

/-- The edits replace slices of the first `limit` bytes of a text, each before those applied
already. -/
def Applies (text : Text) : Nat → List Edit → Prop
  | limit, [] => text.isBoundary limit = true
  | limit, e :: rest =>
    e.FitsIn text ∧ text.isBoundary limit = true ∧ e.stop ≤ limit ∧ Applies text e.start rest

theorem applies_kept {text : Text} {l : List Edit} {limit : Nat} (h : ∀ e ∈ l, e.FitsIn text)
    (hlimit : text.isBoundary limit = true) : Applies text limit (kept limit l) := by
  induction l generalizing limit with
  | nil => exact hlimit
  | cons e l ih =>
    obtain ⟨he, hl⟩ := List.forall_mem_cons.mp h
    rw [kept]
    split
    · next hle => exact ⟨he, hlimit, hle, ih hl he.start⟩
    · exact ih hl hlimit

theorem isBoundary_byteLength (text : Text) : text.isBoundary text.byteLength = true :=
  Text.isBoundary_iff.mpr ⟨text, [], by simp, rfl⟩

/-! ## What is rewritten -/

/-- A slice cut off behind a beginning extends it. -/
theorem takeBytes?_append_slice {text a m : Text} {i j : Nat} (ha : text.takeBytes? i = some a)
    (hm : text.slice? i j = some m) : text.takeBytes? j = some (a ++ m) := by
  obtain ⟨b, rfl, hi⟩ := Text.takeBytes?_eq_some_iff.mp ha
  obtain ⟨a', b', hcut, ha', hj⟩ := Text.slice?_eq_some_iff.mp hm
  obtain ⟨rfl, rfl⟩ := Text.append_inj hcut (hi.trans ha'.symm)
  exact Text.takeBytes?_eq_some_iff.mpr ⟨b', by simp, by simpa using hj⟩

theorem takeBytes?_of_isBoundary {text : Text} {n : Nat} (h : text.isBoundary n = true) :
    ∃ a, text.takeBytes? n = some a := by
  obtain ⟨a, b, rfl, rfl⟩ := Text.isBoundary_iff.mp h
  exact ⟨a, Text.takeBytes?_append a b⟩

theorem differsWithin_splice {spans : Nat → Nat → Prop} {text : Text} {l : List Edit} {limit : Nat}
    {a : Text} (h : Applies text limit l) (hspans : ∀ e ∈ l, spans e.start e.stop)
    (ha : text.takeBytes? limit = some a) : DiffersWithin spans 0 a (splice text limit l) := by
  induction l generalizing limit a with
  | nil =>
    rw [splice, ha]
    exact .refl 0 a
  | cons e l ih =>
    obtain ⟨hfits, hlimit, hle, hrest⟩ := h
    obtain ⟨hspan, hspans⟩ := List.forall_mem_cons.mp hspans
    -- what lies before the edit, what it replaces, and what follows up to the limit
    obtain ⟨front, hfront⟩ := takeBytes?_of_isBoundary hfits.start
    obtain ⟨old, hold⟩ := Text.exists_slice? hfits.start hfits.stop hfits.ordered
    obtain ⟨back, hback⟩ := Text.exists_slice? hfits.stop hlimit hle
    have hall := takeBytes?_append_slice (takeBytes?_append_slice hfront hold) hback
    obtain rfl : a = front ++ old ++ back := Option.some.inj (ha.symm.trans hall)
    have hstart := (Text.eq_append_of_takeBytes? hfront).choose_spec.2
    have hstop : e.start + old.byteLength = e.stop := by
      obtain ⟨_, _, -, hi, hj⟩ := Text.slice?_eq_some_iff.mp hold
      rw [← hi, hj]
    rw [splice, hback, Option.getD_some, List.append_assoc, List.append_assoc]
    refine (ih hrest hspans hfront).append (.change ?_ (.refl _ back))
    rwa [Nat.zero_add, hstart, hstop]

/-- The result differs from the text within the spans of the edits only. -/
theorem differsWithin_of_commit {text : Text} {base : Nat} {edits : List Edit} {out : Text}
    (h : commit text base edits = .ok out) :
    DiffersWithin (fun i j => ∃ e ∈ edits, e.start = base + i ∧ e.stop = base + j) 0 text out := by
  obtain ⟨located, rfl, hfits, rfl⟩ := commit_eq_ok_iff.mp h
  have happlies := applies_kept (l := descending located)
    (fun e he => hfits e (mem_descending.mp he)) (isBoundary_byteLength text)
  refine differsWithin_splice happlies (fun e he => ?_)
    (Text.takeBytes?_eq_some_iff.mpr ⟨[], by simp, rfl⟩)
  have hmem : e ∈ located := mem_descending.mp (mem_of_mem_kept he)
  exact ⟨e.rebase base, List.mem_map.mpr ⟨e, hmem, rfl⟩, rfl, rfl⟩

/-! ## Edits of a part -/

variable {base : Nat} {before text after : Text}

theorem insertDescending_map (e : Edit) (l : List Edit) :
    descending.insertDescending (e.rebase base) (l.map (rebase base)) =
      (descending.insertDescending e l).map (rebase base) := by
  induction l with
  | nil => rfl
  | cons f l ih =>
    have hle : (f.rebase base).start ≤ (e.rebase base).start ↔ f.start ≤ e.start := by
      simp only [rebase]
      omega
    rw [List.map_cons, descending.insertDescending, descending.insertDescending]
    by_cases h : f.start ≤ e.start
    · rw [if_pos (hle.mpr h), if_pos h]
      rfl
    · rw [if_neg (mt hle.mp h), if_neg h, ih]
      rfl

theorem descending_map (l : List Edit) :
    descending (l.map (rebase base)) = (descending l).map (rebase base) := by
  induction l with
  | nil => rfl
  | cons e l ih =>
    show descending.insertDescending (e.rebase base) (descending (l.map (rebase base))) =
      (descending.insertDescending e (descending l)).map (rebase base)
    rw [ih, insertDescending_map]

theorem kept_map (limit : Nat) (l : List Edit) :
    kept (base + limit) (l.map (rebase base)) = (kept limit l).map (rebase base) := by
  induction l generalizing limit with
  | nil => rfl
  | cons e l ih =>
    have hle : (e.rebase base).stop ≤ base + limit ↔ e.stop ≤ limit := by
      simp only [rebase]
      omega
    rw [List.map_cons, kept, kept]
    by_cases h : e.stop ≤ limit
    · rw [if_pos (hle.mpr h), if_pos h, List.map_cons]
      exact congrArg _ (ih e.start)
    · rw [if_neg (mt hle.mp h), if_neg h, ih]

/-- A limit beyond all edits keeps the same of them. -/
theorem kept_of_le {l : List Edit} {limit limit' : Nat} (h : ∀ e ∈ l, e.stop ≤ limit)
    (hle : limit ≤ limit') : kept limit' l = kept limit l := by
  cases l with
  | nil => rfl
  | cons e l =>
    have he := h e List.mem_cons_self
    rw [kept, kept, if_pos he, if_pos (Nat.le_trans he hle)]

theorem FitsIn.rebase {f : Edit} (h : f.FitsIn text) :
    (f.rebase before.byteLength).FitsIn (before ++ (text ++ after)) := by
  have hordered := h.ordered
  have hinside := h.inside
  refine ⟨?_, ?_, ?_, ?_⟩
  · simp only [Edit.rebase]
    omega
  · simp only [Edit.rebase, Text.byteLength_append]
    omega
  · exact (Text.isBoundary_append (by omega)).trans h.start
  · exact (Text.isBoundary_append hinside).trans h.stop

theorem slice?_rebase {i j : Nat} {m : Text} (h : text.slice? i j = some m) :
    (before ++ (text ++ after)).slice? (before.byteLength + i) (before.byteLength + j) =
      some m := by
  obtain ⟨a, b, rfl, rfl, rfl⟩ := Text.slice?_eq_some_iff.mp h
  exact Text.slice?_eq_some_iff.mpr ⟨before ++ a, b ++ after, by simp, by simp, by simp; omega⟩

theorem splice_map {l : List Edit} {limit : Nat} (h : Applies text limit l) :
    splice (before ++ (text ++ after)) (before.byteLength + limit)
      (l.map (rebase before.byteLength)) = before ++ splice text limit l := by
  induction l generalizing limit with
  | nil =>
    obtain ⟨a, b, rfl, rfl⟩ := Text.isBoundary_iff.mp h
    have hlong : (before ++ (a ++ b ++ after)).takeBytes? (before.byteLength + a.byteLength) =
        some (before ++ a) :=
      Text.takeBytes?_eq_some_iff.mpr ⟨b ++ after, by simp, by simp⟩
    rw [List.map_nil, splice, splice, hlong, Text.takeBytes?_append]
    rfl
  | cons e l ih =>
    obtain ⟨hfits, hlimit, hle, hrest⟩ := h
    obtain ⟨back, hback⟩ := Text.exists_slice? hfits.stop hlimit hle
    rw [List.map_cons, splice, splice, hback]
    simp only [rebase]
    rw [ih hrest, slice?_rebase hback]
    simp

/-- What follows the edits is kept. -/
theorem splice_append {limit : Nat} {l : List Edit} (h : Applies (text ++ after) limit l)
    (hlimit : limit = text.byteLength) :
    splice (text ++ after) (text ++ after).byteLength l =
      splice (text ++ after) limit l ++ after := by
  subst hlimit
  cases l with
  | nil =>
    have hall : (text ++ after).takeBytes? (text ++ after).byteLength = some (text ++ after) :=
      Text.takeBytes?_eq_some_iff.mpr ⟨[], by simp, rfl⟩
    rw [splice, splice, hall, Text.takeBytes?_append]
    rfl
  | cons e l =>
    obtain ⟨hfits, hlimit, hle, -⟩ := h
    obtain ⟨back, hback⟩ := Text.exists_slice? hfits.stop hlimit hle
    obtain ⟨a, b, hcut, ha, hb⟩ := Text.slice?_eq_some_iff.mp hback
    rw [← List.append_assoc] at hcut
    obtain ⟨rfl, rfl⟩ := Text.append_inj hcut (by simp only [Text.byteLength_append]; omega)
    have hlong : (a ++ back ++ after).slice? e.stop (a ++ back ++ after).byteLength =
        some (back ++ after) :=
      Text.slice?_eq_some_iff.mpr ⟨a, [], by simp, ha, by
        simp only [Text.byteLength_append] at hb ⊢
        omega⟩
    rw [splice, splice, hback, hlong]
    simp

theorem applies_map {l : List Edit} {limit : Nat} (h : Applies text limit l)
    (hlimit : limit ≤ text.byteLength) :
    Applies (before ++ (text ++ after)) (before.byteLength + limit)
      (l.map (rebase before.byteLength)) := by
  induction l generalizing limit with
  | nil => exact (Text.isBoundary_append hlimit).trans h
  | cons e l ih =>
    obtain ⟨hfits, hboundary, hle, hrest⟩ := h
    have hordered := hfits.ordered
    refine ⟨hfits.rebase, (Text.isBoundary_append hlimit).trans hboundary, ?_, ih hrest (by omega)⟩
    simp only [rebase]
    omega

/-- Edits of a part of a text can be committed to the text, and what lies around it is kept. -/
theorem commit_within {edits : List Edit} {out : Text}
    (h : commit text before.byteLength edits = .ok out) :
    commit (before ++ (text ++ after)) 0 edits = .ok (before ++ (out ++ after)) := by
  obtain ⟨located, rfl, hfits, rfl⟩ := commit_eq_ok_iff.mp h
  have hrebase : ∀ e : Edit, e.rebase 0 = e := fun e => by simp [rebase]
  refine commit_eq_ok_iff.mpr
    ⟨located.map (rebase before.byteLength), by simp [hrebase], fun f hf => ?_, ?_⟩
  · obtain ⟨e, he, rfl⟩ := List.mem_map.mp hf
    exact (hfits e he).rebase
  have happlies := applies_kept (l := descending located)
    (fun e he => hfits e (mem_descending.mp he)) (isBoundary_byteLength text)
  -- the edits kept are the same, since all of them end within the part
  have hkept : kept (before ++ (text ++ after)).byteLength
        (descending (located.map (rebase before.byteLength))) =
      (kept text.byteLength (descending located)).map (rebase before.byteLength) := by
    rw [descending_map, ← kept_map]
    refine kept_of_le (fun e he => ?_) ?_
    · obtain ⟨f, hf, rfl⟩ := List.mem_map.mp he
      have := (hfits f (mem_descending.mp hf)).inside
      simp only [rebase]
      omega
    · simp only [Text.byteLength_append]
      omega
  have hmapped := @applies_map before text after _ _ happlies (Nat.le_refl _)
  have hsplice := @splice_map before text after _ _ happlies
  have hcut : before ++ (text ++ after) = before ++ text ++ after := by simp
  rw [hcut] at hmapped hsplice hkept ⊢
  rw [hkept, splice_append hmapped (by simp), hsplice, List.append_assoc]

end Edit

end StructuralSearch
