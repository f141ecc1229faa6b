import Mathlib.Data.List.Forall2

/-!
# Computations that may fail

How a chain of steps ends in a value, and how it fails: with the failure of the first step that does.

Results:
1. `Except.bind_eq_ok_iff`, `Except.bind_eq_error_iff`, `Except.map_eq_ok_iff`: two steps.
2. `Except.mapError_eq_ok_iff`, `Except.mapError_eq_error_iff`: a failure in other words.
3. `List.mapM_eq_ok_iff`, `List.exists_mapM_of_forall`: one step for each entry of a list.
4. `List.filterMapM_eq_ok_iff`, `List.exists_filterMapM_of_forall`: the same where entries may be
   left out, and none is.
5. `List.exists_of_foldlM_eq_error`: steps that hand on a state.
-/

namespace Except

variable {ε ε' α β : Type} {x : Except ε α} {f : α → Except ε β} {e : ε}

theorem bind_eq_ok_iff {b : β} : x >>= f = .ok b ↔ ∃ a, x = .ok a ∧ f a = .ok b := by
  cases x with
  | error e => simp [bind, Except.bind]
  | ok a => simp [bind, Except.bind]

theorem bind_eq_error_iff :
    x >>= f = .error e ↔ x = .error e ∨ ∃ a, x = .ok a ∧ f a = .error e := by
  cases x with
  | error e' => simp [bind, Except.bind]
  | ok a => simp [bind, Except.bind]

theorem map_eq_ok_iff {g : α → β} {b : β} : g <$> x = .ok b ↔ ∃ a, x = .ok a ∧ g a = b := by
  cases x with
  | error e => simp [Functor.map, Except.map]
  | ok a => simp [Functor.map, Except.map]

theorem exists_of_any_toOption {check : α → Bool} (h : x.toOption.any check = true) :
    ∃ a, x = .ok a ∧ check a = true := by
  cases x with
  | error e => cases h
  | ok a => exact ⟨a, rfl, h⟩

theorem exists_of_isOk (h : x.isOk = true) : ∃ a, x = .ok a := by
  cases x with
  | error e => cases h
  | ok a => exact ⟨a, rfl⟩

theorem mapError_eq_ok_iff {h : ε → ε'} {a : α} : x.mapError h = .ok a ↔ x = .ok a := by
  cases x with
  | error e => simp [Except.mapError]
  | ok a => simp [Except.mapError]

theorem mapError_eq_error_iff {h : ε → ε'} {e' : ε'} :
    x.mapError h = .error e' ↔ ∃ e, x = .error e ∧ h e = e' := by
  cases x with
  | error e => simp [Except.mapError]
  | ok a => simp [Except.mapError]

end Except

namespace List

variable {ε α β : Type} {f : α → Except ε β} {l : List α}

theorem mapM_eq_ok_iff {l' : List β} :
    l.mapM f = .ok l' ↔ Forall₂ (fun a b => f a = .ok b) l l' := by
  induction l generalizing l' with
  | nil => simp [pure, Except.pure, eq_comm]
  | cons a l ih =>
    rw [mapM_cons, forall₂_cons_left_iff]
    simp only [Except.bind_eq_ok_iff, ih, pure, Except.pure, Except.ok.injEq]
    constructor
    · rintro ⟨b, hb, bs, hbs, rfl⟩
      exact ⟨b, bs, hb, hbs, rfl⟩
    · rintro ⟨b, bs, hb, hbs, rfl⟩
      exact ⟨b, hb, bs, hbs, rfl⟩

theorem exists_of_mem_forall₂ {R : α → β → Prop} {l' : List β} {a : α} (h : Forall₂ R l l')
    (ha : a ∈ l) : ∃ b ∈ l', R a b := by
  induction h with
  | nil => exact absurd ha not_mem_nil
  | cons hab _ ih =>
    rcases mem_cons.mp ha with rfl | ha
    · exact ⟨_, mem_cons_self, hab⟩
    · obtain ⟨b, hmem, hb⟩ := ih ha
      exact ⟨b, mem_cons_of_mem _ hmem, hb⟩

theorem exists_of_mem_mapM {l' : List β} {b : β} (h : l.mapM f = .ok l') (hb : b ∈ l') :
    ∃ a ∈ l, f a = .ok b := exists_of_mem_forall₂ (mapM_eq_ok_iff.mp h).flip hb

theorem exists_of_mapM_of_mem {l' : List β} {a : α} (h : l.mapM f = .ok l') (ha : a ∈ l) :
    ∃ b ∈ l', f a = .ok b := exists_of_mem_forall₂ (mapM_eq_ok_iff.mp h) ha

theorem exists_forall₂_of_forall {R : α → β → Prop} (h : ∀ a ∈ l, ∃ b, R a b) :
    ∃ l', Forall₂ R l l' := by
  induction l with
  | nil => exact ⟨[], .nil⟩
  | cons a l ih =>
    obtain ⟨⟨b, hb⟩, hl⟩ := forall_mem_cons.mp h
    obtain ⟨l', hl'⟩ := ih hl
    exact ⟨b :: l', .cons hb hl'⟩

theorem exists_mapM_of_forall (h : ∀ a ∈ l, ∃ b, f a = .ok b) : ∃ l', l.mapM f = .ok l' := by
  obtain ⟨l', hl'⟩ := exists_forall₂_of_forall h
  exact ⟨l', mapM_eq_ok_iff.mpr hl'⟩

theorem filterMapM_eq_ok_iff {g : α → Except ε (Option β)} {l' : List β}
    (h : ∀ a ∈ l, g a ≠ .ok none) :
    l.filterMapM g = .ok l' ↔ Forall₂ (fun a b => g a = .ok (some b)) l l' := by
  induction l generalizing l' with
  | nil => simp [pure, Except.pure, eq_comm]
  | cons a l ih =>
    obtain ⟨ha, hl⟩ := forall_mem_cons.mp h
    rw [filterMapM_cons, forall₂_cons_left_iff, Except.bind_eq_ok_iff]
    constructor
    · rintro ⟨_ | b, hb, hbs⟩
      · exact absurd hb ha
      · obtain ⟨bs, hbs, hl'⟩ := Except.bind_eq_ok_iff.mp hbs
        exact ⟨b, bs, hb, (ih hl).mp hbs, (Except.ok.inj hl').symm⟩
    · rintro ⟨b, bs, hb, hbs, rfl⟩
      exact ⟨some b, hb, Except.bind_eq_ok_iff.mpr ⟨bs, (ih hl).mpr hbs, rfl⟩⟩

theorem exists_filterMapM_of_forall {g : α → Except ε (Option β)}
    (h : ∀ a ∈ l, ∃ b, g a = .ok (some b)) : ∃ l', l.filterMapM g = .ok l' := by
  obtain ⟨l', hl'⟩ := exists_forall₂_of_forall h
  refine ⟨l', (filterMapM_eq_ok_iff fun a ha hnone => ?_).mpr hl'⟩
  obtain ⟨b, hb⟩ := h a ha
  cases hb.symm.trans hnone

theorem exists_of_foldlM_eq_error {σ : Type} {g : σ → α → Except ε σ} {s : σ} {e : ε}
    (h : l.foldlM g s = .error e) : ∃ a ∈ l, ∃ t, g t a = .error e := by
  induction l generalizing s with
  | nil => cases h
  | cons a l ih =>
    rw [foldlM_cons] at h
    rcases Except.bind_eq_error_iff.mp h with h | ⟨t, -, h⟩
    · exact ⟨a, mem_cons_self, s, h⟩
    · obtain ⟨a', hmem, hfault⟩ := ih h
      exact ⟨a', mem_cons_of_mem a hmem, hfault⟩

end List
