import Mathlib.Data.List.Induction
import Mathlib.Data.List.TakeWhile
import Mathlib.Data.Nat.Digits.Defs
import StructuralSearch.Rule.Formula

/-!
# What formulas mean

A formula is a number, or a multiple of `n` to which a number may be added. Blanks and the case of
ASCII letters do not count, and every number has to fit a signed 64-bit word. A formula `An+B`
stands for the positions `A·n + B` for all `n` from zero on. Whether it selects a position is
computed from the distance of the position from `B`, which has to fit such a word, too; beyond that,
positions are missed.

* `Formula.Digits`, `Formula.Number`, `Formula.Coefficient`: how numbers are written, and the
  integers that they denote.
* `Formula.Written`: how formulas without blanks are written, and what they denote.
* `Formula.Denotes`: the formula that a position denotes.

Results:
1. `Formula.parse_formula_iff`: what is read are the texts that are written as formulas.
2. `Formula.selects_iff`: the positions that are selected.
3. `Formula.selects_iff_of_parse`: when these are all the positions that a formula stands for.
4. `Formula.far_position_is_missed`: a formula that stands for a position and does not select it.
-/

namespace StructuralSearch

namespace Formula

/-! ## How formulas are written -/

/-- The text without blanks, with its ASCII letters in lower case. -/
def compact (t : Text) : Text := (t.filter fun c => !Text.isBlank c).map Char.toLower

/-- The number that ASCII digits spell in base ten. -/
def decimal (digits : Text) : Nat :=
  Nat.ofDigits 10 (digits.reverse.map fun c => c.toNat - '0'.toNat)

/-- The text consists of ASCII digits, at least one, and spells the number. -/
structure Digits (t : Text) (n : Nat) : Prop where
  nonempty : t ≠ []
  digit : ∀ c ∈ t, c.isDigit = true
  value : n = decimal t

/-- A sign that may be left out. -/
inductive Sign : Text → Int → Prop
  | absent : Sign [] 1
  | plus : Sign ['+'] 1
  | minus : Sign ['-'] (-1)

/-- A sign, which may be left out unless it is required, and digits; the integer fits a word. -/
inductive Number (signRequired : Bool) : Text → Int → Prop
  | intro {sign digits : Text} {σ : Int} {n : Nat} :
      Sign sign σ → (signRequired = true → sign ≠ []) → Digits digits n → fits (σ * n) = true →
      Number signRequired (sign ++ digits) (σ * n)

/-- What stands before `n`: a number, or a sign alone, which stands for one. -/
inductive Coefficient : Text → Int → Prop
  | number {t : Text} {a : Int} : Number false t a → Coefficient t a
  | sign {t : Text} {σ : Int} : Sign t σ → Coefficient t σ

/-- How a formula without blanks in lower case is written. -/
inductive Written : Text → Formula → Prop
  | constant {t : Text} {b : Int} : Number false t b → Written t ⟨0, b⟩
  | multiple {t : Text} {a : Int} : Coefficient t a → Written (t ++ ['n']) ⟨a, 0⟩
  | shifted {t r : Text} {a b : Int} :
      Coefficient t a → Number true r b → Written (t ++ 'n' :: r) ⟨a, b⟩

/-- The formula that a position denotes; a plain number has no multiples. -/
inductive Denotes : PositionSpec → Formula → Prop
  | index {n : Nat} : fits n = true → Denotes (.index n) ⟨0, n⟩
  | formula {text : String} {f : Formula} :
      Written (compact text.toList) f → Denotes (.formula text) f

/-! ## Numbers -/

theorem toLower_of_isDigit {c : Char} (h : c.isDigit = true) : c.toLower = c := by
  have hdigit := h
  rw [Char.isDigit, Bool.and_eq_true, decide_eq_true_eq, decide_eq_true_eq] at hdigit
  have hletter : ¬ (c.val ≥ 'A'.val ∧ c.val ≤ 'Z'.val) := by
    rintro ⟨hge, -⟩
    exact absurd (UInt32.le_trans hge hdigit.2) (by decide)
  exact dif_neg hletter

theorem digit?_of_isDigit {c : Char} (h : c.isDigit = true) :
    Scalar.digit? 10 c = some (c.toNat - '0'.toNat) := by
  have hbound : c.toNat ≤ '9'.toNat := by
    rw [Char.isDigit, Bool.and_eq_true, decide_eq_true_eq, decide_eq_true_eq] at h
    exact UInt32.le_iff_toNat_le.mp h.2
  have hlt : c.toNat - '0'.toNat < 10 :=
    Nat.lt_of_le_of_lt (Nat.sub_le_sub_right hbound _) (by decide)
  simp only [Scalar.digit?, toLower_of_isDigit h, h, if_true]
  rw [if_pos hlt]

theorem decimal_append (t : Text) (c : Char) :
    decimal (t ++ [c]) = decimal t * 10 + (c.toNat - '0'.toNat) := by
  rw [decimal, List.reverse_append, List.reverse_singleton, List.singleton_append, List.map_cons,
    Nat.ofDigits_cons, Nat.add_comm, Nat.mul_comm]
  rfl

/-- Digits are read from the left, one after the other. -/
theorem foldlM_digit? {t : Text} (h : ∀ c ∈ t, c.isDigit = true) :
    t.foldlM (fun n c => (Scalar.digit? 10 c).map (n * 10 + ·)) 0 = some (decimal t) := by
  induction t using List.reverseRecOn with
  | nil => rfl
  | append_singleton t c ih =>
    obtain ⟨ht, hc⟩ := List.forall_mem_append.mp h
    rw [List.foldlM_append, ih ht, decimal_append]
    simp [digit?_of_isDigit (hc c (List.mem_singleton_self c))]

theorem natural?_of_digits {t : Text} {n : Nat} (h : Digits t n) :
    Scalar.natural? 10 t = some n := by
  have hclean : t.filter (· != '_') = t := by
    rw [List.filter_eq_self]
    rintro c hc
    have hne : c ≠ '_' := by
      rintro rfl
      exact absurd (h.digit '_' hc) (by decide)
    exact bne_iff_ne.mpr hne
  have hempty : t.isEmpty = false := by simpa using h.nonempty
  rw [Scalar.natural?, hclean, hempty, h.value]
  exact foldlM_digit? h.digit

/-- What is made of the number that a text of digits spells. -/
theorem bind_natural?_eq_some_iff {t : Text} {f : Nat → Option Int} {i : Int} :
    (if !t.isEmpty && t.all Char.isDigit then (Scalar.natural? 10 t).bind f else none) = some i ↔
      ∃ n, Digits t n ∧ f n = some i := by
  by_cases h : (!t.isEmpty && t.all Char.isDigit) = true
  · have hdigits : Digits t (decimal t) := by
      rw [Bool.and_eq_true, List.all_eq_true] at h
      exact ⟨by simpa using h.1, h.2, rfl⟩
    rw [if_pos h, natural?_of_digits hdigits, Option.bind_some]
    constructor
    · exact fun hf => ⟨_, hdigits, hf⟩
    · rintro ⟨n, hn, hf⟩
      rwa [← hn.value]
  · rw [if_neg h]
    constructor
    · exact fun hf => by cases hf
    · rintro ⟨n, hn, -⟩
      refine absurd ?_ h
      rw [Bool.and_eq_true, List.all_eq_true]
      exact ⟨by simpa using hn.nonempty, hn.digit⟩

/-! ## Reading numbers and formulas -/

/-- Digits do not begin with a sign. -/
theorem not_digits_of_sign {t : Text} {n : Nat} : ¬ Digits ('+' :: t) n ∧ ¬ Digits ('-' :: t) n :=
  ⟨fun h => absurd (h.digit _ List.mem_cons_self) (by decide),
    fun h => absurd (h.digit _ List.mem_cons_self) (by decide)⟩

/-- What is read as an integer are the numbers that fit a word. -/
theorem integer?_eq_some_iff {required : Bool} {t : Text} {i : Int} :
    integer? required t = some i ↔ Number required t i := by
  constructor
  · intro h
    unfold integer? at h
    split at h
    · next digits =>
      obtain ⟨n, hn, hi⟩ := bind_natural?_eq_some_iff.mp h
      obtain ⟨hfits, rfl⟩ : fits n = true ∧ (n : Int) = i := by simpa using hi
      have hnumber : Number required (['+'] ++ digits) (1 * n) :=
        .intro .plus (by simp) hn (by simpa)
      rwa [Int.one_mul] at hnumber
    · next digits =>
      obtain ⟨n, hn, hi⟩ := bind_natural?_eq_some_iff.mp h
      obtain ⟨hfits, rfl⟩ : fits (-n) = true ∧ -(n : Int) = i := by simpa using hi
      have hnumber : Number required (['-'] ++ digits) (-1 * n) :=
        .intro .minus (by simp) hn (by simpa)
      rwa [Int.neg_one_mul] at hnumber
    · next _ _ =>
      cases required with
      | true => cases h
      | false =>
        obtain ⟨n, hn, hi⟩ := bind_natural?_eq_some_iff.mp h
        obtain ⟨hfits, rfl⟩ : fits n = true ∧ (n : Int) = i := by simpa using hi
        have hnumber : Number false ([] ++ t) (1 * n) :=
          .intro .absent (by simp) hn (by simpa)
        rwa [Int.one_mul] at hnumber
  · rintro ⟨hsign, hrequired, hdigits, hfits⟩
    unfold integer?
    cases hsign with
    | absent =>
      rw [List.nil_append]
      split
      · exact absurd hdigits not_digits_of_sign.1
      · exact absurd hdigits not_digits_of_sign.2
      · cases required with
        | true => exact absurd rfl (hrequired rfl)
        | false => exact bind_natural?_eq_some_iff.mpr ⟨_, hdigits, by simpa using hfits⟩
    | plus => exact bind_natural?_eq_some_iff.mpr ⟨_, hdigits, by simpa using hfits⟩
    | minus => exact bind_natural?_eq_some_iff.mpr ⟨_, hdigits, by simpa using hfits⟩

theorem Number.exists_isDigit {required : Bool} {t : Text} {i : Int} (h : Number required t i) :
    ∃ c ∈ t, c.isDigit = true := by
  obtain ⟨-, -, hdigits, -⟩ := h
  obtain ⟨c, hc⟩ := List.exists_mem_of_ne_nil _ hdigits.nonempty
  exact ⟨c, List.mem_append_right _ hc, hdigits.digit c hc⟩

/-- A sign alone is not a number. -/
theorem Number.not_sign {required : Bool} {t : Text} {i σ : Int} (h : Number required t i)
    (hsign : Sign t σ) : False := by
  obtain ⟨c, hc, hdigit⟩ := h.exists_isDigit
  cases hsign with
  | absent => cases hc
  | plus =>
    obtain rfl := List.mem_singleton.mp hc
    cases hdigit
  | minus =>
    obtain rfl := List.mem_singleton.mp hc
    cases hdigit

theorem Sign.unique {t : Text} {σ τ : Int} (h : Sign t σ) (h' : Sign t τ) : σ = τ := by
  cases h <;> cases h' <;> rfl

theorem coefficient?_of_sign {t : Text} {σ : Int} (h : Sign t σ) : coefficient? t = some σ := by
  cases h <;> rfl

theorem coefficient?_of_not_sign {t : Text} (h : ∀ σ, ¬ Sign t σ) :
    coefficient? t = integer? false t := by
  unfold coefficient?
  split
  · exact absurd .absent (h 1)
  · exact absurd .plus (h 1)
  · exact absurd .minus (h (-1))
  · rfl

/-- What is read as a coefficient are numbers and signs alone. -/
theorem coefficient?_eq_some_iff {t : Text} {a : Int} :
    coefficient? t = some a ↔ Coefficient t a := by
  by_cases hsign : ∃ σ, Sign t σ
  · obtain ⟨σ, hσ⟩ := hsign
    rw [coefficient?_of_sign hσ]
    constructor
    · rintro ⟨⟩
      exact .sign hσ
    · rintro (h | h)
      · cases h.not_sign hσ
      · rw [hσ.unique h]
  · rw [coefficient?_of_not_sign (not_exists.mp hsign), integer?_eq_some_iff]
    constructor
    · exact fun h => .number h
    · rintro (h | h)
      · exact h
      · exact absurd ⟨a, h⟩ hsign

theorem ofCompact?_of_not_mem {t : Text} (h : 'n' ∉ t) :
    ofCompact? t = (integer? false t).map (⟨0, ·⟩) := by
  have hdrop : t.dropWhile (· != 'n') = [] := by
    rw [List.dropWhile_eq_nil_iff]
    exact fun c hc => bne_iff_ne.mpr fun heq => h (heq ▸ hc)
  rw [ofCompact?, hdrop]

theorem ofCompact?_append {t r : Text} (h : 'n' ∉ t) :
    ofCompact? (t ++ 'n' :: r) = (coefficient? t).bind fun a =>
      if r.isEmpty then some ⟨a, 0⟩ else (integer? true r).map (⟨a, ·⟩) := by
  have hfront : ∀ c ∈ t, (c != 'n') = true :=
    fun c hc => bne_iff_ne.mpr fun heq => h (heq ▸ hc)
  rw [ofCompact?, List.dropWhile_append_of_pos hfront, List.takeWhile_append_of_pos hfront]
  simp

theorem Number.not_mem {required : Bool} {t : Text} {i : Int} (h : Number required t i) :
    'n' ∉ t := by
  obtain ⟨hsign, -, hdigits, -⟩ := h
  rw [List.mem_append, not_or]
  refine ⟨?_, fun hmem => absurd (hdigits.digit _ hmem) (by decide)⟩
  cases hsign <;> decide

theorem Coefficient.not_mem {t : Text} {a : Int} (h : Coefficient t a) : 'n' ∉ t := by
  cases h with
  | number h => exact h.not_mem
  | sign h => cases h <;> decide

/-- What is read as a formula is what is written as one. -/
theorem ofCompact?_eq_some_iff {t : Text} {f : Formula} :
    ofCompact? t = some f ↔ Written t f := by
  constructor
  · intro h
    by_cases hn : 'n' ∈ t
    · obtain ⟨front, rest, rfl, hfront⟩ := List.eq_append_cons_of_mem hn
      rw [ofCompact?_append hfront, Option.bind_eq_some_iff] at h
      obtain ⟨a, ha, hrest⟩ := h
      have hcoefficient := coefficient?_eq_some_iff.mp ha
      split at hrest
      · next hempty =>
        obtain rfl := List.isEmpty_iff.mp hempty
        obtain rfl := Option.some.inj hrest
        exact .multiple hcoefficient
      · obtain ⟨b, hb, rfl⟩ := Option.map_eq_some_iff.mp hrest
        exact .shifted hcoefficient (integer?_eq_some_iff.mp hb)
    · rw [ofCompact?_of_not_mem hn, Option.map_eq_some_iff] at h
      obtain ⟨b, hb, rfl⟩ := h
      exact .constant (integer?_eq_some_iff.mp hb)
  · intro h
    cases h with
    | constant hb =>
      rw [ofCompact?_of_not_mem hb.not_mem, integer?_eq_some_iff.mpr hb]
      rfl
    | multiple ha =>
      rw [ofCompact?_append ha.not_mem, coefficient?_eq_some_iff.mpr ha]
      rfl
    | shifted ha hb =>
      have hnonempty := List.ne_nil_of_mem hb.exists_isDigit.choose_spec.1
      rw [ofCompact?_append ha.not_mem, coefficient?_eq_some_iff.mpr ha, Option.bind_some,
        if_neg (by simpa using hnonempty), integer?_eq_some_iff.mpr hb]
      rfl

/-- A text is read as a formula exactly if it is written as one, and then what is read is what is
written. Every other text is malformed. -/
theorem parse_formula_iff (text : String) :
    (∀ f, parse (.formula text) = .ok f ↔ Written (compact text.toList) f) ∧
    (parse (.formula text) = .error (.invalidNthChild s!"malformed position '{text}'") ↔
      ∀ f, ¬ Written (compact text.toList) f) := by
  have hread : ∀ f, ofText? text.toList = some f ↔ Written (compact text.toList) f :=
    fun f => ofCompact?_eq_some_iff
  simp only [← hread]
  rw [parse]
  cases ofText? text.toList with
  | none => simp
  | some f => simp

/-! ## Positions -/

theorem parse_eq_ok_iff {p : PositionSpec} {f : Formula} : parse p = .ok f ↔ Denotes p f := by
  cases p with
  | index n =>
    have hfits : fits n = true ↔ (n : Int) ≤ maxInteger := by
      have hmin : minInteger ≤ (n : Int) := Int.le_trans (by decide) (Int.natCast_nonneg n)
      simp [fits, hmin]
    constructor
    · intro h
      rw [parse] at h
      split at h
      · next hn =>
        cases h
        exact .index (hfits.mpr hn)
      · cases h
    · rintro ⟨hn⟩
      rw [parse, if_pos (hfits.mp hn)]
  | formula text =>
    rw [(parse_formula_iff text).1]
    constructor
    · exact .formula
    · rintro (_ | h)
      exact h

theorem le_maxInteger_of_fits {i : Int} (h : fits i = true) : i ≤ maxInteger := by
  rw [fits, Bool.and_eq_true, decide_eq_true_eq, decide_eq_true_eq] at h
  exact h.2

theorem Number.fits_eq {required : Bool} {t : Text} {i : Int} (h : Number required t i) :
    fits i = true := by
  obtain ⟨-, -, -, hfits⟩ := h
  exact hfits

theorem Written.offset_le {t : Text} {f : Formula} (h : Written t f) : f.offset ≤ maxInteger := by
  cases h with
  | constant hb => exact le_maxInteger_of_fits hb.fits_eq
  | multiple _ => exact (by decide : (0 : Int) ≤ maxInteger)
  | shifted _ hb => exact le_maxInteger_of_fits hb.fits_eq

theorem Denotes.offset_le {p : PositionSpec} {f : Formula} (h : Denotes p f) :
    f.offset ≤ maxInteger := by
  cases h with
  | index hn => exact le_maxInteger_of_fits hn
  | formula h => exact h.offset_le

/-- The multiples of a step from zero on are those that division leaves no remainder of and no
negative quotient. -/
theorem exists_mul_eq_iff {step distance : Int} (h : step ≠ 0) :
    (∃ n : Nat, step * n = distance) ↔
      Int.tmod distance step = 0 ∧ 0 ≤ Int.tdiv distance step := by
  constructor
  · rintro ⟨n, rfl⟩
    rw [Int.mul_tmod_right, Int.mul_tdiv_cancel_left _ h]
    exact ⟨rfl, Int.natCast_nonneg n⟩
  · rintro ⟨hmod, hdiv⟩
    refine ⟨(Int.tdiv distance step).toNat, ?_⟩
    rw [Int.toNat_of_nonneg hdiv, Int.mul_tdiv_cancel' (Int.dvd_of_tmod_eq_zero hmod)]

/-- The multiples of a step beyond zero are those of a positive step. -/
theorem exists_mul_eq_iff_of_pos {step distance : Int} (h : 0 < distance) :
    (∃ n : Nat, step * n = distance) ↔ 0 < step ∧ step ∣ distance := by
  constructor
  · rintro ⟨n, rfl⟩
    exact ⟨pos_of_mul_pos_left h (Int.natCast_nonneg n), Int.dvd_mul_right step n⟩
  · rintro ⟨hstep, k, rfl⟩
    have hk : 0 ≤ k := Int.le_of_lt (pos_of_mul_pos_right h (Int.le_of_lt hstep))
    exact ⟨k.toNat, by rw [Int.toNat_of_nonneg hk]⟩

theorem exists_mul_add_eq_iff {f : Formula} {i : Int} :
    (∃ n : Nat, f.step * n + f.offset = i) ↔ ∃ n : Nat, f.step * n = i - f.offset :=
  exists_congr fun _ => eq_sub_iff_add_eq.symm

/-- A position that lies behind the smallest one is selected if the formula stands for it and its
distance fits a word. -/
theorem selects_iff {f : Formula} {i : Int} (h : minInteger < i - f.offset) :
    f.selects i = true ↔
      i - f.offset ≤ maxInteger ∧ ∃ n : Nat, f.step * n + f.offset = i := by
  rw [exists_mul_add_eq_iff]
  unfold selects
  by_cases hmax : i - f.offset ≤ maxInteger
  · have hfits : fits (i - f.offset) = true := by
      simp [fits, Int.le_of_lt h, hmax]
    by_cases hstep : f.step = 0
    · simpa [hfits, hstep, hmax] using eq_comm
    · have hmin : (i - f.offset == minInteger) = false :=
        beq_eq_false_iff_ne.mpr (Int.ne_of_gt h)
      simp [hfits, hstep, hmin, hmax, exists_mul_eq_iff hstep]
  · have hfits : fits (i - f.offset) = false := by
      simp [fits, hmax]
    simp [hfits, hmax]

/-- A position that is read selects the indexes that its formula stands for, as far as their
distance fits a word. These are all of them, except where the distance is too large for a word and
a multiple of a positive step. -/
theorem selects_iff_of_parse {p : PositionSpec} {f : Formula} (h : parse p = .ok f) :
    Denotes p f ∧ ∀ i : Int, 1 ≤ i →
      (f.selects i = true ↔
        i - f.offset ≤ maxInteger ∧ ∃ n : Nat, f.step * n + f.offset = i) ∧
      ((f.selects i = true ↔ ∃ n : Nat, f.step * n + f.offset = i) ↔
        ¬ (maxInteger < i - f.offset ∧ 0 < f.step ∧ f.step ∣ i - f.offset)) := by
  have hdenotes := parse_eq_ok_iff.mp h
  refine ⟨hdenotes, fun i hi => ?_⟩
  have hoffset := hdenotes.offset_le
  have hmin : minInteger < i - f.offset := by
    unfold minInteger
    unfold maxInteger at hoffset
    omega
  have hselects := selects_iff hmin
  refine ⟨hselects, ?_⟩
  rw [hselects]
  by_cases hmax : i - f.offset ≤ maxInteger
  · simp [hmax]
  · have hfar := Int.not_le.mp hmax
    have hpos : 0 < i - f.offset := Int.lt_trans (by decide) hfar
    rw [exists_mul_add_eq_iff, exists_mul_eq_iff_of_pos hpos]
    simp [hmax, hfar]

/-- The first position is the last one that `-n+9223372036854775807` stands for. -/
theorem selects_largest_offset :
    parse (.formula "-N + 9223372036854775807") = .ok ⟨-1, maxInteger⟩ ∧
      (Formula.mk (-1) maxInteger).selects 1 = true := by
  have hparse : parse (.formula "-N + 9223372036854775807") = .ok ⟨-1, maxInteger⟩ := rfl
  obtain ⟨-, hselects⟩ := selects_iff_of_parse hparse
  exact ⟨hparse, (hselects 1 (by decide)).1.mpr ⟨by decide, 9223372036854775806, by decide⟩⟩

/-- The formula `n-9223372036854775808` stands for all positions, and misses the first. -/
theorem far_position_is_missed :
    ∃ f, parse (.formula "n-9223372036854775808") = .ok f ∧ f.selects 1 = false ∧
      ∃ n : Nat, f.step * n + f.offset = 1 :=
  ⟨⟨1, minInteger⟩, rfl, by decide, 9223372036854775809, by decide⟩

end Formula

end StructuralSearch
