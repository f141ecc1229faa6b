import Mathlib.Data.List.Basic
import StructuralSearch.Proofs.Ascii
import StructuralSearch.Transform.Words

/-!
# Words of ASCII texts

The words of an ASCII text are the text without its delimiters. In a text without capitals words end
at delimiters only, so that they are got back from a text of words that a delimiter joins.

Results:
1. `Text.filter_intercalate`, `Text.splitOnP_intercalate`: words with joiners between them.
2. `Boundaries.flatten_words`: the words of a text together.
3. `Boundaries.words_eq_splitOnP`: the words of a text without capitals.
4. `Boundaries.words_intercalate`: the words of a text of joined words.
-/

namespace StructuralSearch

open Text

/-! ## Joined words -/

namespace Text

variable {p : Char → Bool} {c d : Char} {s : Text} {ws : List Text}

theorem map_intercalate (f : Char → Char) :
    (List.intercalate s ws).map f = List.intercalate (s.map f) (ws.map (List.map f)) := by
  induction ws with
  | nil => rfl
  | cons w ws ih =>
    cases ws with
    | nil => simp
    | cons w' ws =>
      rw [List.intercalate_cons_cons, List.map_append, List.map_append, ih, List.map_cons,
        List.map_cons, List.map_cons, List.intercalate_cons_cons]

/-- Without the joiners, the words are left. -/
theorem filter_intercalate (hs : ∀ c ∈ s, p c = false) :
    (List.intercalate s ws).filter p = ws.flatten.filter p := by
  induction ws with
  | nil => rfl
  | cons w ws ih =>
    cases ws with
    | nil => simp
    | cons w' ws =>
      have hjoiner : s.filter p = [] := List.filter_eq_nil_iff.mpr fun c hc => by simp [hs c hc]
      rw [List.intercalate_cons_cons, List.filter_append, List.filter_append, ih, hjoiner,
        List.append_nil, List.flatten_cons (L := w' :: ws), List.filter_append]

theorem mem_intercalate_iff (hc : c ∉ s) : c ∈ List.intercalate s ws ↔ c ∈ ws.flatten := by
  have hfilter : (List.intercalate s ws).filter (· == c) = ws.flatten.filter (· == c) :=
    filter_intercalate fun d hd => beq_eq_false_iff_ne.mpr fun heq => hc (heq ▸ hd)
  have hmem : ∀ t : Text, c ∈ t ↔ c ∈ t.filter (· == c) := fun t => by simp
  rw [hmem, hfilter, ← hmem]

/-- What holds of the joiner and of all words holds of the whole text. -/
theorem forall_mem_intercalate {P : Char → Prop} (hs : ∀ c ∈ s, P c)
    (hws : ∀ w ∈ ws, ∀ c ∈ w, P c) : ∀ c ∈ List.intercalate s ws, P c := by
  intro c hc
  by_cases hmem : c ∈ s
  · exact hs c hmem
  · obtain ⟨w, hw, hcw⟩ := List.mem_flatten.mp ((mem_intercalate_iff hmem).mp hc)
    exact hws w hw c hcw

theorem intercalate_nil_left : List.intercalate [] ws = ws.flatten := by
  have hall : (List.intercalate [] ws).filter (fun _ => true) = ws.flatten.filter fun _ => true :=
    filter_intercalate fun c hc => absurd hc List.not_mem_nil
  rwa [List.filter_true, List.filter_true] at hall

/-- Splitting gets joined words back. -/
theorem splitOnP_intercalate (hd : p d = true) (hws : ∀ w ∈ ws, ∀ c ∈ w, p c = false)
    (hne : ws ≠ []) : (List.intercalate [d] ws).splitOnP p = ws := by
  induction ws with
  | nil => exact absurd rfl hne
  | cons w ws ih =>
    obtain ⟨hw, hws⟩ := List.forall_mem_cons.mp hws
    cases ws with
    | nil => rw [List.intercalate_singleton, List.splitOnP_eq_singleton hw]
    | cons w' ws =>
      rw [List.intercalate_cons_cons, List.append_assoc, List.singleton_append,
        List.splitOnP_append_cons_of_forall_mem hw d hd, ih hws (List.cons_ne_nil w' ws)]

end Text

/-! ## Splitting -/

namespace Boundaries

variable {b : Boundaries} {c d : Char} {k t w : Text} {ks ws : List Text}

theorem isDelimiter_lineBreak : b.isDelimiter ['\r', '\n'] = false := by simp [isDelimiter]

theorem isDelimiter_singleton :
    b.isDelimiter [c] =
      ((c == '-' && b.hyphen) || (c == '_' && b.underscore) || (c == ' ' && b.space)) := by
  simp [isDelimiter, Bool.and_comm]

/-- A cluster that is a delimiter is one character, and the others consist of characters that are
none. -/
theorem isDelimiter_cases (hk : IsUnit k) :
    (∃ c, k = [c] ∧ b.isDelimiter [c] = true) ∨
      (b.isDelimiter k = false ∧ ∀ c ∈ k, b.isDelimiter [c] = false) := by
  rcases hk with ⟨c, rfl⟩ | rfl
  · cases hdelimiter : b.isDelimiter [c]
    · exact Or.inr ⟨rfl, List.forall_mem_singleton.mpr hdelimiter⟩
    · exact Or.inl ⟨c, rfl, hdelimiter⟩
  · exact Or.inr ⟨isDelimiter_lineBreak, by simp [isDelimiter_singleton]⟩

/-- The words in what is left of a text, together with the word in progress. -/
theorem flatten_wordsFrom (hks : ∀ k ∈ ks, IsUnit k) :
    (b.wordsFrom w ks).flatten = w ++ ks.flatten.filter fun c => !b.isDelimiter [c] := by
  induction ks generalizing w with
  | nil => simp [wordsFrom]
  | cons k ks ih =>
    obtain ⟨hk, hrest⟩ := List.forall_mem_cons.mp hks
    rw [wordsFrom, List.flatten_cons, List.filter_append]
    rcases isDelimiter_cases hk with ⟨c, rfl, hdelimiter⟩ | ⟨hdelimiter, hkept⟩
    · rw [if_pos hdelimiter, List.flatten_cons, ih hrest]
      simp [hdelimiter]
    · have hfilter : (k.filter fun c => !b.isDelimiter [c]) = k :=
        List.filter_eq_self.mpr fun c hc => by simp [hkept c hc]
      rw [hdelimiter, if_neg Bool.false_ne_true, hfilter]
      split
      · rw [List.flatten_cons, ih hrest, List.nil_append, List.append_assoc]
      · rw [ih hrest, List.append_assoc]

/-- The words of a text together are the text without the delimiters. -/
theorem flatten_words (ht : IsAscii t) :
    (b.words t).flatten = t.filter fun c => !b.isDelimiter [c] := by
  rw [words, List.flatten_filter_not_isEmpty, flatten_wordsFrom (isUnit_of_mem_clusters ht),
    flatten_clusters, List.nil_append]

theorem nil_not_mem_words : [] ∉ b.words t := by
  simp [words]

/-! ## Texts without capitals -/

/-- No word ends between two clusters when none of them is in upper case. -/
theorem cutsBetween_eq_false (hks : ∀ k ∈ ks, isUpper k = false) : b.cutsBetween k ks = false := by
  cases ks with
  | nil => rfl
  | cons next rest => simp [cutsBetween, hks next List.mem_cons_self]

theorem wordsFrom_eq_splitOnP (hks : ∀ k ∈ ks, IsUnit k) (hupper : ∀ k ∈ ks, isUpper k = false)
    (hw : ∀ c ∈ w, b.isDelimiter [c] = false) :
    b.wordsFrom w ks = (w ++ ks.flatten).splitOnP fun c => b.isDelimiter [c] := by
  induction ks generalizing w with
  | nil => rw [wordsFrom, List.flatten_nil, List.append_nil, List.splitOnP_eq_singleton hw]
  | cons k ks ih =>
    obtain ⟨hk, hrest⟩ := List.forall_mem_cons.mp hks
    obtain ⟨-, hlater⟩ := List.forall_mem_cons.mp hupper
    rw [wordsFrom, cutsBetween_eq_false hlater, List.flatten_cons]
    rcases isDelimiter_cases hk with ⟨c, rfl, hdelimiter⟩ | ⟨hdelimiter, hkept⟩
    · rw [if_pos hdelimiter, ih hrest hlater (fun c hc => absurd hc List.not_mem_nil),
        List.nil_append, List.singleton_append,
        List.splitOnP_append_cons_of_forall_mem hw c hdelimiter]
    · rw [hdelimiter, if_neg Bool.false_ne_true, if_neg Bool.false_ne_true,
        ih hrest hlater (List.forall_mem_append.mpr ⟨hw, hkept⟩), List.append_assoc]

/-- No cluster of a text without capitals is in upper case. -/
theorem isUpper_eq_false (ht : IsLower t) : ∀ k ∈ clusters t, isUpper k = false := by
  intro k hk
  rcases isUnit_of_mem_clusters ht.isAscii k hk with ⟨c, rfl⟩ | rfl
  · have hmem : c ∈ t :=
      flatten_clusters t ▸ List.mem_flatten.mpr ⟨_, hk, List.mem_singleton_self c⟩
    obtain ⟨hc, hfixed⟩ := ht c hmem
    exact hfixed ▸ forall_ascii (P := fun c => isUpper [c.toLower] = false) (by decide +kernel) hc
  · decide +kernel

/-- The words of a text without capitals are what is between the delimiters. -/
theorem words_eq_splitOnP (ht : IsLower t) :
    b.words t = (t.splitOnP fun c => b.isDelimiter [c]).filter fun w => !w.isEmpty := by
  rw [words, wordsFrom_eq_splitOnP (isUnit_of_mem_clusters ht.isAscii) (isUpper_eq_false ht)
    (fun c hc => absurd hc List.not_mem_nil), List.nil_append, flatten_clusters]

/-- The words of a text of joined words are these words, or the whole text is one. -/
theorem words_intercalate (ht : IsLower (List.intercalate [d] ws)) (hne : [] ∉ ws)
    (hws : ∀ w ∈ ws, ∀ c ∈ w, b.isDelimiter [c] = false) :
    b.words (List.intercalate [d] ws) = ws ∨
      b.words (List.intercalate [d] ws) = [List.intercalate [d] ws] := by
  rcases eq_or_ne (List.intercalate [d] ws) [] with hempty | hsome
  · have hnil : ws = [] := by
      cases ws with
      | nil => rfl
      | cons w ws => cases ws <;> simp_all
    exact Or.inl (hnil ▸ rfl)
  rw [words_eq_splitOnP ht]
  cases hdelimiter : b.isDelimiter [d]
  · have hone : ∀ c ∈ List.intercalate [d] ws, b.isDelimiter [c] = false :=
      forall_mem_intercalate (List.forall_mem_singleton.mpr hdelimiter) hws
    rw [List.splitOnP_eq_singleton hone]
    exact Or.inr (by simp [hsome])
  · have hws' : ws ≠ [] := by rintro rfl; exact hsome rfl
    rw [splitOnP_intercalate hdelimiter hws hws']
    refine Or.inl (List.filter_eq_self.mpr fun w hw => ?_)
    rw [Bool.not_eq_true', List.isEmpty_eq_false_iff]
    exact fun hempty => hne (hempty ▸ hw)

end Boundaries

end StructuralSearch
