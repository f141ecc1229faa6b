import StructuralSearch.Proofs.Words

/-!
# What converting keeps

Converting an ASCII text changes the case of its words and puts joiners between them. Dots and
slashes that are listed as separators are read as spaces, so that spaces are delimiters as well,
whether they are listed or not.

* `Separator.lists`, `Separator.drops`: the characters that are listed, and those that are dropped.
* `LetterCase.Keeps`: a conversion keeps all characters but some.

Results:
1. `LetterCase.map_toLower_convert`: a text in another case is its words with joiners, apart from
   case.
2. `LetterCase.keeps_unlisted_iff`: when a conversion keeps the characters that are not listed.
3. `LetterCase.convert_keeps_content`: all other characters are kept, and snake and kebab case are
   stable.
-/

namespace StructuralSearch

open Text

/-! ## Separators -/

/-- The characters that may separate words. -/
def marks : List Char := ['-', '_', ' ', '.', '/']

theorem isAscii_marks : IsAscii marks := by decide

theorem toLower_beq_mark {c m : Char} (hc : c.toNat < 128) (hm : m ∈ marks) :
    (c.toLower == m) = (c == m) := by
  have hall : (marks.all fun m => (c.toLower == m) == (c == m)) = true :=
    forall_ascii (P := fun c => (marks.all fun m => (c.toLower == m) == (c == m)) = true)
      (by decide +kernel) hc
  exact beq_iff_eq.mp (List.all_eq_true.mp hall m hm)

theorem mem_map_toLower_mark {m : Char} {t : Text} (ht : IsAscii t) (hm : m ∈ marks) :
    m ∈ t.map Char.toLower ↔ m ∈ t := by
  rw [List.mem_map]
  constructor
  · rintro ⟨c, hc, heq⟩
    have hmark := toLower_beq_mark (ht c hc) hm
    rw [heq, beq_self_eq_true, eq_comm, beq_iff_eq] at hmark
    exact hmark ▸ hc
  · have hmark := toLower_beq_mark (isAscii_marks m hm) hm
    exact fun hmem => ⟨m, hmem, beq_iff_eq.mp (hmark.trans (beq_self_eq_true m))⟩

theorem contains_marks_toLower {c : Char} (hc : c.toNat < 128) :
    marks.contains c.toLower = marks.contains c :=
  forall_ascii (P := fun c => marks.contains c.toLower = marks.contains c) (by decide +kernel) hc

namespace Separator

variable {separators : List Separator} {c : Char}

/-- Whether a character is read as a space: the dots and slashes that are listed. -/
def folds (separators : List Separator) (c : Char) : Bool :=
  (c == '.' && separators.contains .dot) || (c == '/' && separators.contains .slash)

/-- Whether a character is listed as a separator. -/
def lists (separators : List Separator) (c : Char) : Bool :=
  (c == '-' && separators.contains .dash) || (c == '_' && separators.contains .underscore) ||
    (c == ' ' && separators.contains .space) || folds separators c

/-- Whether a character is dropped: the separators that are listed, and spaces if dots or slashes
are. -/
def drops (separators : List Separator) (c : Char) : Bool :=
  lists separators c || (c == ' ' && (separators.contains .dot || separators.contains .slash))

/-- What a character is read as. -/
def reading (separators : List Separator) (c : Char) : Char :=
  if folds separators c then ' ' else c

theorem lists_space : lists separators ' ' = separators.contains .space := by
  simp [lists, folds]

theorem contains_marks_of_drops (h : drops separators c = true) : marks.contains c = true := by
  simp only [drops, lists, folds, Bool.or_eq_true, Bool.and_eq_true, beq_iff_eq] at h
  rcases h with (((⟨rfl, -⟩ | ⟨rfl, -⟩) | ⟨rfl, -⟩) | ⟨rfl, -⟩ | ⟨rfl, -⟩) | ⟨rfl, -⟩ <;> rfl

theorem drops_toLower (hc : c.toNat < 128) : drops separators c.toLower = drops separators c := by
  have hmark : ∀ m ∈ marks, (c.toLower == m) = (c == m) := fun m => toLower_beq_mark hc
  simp only [drops, lists, folds, hmark '-' (by decide), hmark '_' (by decide),
    hmark ' ' (by decide), hmark '.' (by decide), hmark '/' (by decide)]

theorem folds_of_not_drops (h : drops separators c = false) : folds separators c = false := by
  simp only [drops, lists, Bool.or_eq_false_iff] at h
  exact h.1.2

theorem reading_eq_self (h : folds separators c = false) : reading separators c = c := by
  rw [reading, h, if_neg Bool.false_ne_true]

theorem reading_lt (hc : c.toNat < 128) : (reading separators c).toNat < 128 := by
  rw [reading]
  split
  · decide
  · exact hc

end Separator

namespace Boundaries

variable {separators : List Separator} {c : Char}

theorem space_ofSeparators :
    (ofSeparators separators).space =
      (separators.contains .dot || separators.contains .slash || separators.contains .space) := by
  rw [ofSeparators, Bool.eq_iff_iff]
  simp only [List.any_eq_true, Bool.or_eq_true, beq_iff_eq, List.contains_iff_mem]
  constructor
  · rintro ⟨s, hs, (rfl | rfl) | rfl⟩
    · exact Or.inl (Or.inl hs)
    · exact Or.inl (Or.inr hs)
    · exact Or.inr hs
  · rintro ((hs | hs) | hs)
    · exact ⟨_, hs, Or.inl (Or.inl rfl)⟩
    · exact ⟨_, hs, Or.inl (Or.inr rfl)⟩
    · exact ⟨_, hs, Or.inr rfl⟩

/-- Characters that are read as delimiters are dropped. -/
theorem isDelimiter_reading :
    (ofSeparators separators).isDelimiter [Separator.reading separators c] =
      Separator.drops separators c := by
  rw [isDelimiter_singleton, space_ofSeparators, Separator.reading, Separator.drops,
    Separator.lists]
  cases hfolds : Separator.folds separators c
  · simp only [Bool.false_eq_true, if_false, ofSeparators, Bool.and_or_distrib_left, Bool.or_false]
    ac_rfl
  · simp only [Separator.folds, Bool.or_eq_true, Bool.and_eq_true, List.contains_iff_mem] at hfolds
    rcases hfolds with ⟨-, hlisted⟩ | ⟨-, hlisted⟩ <;> simp [hlisted]

theorem isDelimiter_of_not_drops (h : Separator.drops separators c = false) :
    (ofSeparators separators).isDelimiter [c] = false := by
  rw [← h, ← isDelimiter_reading, Separator.reading_eq_self (Separator.folds_of_not_drops h)]

end Boundaries

/-! ## Words in another case -/

namespace LetterCase

variable {target : LetterCase} {separators : List Separator} {given : Option (List Separator)}
variable {c : Char} {t w : Text} {ws : List Text}

/-- The cases whose texts are made of words. -/
def ofWords : List LetterCase := [camel, snake, kebab, pascal]

/-- The cases that put a character between words. -/
def joined : List LetterCase := [snake, kebab]

/-- What is put between words. -/
def joiner : LetterCase → Text
  | snake => ['_']
  | kebab => ['-']
  | _ => []

/-- The words of a text to convert. -/
def wordsOf (separators : Option (List Separator)) (t : Text) : List Text :=
  (Boundaries.ofSeparators (separators.getD Separator.all)).words
    (withSpaces (separators.getD Separator.all) t)

/-- A text in another case is the text without some characters, apart from the case of its letters
and the joiners between its words. -/
def Keeps (dropped : Char → Bool) (target : LetterCase) (separators : List Separator) (t : Text) :
    Prop :=
  ∃ ws : List Text, [] ∉ ws ∧ ws.flatten = t.filter (fun c => !dropped c) ∧
    Text.lower (convert target (some separators) t) =
      Text.lower (List.intercalate (joiner target) ws)

theorem withSpaces_eq : withSpaces separators t = t.map (Separator.reading separators) := rfl

theorem isAscii_withSpaces (ht : IsAscii t) : IsAscii (withSpaces separators t) := by
  rw [withSpaces_eq]
  exact List.forall_mem_map.mpr fun c hc => Separator.reading_lt (ht c hc)

/-- The words of a text are what is not dropped. -/
theorem flatten_wordsOf (ht : IsAscii t) :
    (wordsOf given t).flatten =
      t.filter fun c => !Separator.drops (given.getD Separator.all) c := by
  rw [wordsOf, Boundaries.flatten_words (isAscii_withSpaces ht), withSpaces_eq, List.filter_map]
  have hkept : t.filter ((fun c => !(Boundaries.ofSeparators
      (given.getD Separator.all)).isDelimiter [c]) ∘
        Separator.reading (given.getD Separator.all)) =
      t.filter fun c => !Separator.drops (given.getD Separator.all) c :=
    List.filter_congr fun c _ => congrArg not Boundaries.isDelimiter_reading
  rw [hkept]
  refine (List.map_congr_left fun c hc => ?_).trans (List.map_id _)
  rw [List.mem_filter, Bool.not_eq_true'] at hc
  exact Separator.reading_eq_self (Separator.folds_of_not_drops hc.2)

theorem of_mem_wordsOf (ht : IsAscii t) (hw : w ∈ wordsOf given t) (hc : c ∈ w) :
    c.toNat < 128 ∧ Separator.drops (given.getD Separator.all) c = false := by
  have hflatten : c ∈ (wordsOf given t).flatten := List.mem_flatten.mpr ⟨w, hw, hc⟩
  rw [flatten_wordsOf ht, List.mem_filter, Bool.not_eq_true'] at hflatten
  exact ⟨ht c hflatten.1, hflatten.2⟩

theorem isAscii_of_mem_wordsOf (ht : IsAscii t) (hw : w ∈ wordsOf given t) : IsAscii w :=
  fun _ hc => (of_mem_wordsOf ht hw hc).1

theorem map_toLower_lower (hw : IsAscii w) :
    (Text.lower w).map Char.toLower = w.map Char.toLower := by
  rw [lower_eq_map hw, List.map_map]
  exact List.map_congr_left fun c hc => toLower_toLower (hw c hc)

theorem map_toLower_capitalized (hw : IsAscii w) :
    (capitalized w).map Char.toLower = w.map Char.toLower := by
  cases w with
  | nil => rfl
  | cons c w =>
    obtain ⟨hc, hw⟩ := List.forall_mem_cons.mp hw
    rw [capitalized, upperChar_eq hc, List.map_append, map_toLower_lower hw, List.map_singleton,
      toLower_toUpper hc, List.map_cons, List.singleton_append]

/-- What changes the case of words only is not seen in lower case. -/
theorem map_map_toLower {f : Text → Text} (hws : ∀ w ∈ ws, IsAscii w)
    (hf : ∀ w, IsAscii w → (f w).map Char.toLower = w.map Char.toLower) :
    (ws.map f).map (List.map Char.toLower) = ws.map (List.map Char.toLower) := by
  rw [List.map_map]
  exact List.map_congr_left fun w hw => hf w (hws w hw)

theorem map_toLower_camelWords (hws : ∀ w ∈ ws, IsAscii w) :
    (camelWords ws).map (List.map Char.toLower) = ws.map (List.map Char.toLower) := by
  cases ws with
  | nil => rfl
  | cons w ws =>
    obtain ⟨hw, hws⟩ := List.forall_mem_cons.mp hws
    rw [camelWords, List.map_cons, List.map_cons, map_toLower_lower hw,
      map_map_toLower hws fun _ => map_toLower_capitalized]

/-- A text in another case is its words with joiners between them, apart from case. -/
theorem map_toLower_convert (ht : IsAscii t) (htarget : target ∈ ofWords) :
    (convert target given t).map Char.toLower =
      (List.intercalate (joiner target) (wordsOf given t)).map Char.toLower := by
  have hws : ∀ w ∈ wordsOf given t, IsAscii w := fun w => isAscii_of_mem_wordsOf ht
  have hplain : ∀ ws : List Text, ws.map (List.map Char.toLower) =
      (wordsOf given t).map (List.map Char.toLower) →
      ws.flatten.map Char.toLower =
        (List.intercalate [] (wordsOf given t)).map Char.toLower := fun ws hsame => by
    rw [intercalate_nil_left, List.map_flatten, List.map_flatten, hsame]
  have hjoined : ∀ s : Text, (List.intercalate s ((wordsOf given t).map Text.lower)).map
      Char.toLower = (List.intercalate s (wordsOf given t)).map Char.toLower := fun s => by
    rw [map_intercalate, map_intercalate, map_map_toLower hws fun _ => map_toLower_lower]
  simp only [ofWords, List.mem_cons, List.not_mem_nil, or_false] at htarget
  rcases htarget with rfl | rfl | rfl | rfl
  · exact hplain _ (map_toLower_camelWords hws)
  · exact hjoined ['_']
  · exact hjoined ['-']
  · exact hplain _ (map_map_toLower hws fun _ => map_toLower_capitalized)

theorem contains_marks_joiner (hc : c ∈ joiner target) : marks.contains c = true := by
  cases target <;> simp_all [joiner, marks]

theorem isAscii_intercalate (hws : ∀ w ∈ ws, IsAscii w) :
    IsAscii (List.intercalate (joiner target) ws) :=
  forall_mem_intercalate (fun c hc =>
    isAscii_marks c (List.contains_iff_mem.mp (contains_marks_joiner hc))) hws

theorem isAscii_joined (ht : IsAscii t) :
    IsAscii (List.intercalate (joiner target) (wordsOf given t)) :=
  isAscii_intercalate fun _ => isAscii_of_mem_wordsOf ht

theorem isAscii_convert (ht : IsAscii t) (htarget : target ∈ ofWords) :
    IsAscii (convert target given t) := by
  rw [← isAscii_map_toLower, map_toLower_convert ht htarget, isAscii_map_toLower]
  exact isAscii_joined ht

/-! ## The characters that are kept -/

/-- A conversion keeps what is not dropped. -/
theorem keeps_drops (ht : IsAscii t) (htarget : target ∈ ofWords) :
    Keeps (Separator.drops separators) target separators t := by
  refine ⟨wordsOf (some separators) t, Boundaries.nil_not_mem_words, flatten_wordsOf ht, ?_⟩
  rw [lower_eq_map (isAscii_convert ht htarget), lower_eq_map (isAscii_joined ht),
    map_toLower_convert ht htarget]

/-- A conversion that keeps spaces has them in its result. -/
theorem space_mem_iff_of_keeps {dropped : Char → Bool} (ht : IsAscii t)
    (h : Keeps dropped target separators t) :
    ' ' ∈ Text.lower (convert target (some separators) t) ↔ ' ' ∈ t ∧ dropped ' ' = false := by
  obtain ⟨ws, -, hflatten, hlower⟩ := h
  have hws : ∀ w ∈ ws, IsAscii w := fun w hw c hc => by
    have hmem : c ∈ t.filter fun c => !dropped c := hflatten ▸ List.mem_flatten.mpr ⟨w, hw, hc⟩
    exact ht c (List.mem_filter.mp hmem).1
  have hjoiner : ' ' ∉ joiner target := by cases target <;> simp [joiner]
  have hwords : IsAscii (List.intercalate (joiner target) ws) := isAscii_intercalate hws
  rw [hlower, lower_eq_map hwords, mem_map_toLower_mark hwords (by decide),
    mem_intercalate_iff hjoiner, hflatten, List.mem_filter, Bool.not_eq_true']

theorem drops_eq_lists
    (h : ' ' ∈ t → .space ∈ separators ∨ (.dot ∉ separators ∧ .slash ∉ separators)) (hc : c ∈ t) :
    Separator.drops separators c = Separator.lists separators c := by
  rw [Separator.drops]
  cases hspace : c == ' '
  · rw [Bool.false_and, Bool.or_false]
  · obtain rfl := beq_iff_eq.mp hspace
    rcases h hc with hlisted | ⟨hdot, hslash⟩
    · simp [Separator.lists_space, hlisted]
    · simp [hdot, hslash]

/-- A conversion keeps the characters that are not listed as separators, unless the text has spaces
and dots or slashes are listed but spaces are not: then the spaces are dropped as well. -/
theorem keeps_unlisted_iff (ht : IsAscii t) (htarget : target ∈ ofWords) :
    Keeps (Separator.drops separators) target separators t ∧
      (Keeps (Separator.lists separators) target separators t ↔
        (' ' ∈ t → .space ∈ separators ∨ (.dot ∉ separators ∧ .slash ∉ separators))) := by
  have hdrops : Keeps (Separator.drops separators) target separators t := keeps_drops ht htarget
  refine ⟨hdrops, fun hlists hspace => ?_, fun h => ?_⟩
  · by_contra hnot
    rw [not_or, not_and_or, not_not, not_not] at hnot
    obtain ⟨hunlisted, hfolded⟩ := hnot
    have hkept : Separator.lists separators ' ' = false := by
      rw [Separator.lists_space]
      simpa using hunlisted
    have hdropped : Separator.drops separators ' ' = true := by
      rw [Separator.drops, hkept]
      simpa using hfolded
    -- The result has a space if it is kept, and it has none.
    have hmem := (space_mem_iff_of_keeps ht hlists).mpr ⟨hspace, hkept⟩
    rw [space_mem_iff_of_keeps ht hdrops, hdropped] at hmem
    exact Bool.noConfusion hmem.2
  · obtain ⟨ws, hne, hflatten, hlower⟩ := hdrops
    refine ⟨ws, hne, hflatten.trans (List.filter_congr fun c hc => ?_), hlower⟩
    rw [drops_eq_lists h hc]

/-- With dots and spaces listed, a dash is kept. -/
theorem keeps_dash :
    IsAscii "User.first name-x".toList ∧ snake ∈ ofWords ∧
      Keeps (Separator.lists [.dot, .space]) snake [.dot, .space] "User.first name-x".toList :=
  ⟨by decide, by decide,
    (keeps_unlisted_iff (by decide) (by decide)).2.mpr fun _ => Or.inl (by decide)⟩

/-- With dots listed, a space is lost that is not listed. -/
theorem unlisted_space_is_dropped :
    convert camel (some [.dot]) "a b".toList = "aB".toList ∧
      ¬Keeps (Separator.lists [.dot]) camel [.dot] "a b".toList := by
  refine ⟨by decide +kernel, fun h => ?_⟩
  have hmem := (space_mem_iff_of_keeps (by decide) h).mpr (by decide)
  exact absurd hmem (by decide +kernel)

/-! ## Content and stability -/

/-- What is not a mark is kept or dropped regardless of its case. -/
theorem lower_filter_marks (ht : IsAscii t) :
    Text.lower (t.filter fun c => !marks.contains c) =
      (t.map Char.toLower).filter fun c => !marks.contains c := by
  have hfilter : IsAscii (t.filter fun c => !marks.contains c) := fun c hc =>
    ht c (List.mem_filter.mp hc).1
  rw [lower_eq_map hfilter, List.filter_map]
  exact congrArg _ (List.filter_congr fun c hc =>
    congrArg not (contains_marks_toLower (ht c hc)).symm)

theorem convert_of_joined (htarget : target ∈ joined) :
    convert target given t =
      List.intercalate (joiner target) ((wordsOf given t).map Text.lower) := by
  simp only [joined, List.mem_cons, List.not_mem_nil, or_false] at htarget
  rcases htarget with rfl | rfl <;> rfl

theorem exists_joiner (htarget : target ∈ joined) :
    ∃ d, joiner target = [d] ∧ IsLower [d] ∧
      ∀ separators, Separator.folds separators d = false := by
  simp only [joined, List.mem_cons, List.not_mem_nil, or_false] at htarget
  rcases htarget with rfl | rfl
  · exact ⟨'_', rfl, List.forall_mem_singleton.mpr (by decide), fun _ => rfl⟩
  · exact ⟨'-', rfl, List.forall_mem_singleton.mpr (by decide), fun _ => rfl⟩

/-- The words of a text in snake or kebab case are without capitals and without what is dropped. -/
theorem of_mem_lower_wordsOf (ht : IsAscii t) (hw : w ∈ (wordsOf given t).map Text.lower) :
    IsLower w ∧ w ≠ [] ∧ ∀ c ∈ w, Separator.drops (given.getD Separator.all) c = false := by
  obtain ⟨v, hv, rfl⟩ := List.mem_map.mp hw
  have hascii : IsAscii v := isAscii_of_mem_wordsOf ht hv
  refine ⟨isLower_lower hascii, fun hempty => ?_, ?_⟩
  · rw [lower_eq_map hascii, List.map_eq_nil_iff] at hempty
    exact Boundaries.nil_not_mem_words (hempty ▸ hv)
  · rw [lower_eq_map hascii]
    exact List.forall_mem_map.mpr fun c hc =>
      (Separator.drops_toLower (hascii c hc)).trans (of_mem_wordsOf ht hv hc).2

/-- Converting a text in snake or kebab case again leaves it alone. -/
theorem convert_convert (ht : IsAscii t) (htarget : target ∈ joined) :
    convert target given (convert target given t) = convert target given t := by
  obtain ⟨d, hjoiner, hd, hfolds⟩ := exists_joiner htarget
  set ws := (wordsOf given t).map Text.lower
  have hresult : convert target given t = List.intercalate [d] ws :=
    hjoiner ▸ convert_of_joined htarget
  have hlower : IsLower (List.intercalate [d] ws) :=
    forall_mem_intercalate hd fun w hw => (of_mem_lower_wordsOf ht hw).1
  have hunfolded : ∀ c ∈ List.intercalate [d] ws,
      Separator.folds (given.getD Separator.all) c = false :=
    forall_mem_intercalate (List.forall_mem_singleton.mpr (hfolds _)) fun w hw c hc =>
      Separator.folds_of_not_drops ((of_mem_lower_wordsOf ht hw).2.2 c hc)
  have hspaces : withSpaces (given.getD Separator.all) (List.intercalate [d] ws) =
      List.intercalate [d] ws := by
    rw [withSpaces_eq]
    exact (List.map_congr_left fun c hc => Separator.reading_eq_self (hunfolded c hc)).trans
      (List.map_id _)
  have hdelimiters : ∀ w ∈ ws, ∀ c ∈ w,
      (Boundaries.ofSeparators (given.getD Separator.all)).isDelimiter [c] = false :=
    fun w hw c hc => Boundaries.isDelimiter_of_not_drops ((of_mem_lower_wordsOf ht hw).2.2 c hc)
  rw [hresult, convert_of_joined htarget, hjoiner, wordsOf, hspaces]
  rcases Boundaries.words_intercalate hlower (fun hw => (of_mem_lower_wordsOf ht hw).2.1 rfl)
    hdelimiters with hwords | hwords
  · rw [hwords]
    exact congrArg _ ((List.map_congr_left fun w hw =>
      (of_mem_lower_wordsOf ht hw).1.lower).trans (List.map_id _))
  · rw [hwords, List.map_singleton, List.intercalate_singleton, hlower.lower]

/-- A conversion keeps all characters other than marks, apart from their case, and converting to
snake or kebab case again changes nothing. -/
theorem convert_keeps_content (ht : IsAscii t) (given : Option (List Separator)) :
    (∀ target ∈ ofWords, Text.lower ((convert target given t).filter (!marks.contains ·)) =
        Text.lower (t.filter (!marks.contains ·))) ∧
      ∀ target ∈ joined,
        convert target given (convert target given t) = convert target given t := by
  refine ⟨fun target htarget => ?_, fun target => convert_convert ht⟩
  have hjoiner : ∀ c ∈ joiner target, (!marks.contains c) = false := fun c hc => by
    rw [contains_marks_joiner hc, Bool.not_true]
  have hdropped : ∀ c ∈ t, (!marks.contains c && !Separator.drops
      (given.getD Separator.all) c) = !marks.contains c := fun c _ => by
    cases hdrops : Separator.drops (given.getD Separator.all) c
    · rw [Bool.not_false, Bool.and_true]
    · rw [Separator.contains_marks_of_drops hdrops, Bool.not_true, Bool.false_and]
  calc Text.lower ((convert target given t).filter (!marks.contains ·))
      = ((convert target given t).map Char.toLower).filter (!marks.contains ·) :=
        lower_filter_marks (isAscii_convert ht htarget)
    _ = ((List.intercalate (joiner target) (wordsOf given t)).map Char.toLower).filter
          (!marks.contains ·) := by rw [map_toLower_convert ht htarget]
    _ = Text.lower ((List.intercalate (joiner target) (wordsOf given t)).filter
          (!marks.contains ·)) := (lower_filter_marks (isAscii_joined ht)).symm
    _ = Text.lower ((wordsOf given t).flatten.filter (!marks.contains ·)) := by
        rw [filter_intercalate hjoiner]
    _ = Text.lower (t.filter (!marks.contains ·)) := by
        rw [flatten_wordsOf ht, List.filter_filter, List.filter_congr hdropped]

/-- A dot, a capital and a dash in a row. -/
theorem convert_keeps_name :
    IsAscii "get.URL-x y".toList ∧
      (∀ target ∈ ofWords,
        Text.lower ((convert target (some [.dot, .caseChange]) "get.URL-x y".toList).filter
            (!marks.contains ·)) =
          Text.lower ("get.URL-x y".toList.filter (!marks.contains ·))) ∧
      ∀ target ∈ joined,
        convert target (some [.dot, .caseChange])
            (convert target (some [.dot, .caseChange]) "get.URL-x y".toList) =
          convert target (some [.dot, .caseChange]) "get.URL-x y".toList :=
  ⟨by decide, convert_keeps_content (by decide) (some [.dot, .caseChange])⟩

end LetterCase

end StructuralSearch
