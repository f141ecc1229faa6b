import Mathlib.Data.List.Nodup
import StructuralSearch.NameMap
import StructuralSearch.Proofs.Except

/-!
# Maps that grow

A map is a list of entries. Setting a new name and joining another map put entries of new names
behind those that are there, so a map that has each name once keeps it so.

* `NameMap.Extends`: the second map has the entries of the first, and others of new names behind.

Results:
1. `NameMap.find?_of_mem`: in a map that has each name once, every entry is found.
2. `NameMap.nodup_insert`, `NameMap.nodup_union`: what keeps each name once.
3. `NameMap.pairwise_ofEntries`, `NameMap.mem_orderedNames_iff`: putting names in order keeps them
   all.
4. `NameMap.find?_union`: joining maps.
5. `NameMap.union_eq_of_extends`, `NameMap.compatible_of_extends`, `NameMap.override_self`: joining
   a map with one that extends it gives the latter.
-/

namespace StructuralSearch

namespace NameMap

variable {α : Type} {a b c m : NameMap α} {name : String} {value : α}

/-! ## Names -/

theorem contains_eq_false_iff : a.contains name = false ↔ name ∉ a.names := by
  rw [contains, Option.isSome_eq_false_iff, Option.isNone_iff_eq_none, find?,
    List.lookup_eq_none_iff]
  simp only [names, List.mem_map, bne_iff_ne, ne_eq, not_exists, not_and]
  exact ⟨fun h e he heq => h e he heq.symm, fun h e he heq => h e he heq.symm⟩

theorem contains_iff : a.contains name = true ↔ name ∈ a.names := by
  rw [← Bool.not_eq_false, contains_eq_false_iff, not_not]

theorem contains_of_mem {e : String × α} (h : e ∈ a) : a.contains e.1 = true :=
  contains_iff.mpr (List.mem_map_of_mem h)

/-- In a map that has each name once, every entry is found. -/
theorem find?_of_mem (hm : m.names.Nodup) (h : (name, value) ∈ m) : m.find? name = some value := by
  obtain ⟨before, after, rfl⟩ := List.append_of_mem h
  refine List.lookup_eq_some_iff.mpr ⟨before, after, rfl, fun e he => ?_⟩
  rw [names, List.map_append, List.nodup_append] at hm
  have hne : e.1 ≠ name := hm.2.2 e.1 (List.mem_map_of_mem he) name (by simp)
  exact bne_iff_ne.mpr hne.symm

/-- What is found in a map is found with other entries behind it. -/
theorem find?_append_of_find? (h : a.find? name = some value) (b : NameMap α) :
    NameMap.find? (a ++ b) name = some value := by
  rw [find?, List.lookup_append, show List.lookup name a = some value from h, Option.some_or]

theorem find?_map {β : Type} (f : α → β) (m : NameMap α) (name : String) :
    find? (m.map fun e => (e.1, f e.2)) name = (m.find? name).map f := by
  induction m with
  | nil => rfl
  | cons e m ih =>
    obtain ⟨k, v⟩ := e
    have ih : List.lookup name (m.map fun e => (e.1, f e.2)) = (List.lookup name m).map f := ih
    by_cases hk : (name == k) = true <;> simp [find?, List.lookup_cons, hk, ih]

/-- What a step for each value of a map makes of the value of a name. -/
theorem find?_of_mapM {ε β : Type} {f : String → α → Except ε β} {m' : NameMap β} {b : β}
    (h : m.mapM (fun e => (e.1, ·) <$> f e.1 e.2) = .ok m') :
    m'.find? name = some b ↔ ∃ a, m.find? name = some a ∧ f name a = .ok b := by
  rw [List.mapM_eq_ok_iff] at h
  induction h with
  | nil => simp [find?]
  | @cons e e' m m' he _ ih =>
    obtain ⟨k, v⟩ := e
    obtain ⟨w, hw, rfl⟩ := Except.map_eq_ok_iff.mp he
    by_cases hk : (name == k) = true
    · obtain rfl := beq_iff_eq.mp hk
      simp [find?, hw]
    · have ih : List.lookup name m' = some b ↔
          ∃ a, List.lookup name m = some a ∧ f name a = .ok b := ih
      simpa [find?, List.lookup_cons, hk] using ih

theorem names_of_mapM {ε β : Type} {f : String → α → Except ε β} {m' : NameMap β}
    (h : m.mapM (fun e => (e.1, ·) <$> f e.1 e.2) = .ok m') : m'.names = m.names := by
  rw [List.mapM_eq_ok_iff] at h
  induction h with
  | nil => rfl
  | @cons e e' m m' he _ ih =>
    obtain ⟨w, -, rfl⟩ := Except.map_eq_ok_iff.mp he
    exact congrArg (e.1 :: ·) ih

theorem values_of_mapM {ε β : Type} {f : α → Except ε β} {m' : NameMap β}
    (h : m.mapM (fun e => (e.1, ·) <$> f e.2) = .ok m') :
    (m.map (·.2)).mapM f = .ok (m'.map (·.2)) := by
  rw [List.mapM_eq_ok_iff] at h ⊢
  rw [List.forall₂_map_left_iff, List.forall₂_map_right_iff]
  refine h.imp fun e e' he => ?_
  obtain ⟨w, hw, rfl⟩ := Except.map_eq_ok_iff.mp he
  exact hw

theorem insert_of_not_mem (h : name ∉ m.names) : m.insert name value = m ++ [(name, value)] := by
  induction m with
  | nil => rfl
  | cons e m ih =>
    obtain ⟨k, v⟩ := e
    have hk : k ≠ name := fun hk => h (by simp [names, hk])
    have hm : name ∉ NameMap.names m := fun hm => h (List.mem_cons_of_mem k hm)
    rw [insert, if_neg hk, ih hm, List.cons_append]

theorem mem_insert {e : String × α} (h : e ∈ m.insert name value) : e = (name, value) ∨ e ∈ m := by
  induction m with
  | nil => exact Or.inl (List.mem_singleton.mp h)
  | cons x m ih =>
    obtain ⟨k, v⟩ := x
    rw [insert] at h
    split at h
    · next hk =>
      rw [hk] at h
      exact (List.mem_cons.mp h).imp_right (List.mem_cons_of_mem (k, v))
    · rcases List.mem_cons.mp h with rfl | h
      · exact Or.inr List.mem_cons_self
      · exact (ih h).imp_right (List.mem_cons_of_mem (k, v))

/-- Setting the value that a name has already changes nothing. -/
theorem insert_of_find? (h : m.find? name = some value) : m.insert name value = m := by
  induction m with
  | nil => simp [find?] at h
  | cons e m ih =>
    obtain ⟨k, v⟩ := e
    rw [insert]
    by_cases hk : k = name
    · subst hk
      rw [find?, List.lookup_cons_self] at h
      rw [if_pos rfl, Option.some.inj h]
    · have hne : (name == k) = false := beq_eq_false_iff_ne.mpr (Ne.symm hk)
      have hm : NameMap.find? m name = some value := by
        simpa [find?, List.lookup_cons, hne] using h
      rw [if_neg hk, ih hm]

theorem nodup_insert (hm : m.names.Nodup) : (m.insert name value).names.Nodup := by
  by_cases h : name ∈ m.names
  · -- the name keeps its place
    have hnames : (m.insert name value).names = m.names := by
      clear hm
      induction m with
      | nil => simp [names] at h
      | cons e m ih =>
        obtain ⟨k, v⟩ := e
        rw [insert]
        by_cases hk : k = name
        · rw [if_pos hk]
          rfl
        · have hm : name ∈ NameMap.names m := by simpa [names, Ne.symm hk] using h
          rw [if_neg hk]
          exact congrArg (k :: ·) (ih hm)
    rwa [hnames]
  · rw [insert_of_not_mem h, names, List.map_append]
    refine List.nodup_append.mpr ⟨hm, by simp, ?_⟩
    rintro k hk l hl rfl
    rw [List.map_singleton, List.mem_singleton] at hl
    subst hl
    exact h hk

/-! ## Names in order, and names that are taken out -/

theorem mem_names_put {k : String} : k ∈ (m.put name value).names ↔ k = name ∨ k ∈ m.names := by
  induction m with
  | nil => simp [put, names]
  | cons e m ih =>
    obtain ⟨l, v⟩ := e
    have ih : k ∈ (put name value m).map (·.1) ↔ k = name ∨ k ∈ m.map (·.1) := ih
    rw [put]
    split
    · next heq => simp [names, heq]
    · split
      · simp [names]
      · simp only [names, List.map_cons, List.mem_cons, ih]
        exact or_left_comm

/-- Names that stand in order still do when another is put among them. -/
theorem pairwise_put (h : m.names.Pairwise (· < ·)) :
    (m.put name value).names.Pairwise (· < ·) := by
  induction m with
  | nil => exact List.pairwise_singleton _ _
  | cons e m ih =>
    obtain ⟨k, v⟩ := e
    obtain ⟨hk, hm⟩ := List.pairwise_cons.mp h
    rw [put]
    split
    · exact h
    · next hne =>
      split
      · next hlt =>
        refine .cons (fun l hl => ?_) h
        rcases List.mem_cons.mp hl with rfl | hl
        · exact hlt
        · exact String.lt_trans hlt (hk l hl)
      · next hge =>
        refine .cons (fun l hl => ?_) (ih hm)
        rcases mem_names_put.mp hl with rfl | hl
        · by_contra hnot
          exact hne (String.le_antisymm (String.not_lt.mp hnot) (String.not_lt.mp hge))
        · exact hk l hl

/-- A map of entries has its names in order. -/
theorem pairwise_ofEntries (entries : List (String × α)) :
    (ofEntries entries).names.Pairwise (· < ·) := by
  have hfold : ∀ m : NameMap α, m.names.Pairwise (· < ·) →
      (entries.foldl (fun m e => put e.1 e.2 m) m).names.Pairwise (· < ·) := by
    induction entries with
    | nil => exact fun _ hm => hm
    | cons e entries ih => exact fun m hm => ih _ (pairwise_put hm)
  exact hfold empty .nil

/-- Putting names in order neither adds names nor loses any. -/
theorem mem_orderedNames_iff {l : List String} {k : String} : k ∈ orderedNames l ↔ k ∈ l := by
  have hfold : ∀ (entries : List (String × Unit)) (m : NameMap Unit),
      k ∈ (entries.foldl (fun m e => put e.1 e.2 m) m).names ↔
        k ∈ m.names ∨ k ∈ entries.map (·.1) := by
    intro entries
    induction entries with
    | nil => simp
    | cons e entries ih =>
      intro m
      rw [List.foldl_cons, ih, mem_names_put, List.map_cons, List.mem_cons]
      exact or_assoc.trans or_left_comm
  rw [orderedNames, ofEntries, hfold]
  simp [empty, names]

theorem find?_erase_self (m : NameMap α) (name : String) : (m.erase name).find? name = none := by
  rw [find?, List.lookup_eq_none_iff]
  intro e he
  have hne := (List.mem_filter.mp he).2
  exact bne_comm.trans hne

theorem find?_erase_of_ne {k : String} (h : k ≠ name) : (m.erase name).find? k = m.find? k := by
  induction m with
  | nil => rfl
  | cons e m ih =>
    obtain ⟨l, v⟩ := e
    have ih : List.lookup k (List.filter (fun e => e.1 != name) m) = List.lookup k m := ih
    by_cases hl : l = name
    · have hk : (k == l) = false := beq_eq_false_iff_ne.mpr (hl ▸ h)
      simp [erase, find?, hl, ih, List.lookup_cons, hl ▸ hk]
    · simp [erase, find?, hl, ih, List.lookup_cons]

/-! ## Growth -/

/-- The second map has the entries of the first and, behind them, entries of other names. -/
def Extends (a b : NameMap α) : Prop :=
  ∃ extra, b = a ++ extra ∧ ∀ e ∈ extra, a.contains e.1 = false

theorem Extends.refl (a : NameMap α) : a.Extends a := ⟨[], (List.append_nil a).symm, by simp⟩

theorem Extends.trans (h : a.Extends b) (k : b.Extends c) : a.Extends c := by
  obtain ⟨extra, rfl, hextra⟩ := h
  obtain ⟨extra', rfl, hextra'⟩ := k
  refine ⟨extra ++ extra', List.append_assoc a extra extra', ?_⟩
  refine List.forall_mem_append.mpr ⟨hextra, fun e he => ?_⟩
  have hnew := contains_eq_false_iff.mp (hextra' e he)
  rw [names, List.map_append, List.mem_append, not_or] at hnew
  exact contains_eq_false_iff.mpr hnew.1

/-- Where the first map has no value, the second one counts. -/
theorem find?_union (a b : NameMap α) (name : String) :
    (a.union b).find? name = (a.find? name).or (b.find? name) := by
  rw [find?, union, List.lookup_append]
  cases ha : a.find? name with
  | some value => rw [show List.lookup name a = some value from ha, Option.some_or, Option.some_or]
  | none =>
    rw [show List.lookup name a = none from ha, Option.none_or, Option.none_or]
    induction b with
    | nil => rfl
    | cons e b ih =>
      obtain ⟨k, v⟩ := e
      by_cases hk : name = k
      · subst hk
        have hnew : a.contains name = false := by rw [contains, ha, Option.isSome_none]
        simp [find?, hnew]
      · have hne : (name == k) = false := beq_eq_false_iff_ne.mpr hk
        have ih : List.lookup name (b.filter fun e => !a.contains e.1) = List.lookup name b := ih
        cases hc : a.contains k <;> simp [find?, List.lookup_cons, hc, hne, ih]

theorem extends_union (a b : NameMap α) : a.Extends (a.union b) :=
  ⟨_, rfl, fun _ he => by simpa using (List.mem_filter.mp he).2⟩

theorem Extends.find? (h : a.Extends b) (ha : a.find? name = some value) :
    b.find? name = some value := by
  obtain ⟨extra, rfl, -⟩ := h
  exact find?_append_of_find? ha extra

/-- Joining a map with one that extends it gives the latter. -/
theorem union_eq_of_extends (h : a.Extends b) : a.union b = b := by
  obtain ⟨extra, rfl, hextra⟩ := h
  have hold : a.filter (fun e => !a.contains e.1) = [] := by
    rw [List.filter_eq_nil_iff]
    exact fun e he => by simp [contains_of_mem he]
  have hnew : extra.filter (fun e => !a.contains e.1) = extra := by
    rw [List.filter_eq_self]
    exact fun e he => by simp [hextra e he]
  rw [union, List.filter_append, hold, hnew, List.nil_append]

/-- No name has other values in a map that extends the first. -/
theorem compatible_of_extends {eq : α → α → Bool} (heq : ∀ v, eq v v = true) (ha : a.names.Nodup)
    (h : a.Extends b) : compatible eq a b = true := by
  obtain ⟨extra, rfl, hextra⟩ := h
  rw [compatible, List.all_eq_true]
  refine List.forall_mem_append.mpr ⟨fun e he => ?_, fun e he => ?_⟩
  · rw [find?_of_mem ha he]
    exact heq e.2
  · have hnone : a.find? e.1 = none := by simpa [contains] using hextra e he
    rw [hnone]
    rfl

theorem nodup_union (ha : a.names.Nodup) (hb : b.names.Nodup) : (a.union b).names.Nodup := by
  rw [union, names, List.map_append, List.nodup_append]
  refine ⟨ha, hb.sublist (List.Sublist.map _ List.filter_sublist), ?_⟩
  rintro k hk l hl rfl
  obtain ⟨e, he, rfl⟩ := List.mem_map.mp hl
  have hnew : a.contains e.1 = false := by simpa using (List.mem_filter.mp he).2
  exact contains_eq_false_iff.mp hnew hk

/-- Overwriting a map with its own entries changes nothing. -/
theorem override_self (ha : a.names.Nodup) : a.override a = a := by
  have hpart : ∀ l : NameMap α, (∀ e ∈ l, a.find? e.1 = some e.2) →
      l.foldl (fun m e => insert e.1 e.2 m) a = a := by
    intro l hl
    induction l with
    | nil => rfl
    | cons e l ih =>
      obtain ⟨he, hl⟩ := List.forall_mem_cons.mp hl
      rw [List.foldl_cons, insert_of_find? he, ih hl]
  exact hpart a fun e he => find?_of_mem ha he

/-- A map that has each name once has the same names and values as itself. -/
theorem same_self {eq : α → α → Bool} (heq : ∀ v, eq v v = true) (ha : a.names.Nodup) :
    same eq a a = true := by
  rw [same, Bool.and_eq_true, List.all_eq_true, List.all_eq_true]
  refine ⟨fun e he => ?_, fun e he => contains_of_mem he⟩
  rw [find?_of_mem ha he]
  exact heq e.2

end NameMap

end StructuralSearch
