/-!
# Maps from names

A map is the list of its entries; a name is looked up in the first entry that has it. `insert`
replaces a value in place or adds an entry at the end, so a map built by it has each name once and
keeps the order of first insertion. `put` and `ofEntries` keep the order of the names instead.
-/

namespace StructuralSearch

/-- A map from names to values, as the list of its entries. -/
abbrev NameMap (α : Type) := List (String × α)

namespace NameMap

variable {α β : Type}

def empty : NameMap α := []

def find? (m : NameMap α) (name : String) : Option α := m.lookup name

def contains (m : NameMap α) (name : String) : Bool := (find? m name).isSome

def names (m : NameMap α) : List String := m.map (·.1)

/-- Sets the value of a name. -/
def insert (name : String) (value : α) : NameMap α → NameMap α
  | [] => [(name, value)]
  | (k, v) :: m => if k = name then (k, value) :: m else (k, v) :: insert name value m

/-- The entries of the first map and those of the second whose names are new. -/
def union (a b : NameMap α) : NameMap α := a ++ b.filter fun e => !contains a e.1

/-- The entries of the first map, overwritten and extended by those of the second. -/
def override (a b : NameMap α) : NameMap α := b.foldl (fun m e => insert e.1 e.2 m) a

/-- Whether every name that both maps have is given equal values by them. -/
def compatible (eq : α → α → Bool) (a b : NameMap α) : Bool :=
  b.all fun e => (find? a e.1).all (eq · e.2)

/-- Whether both maps have the same names with equal values. -/
def same (eq : α → α → Bool) (a b : NameMap α) : Bool :=
  (a.all fun e => (find? b e.1).any (eq e.2)) && b.all fun e => contains a e.1

/-- Sets the value of a name in a map in name order. -/
def put (name : String) (value : α) : NameMap α → NameMap α
  | [] => [(name, value)]
  | (k, v) :: m =>
    if name = k then (k, value) :: m
    else if name < k then (name, value) :: (k, v) :: m
    else (k, v) :: put name value m

/-- The map of a list of entries in which the last entry of a name counts, in name order. -/
def ofEntries (entries : List (String × α)) : NameMap α :=
  entries.foldl (fun m e => put e.1 e.2 m) empty

/-- The names of a list in order, each once. -/
def orderedNames (list : List String) : List String := names (ofEntries (list.map fun n => (n, ())))

/-- The entries of other names. -/
def erase (m : NameMap α) (name : String) : NameMap α := m.filter fun e => e.1 != name

/-! ## Lookup after each operation -/

@[simp] theorem find?_empty (name : String) : find? (empty : NameMap α) name = none := rfl

@[simp] theorem find?_insert_self (name : String) (value : α) (m : NameMap α) :
    find? (insert name value m) name = some value := by
  induction m with
  | nil => simp [insert, find?]
  | cons e m ih =>
    obtain ⟨k, v⟩ := e
    by_cases h : k = name
    · simp [insert, find?, h]
    · have h' : (name == k) = false := by simpa using fun e => h e.symm
      simpa [insert, find?, h, List.lookup_cons, h'] using ih

theorem find?_insert_of_ne {name other : String} (hne : other ≠ name) (value : α) (m : NameMap α) :
    find? (insert name value m) other = find? m other := by
  induction m with
  | nil =>
    have h' : (other == name) = false := by simpa using hne
    simp [insert, find?, List.lookup_cons, h']
  | cons e m ih =>
    obtain ⟨k, v⟩ := e
    by_cases h : k = name
    · subst h
      have h' : (other == k) = false := by simpa using hne
      simp [insert, find?, List.lookup_cons, h']
    · by_cases hk : other = k
      · subst hk
        simp [insert, find?, h]
      · have h' : (other == k) = false := by simpa using hk
        simpa [insert, find?, h, List.lookup_cons, h'] using ih

theorem mem_of_find? {m : NameMap α} {name : String} {value : α}
    (h : m.find? name = some value) : (name, value) ∈ m := by
  induction m with
  | nil => simp [find?] at h
  | cons e m ih =>
    obtain ⟨k, v⟩ := e
    simp only [find?, List.lookup_cons] at h
    split at h
    · next heq =>
      obtain rfl := beq_iff_eq.1 heq
      obtain rfl := Option.some.inj h
      exact List.mem_cons_self
    · exact List.mem_cons_of_mem _ (ih h)

theorem length_erase_lt {m : NameMap α} {name : String} {value : α}
    (h : m.find? name = some value) : (m.erase name).length < m.length :=
  List.length_filter_lt_length_iff_exists.2 ⟨_, mem_of_find? h, by simp⟩

example : ofEntries [("b", 1), ("a", 2), ("b", 3)] = [("a", 2), ("b", 3)] := by decide

end NameMap

end StructuralSearch
