import StructuralSearch.Proofs.Text
import StructuralSearch.Proofs.Tree.Layout

/-!
# Trees from shapes

An inductive tree is listed in pre-order, with the texts of its leaves one after another as the
source. If the text of every inner node is what its children make up, the tree that is listed in
this way is well-formed, and its subtrees are those of the inductive tree.

* `Shape.All`: every subtree satisfies a property.
* `Shape.Joined`: texts are made up of the texts of children.
* `Shape.toTree`: the tree that lists an inductive tree.
* `Tree.Places`: a list of nodes stands at a place in a tree, and their text in its source.
* `Tree.Row`: the nodes from one place to another are a row of siblings with all that is below them.

Results:
1. `Tree.Row.append`, `Tree.Row.node`: rows are put together.
2. `Tree.shape_of_places`: what is read back from where an inductive tree is listed.
3. `Shape.wellFormed_toTree`, `Shape.shape_root_toTree`: the listed tree is well-formed and has the
   shape that it lists.
4. `Tree.WellFormed.all_shape`: what holds for all subtrees of the root holds at every node.
-/

namespace StructuralSearch

/-! ## Inductive trees -/

namespace Shape

/-- Every subtree satisfies the property. -/
inductive All (P : Shape → Prop) : Shape → Prop
  | intro {s : Shape} : P s → (∀ c ∈ s.children, All P c) → All P s

/-- The text of a node with children is made up of the texts of its children. -/
def Joined (s : Shape) : Prop := s.children = [] ∨ s.text = s.children.flatMap text

mutual

/-- The nodes of an inductive tree in pre-order, listed from place `id` on, where the text begins at
byte `offset`. -/
def records (parent : Option Nat) (id offset : Nat) : Shape → List Record
  | node kind named text children =>
    ⟨parent, kind, named, false, false, false, offset, offset + Text.byteLength text, none⟩ ::
      listRecords id (id + 1) offset children

/-- The nodes of siblings and of all that is below them. -/
def listRecords (parent id offset : Nat) : List Shape → List Record
  | [] => []
  | s :: ss =>
    s.records (some parent) id offset ++
      listRecords parent (id + (s.records (some parent) id offset).length)
        (offset + Text.byteLength s.text) ss

end

/-- The tree that lists an inductive tree. -/
def toTree (s : Shape) : Tree := ⟨0, .parsing fun _ => none, s.text, s.records none 0 0⟩

theorem records_eq (parent : Option Nat) (id offset : Nat) (s : Shape) :
    s.records parent id offset =
      ⟨parent, s.kind, s.named, false, false, false, offset, offset + Text.byteLength s.text,
        none⟩ :: listRecords id (id + 1) offset s.children := by
  obtain ⟨kind, named, text, children⟩ := s
  rfl

end Shape

namespace Record

variable {i j : Nat} {r : Record}

/-- The node is no error, and no error is below it. -/
def Unmarked (r : Record) : Prop := r.error = false ∧ r.missing = false ∧ r.hasError = false

theorem isBelow_of_le (hij : i ≤ j) (h : r.isBelow j = true) : r.isBelow i = true := by
  obtain ⟨p, hp, hle⟩ := Tree.exists_parent_of_isBelow h
  simpa [isBelow, hp] using Nat.le_trans hij hle

theorem not_isBelow_of_le (hij : i ≤ j) (h : r.isBelow i = false) : r.isBelow j = false := by
  by_contra hj
  simp [isBelow_of_le hij (Bool.not_eq_false _ ▸ hj)] at h

end Record

namespace Shape

theorem of_mem_listRecords {ss : List Shape} {parent id offset : Nat} {r : Record}
    (ih : ∀ s ∈ ss, ∀ {parent id offset r}, r ∈ s.records parent id offset →
      (r.parent = parent ∨ r.isBelow id = true) ∧ r.Unmarked)
    (hr : r ∈ listRecords parent id offset ss) (h : parent < id) :
    r.isBelow parent = true ∧ r.Unmarked := by
  induction ss generalizing id offset with
  | nil => exact absurd hr List.not_mem_nil
  | cons s ss ihs =>
    obtain ⟨ihs₁, ihs₂⟩ := List.forall_mem_cons.mp ih
    rw [listRecords] at hr
    rcases List.mem_append.mp hr with hr | hr
    · obtain ⟨hparent | hbelow, hunmarked⟩ := ihs₁ hr
      · exact ⟨by simp [Record.isBelow, hparent], hunmarked⟩
      · exact ⟨Record.isBelow_of_le (Nat.le_of_lt h) hbelow, hunmarked⟩
    · exact ihs ihs₂ hr (by omega)

/-- What is listed for a node is below it, apart from the node itself, and nothing is marked. -/
theorem of_mem_records {s : Shape} {parent : Option Nat} {id offset : Nat} {r : Record}
    (hr : r ∈ s.records parent id offset) :
    (r.parent = parent ∨ r.isBelow id = true) ∧ r.Unmarked := by
  induction s using Shape.induct generalizing parent id offset r with
  | node kind named text children ih =>
    rcases List.mem_cons.mp hr with rfl | hr
    · exact ⟨Or.inl rfl, rfl, rfl, rfl⟩
    · obtain ⟨hbelow, hunmarked⟩ := of_mem_listRecords ih hr (Nat.lt_succ_self id)
      exact ⟨Or.inr hbelow, hunmarked⟩

/-- What is listed for siblings lies below their parent. -/
theorem isBelow_of_mem_listRecords {ss : List Shape} {parent id offset : Nat} {r : Record}
    (hr : r ∈ listRecords parent id offset ss) (h : parent < id) : r.isBelow parent = true :=
  (of_mem_listRecords (fun _ _ => of_mem_records) hr h).1

theorem not_isBelow_head_listRecords {ss : List Shape} {parent id place offset : Nat}
    (h : parent < place) :
    ∀ r ∈ (listRecords parent id offset ss).head?, r.isBelow place = false := by
  intro r hr
  cases ss with
  | nil => cases hr
  | cons s ss =>
    rw [listRecords, records_eq] at hr
    cases hr
    simpa [Record.isBelow] using h

end Shape

/-! ## Rows of siblings -/

namespace Tree

variable {t : Tree}

/-- The nodes from place `b` up to place `e` are a row of siblings below the node at `parent`, each
with all that is below it, and cover the source from `lo` to `hi`. -/
structure Row (t : Tree) (parent b e lo hi : Nat) : Prop where
  before : parent < b
  places : b ≤ e
  bytes : lo ≤ hi
  slice : ∀ j, b ≤ j → j < e →
    ∃ m, t.source.slice? (t.record j).start (t.record j).stop = some m
  bounds : ∀ j, b ≤ j → j < e → lo ≤ (t.record j).start ∧ (t.record j).stop ≤ hi
  parents : ∀ j, b ≤ j → j < e →
    ∃ p, (t.record j).parent = some p ∧ p < j ∧ (p = parent ∨ b ≤ p)
  within : ∀ j p, b ≤ j → j < e → (t.record j).parent = some p → b ≤ p →
    (t.record p).start ≤ (t.record j).start ∧ (t.record j).stop ≤ (t.record p).stop
  preorder : ∀ i j p, b ≤ i → i < j → j < e → (t.record j).parent = some p → p < i →
    ∃ q, (t.record i).parent = some q ∧ p ≤ q
  siblings : ∀ i j p, b ≤ i → i < j → j < e → (t.record i).parent = some p →
    (t.record j).parent = some p → (t.record i).stop ≤ (t.record j).start

namespace Row

variable {parent b m e lo mid hi : Nat}

theorem nil (hb : parent < b) (h : lo ≤ hi) : t.Row parent b b lo hi := by
  refine ⟨hb, Nat.le_refl b, h, ?_, ?_, ?_, ?_, ?_, ?_⟩ <;> intros <;> omega

theorem parent_mem (h : t.Row parent b e lo hi) {j p : Nat} (hb : b ≤ j) (he : j < e)
    (hp : (t.record j).parent = some p) : p < j ∧ (p = parent ∨ b ≤ p) := by
  obtain ⟨q, hq, hlt, hmem⟩ := h.parents j hb he
  obtain rfl := Option.some.inj (hp.symm.trans hq)
  exact ⟨hlt, hmem⟩

/-- A row behind a row of the same parent. -/
theorem append (h : t.Row parent b m lo mid) (k : t.Row parent m e mid hi) :
    t.Row parent b e lo hi := by
  have hb := h.before
  have hbm := h.places
  have hme := k.places
  have hlo := h.bytes
  have hhi := k.bytes
  constructor
  case before => exact hb
  case places => omega
  case bytes => omega
  case slice =>
    intro j hj hje
    rcases Nat.lt_or_ge j m with hjm | hmj
    · exact h.slice j hj hjm
    · exact k.slice j hmj hje
  case bounds =>
    intro j hj hje
    rcases Nat.lt_or_ge j m with hjm | hmj
    · have := h.bounds j hj hjm
      omega
    · have := k.bounds j hmj hje
      omega
  case parents =>
    intro j hj hje
    rcases Nat.lt_or_ge j m with hjm | hmj
    · exact h.parents j hj hjm
    · obtain ⟨p, hp, hlt, hmem⟩ := k.parents j hmj hje
      exact ⟨p, hp, hlt, by omega⟩
  case within =>
    intro j p hj hje hp hbp
    rcases Nat.lt_or_ge j m with hjm | hmj
    · exact h.within j p hj hjm hp hbp
    · have := k.parent_mem hmj hje hp
      exact k.within j p hmj hje hp (by omega)
  case preorder =>
    intro i j p hi hij hje hp hpi
    rcases Nat.lt_or_ge j m with hjm | hmj
    · exact h.preorder i j p hi hij hjm hp hpi
    · rcases Nat.lt_or_ge i m with him | hmi
      · -- the later node is then one of the siblings
        have := k.parent_mem hmj hje hp
        obtain ⟨q, hq, -, hmem⟩ := h.parents i hi him
        exact ⟨q, hq, by omega⟩
      · exact k.preorder i j p hmi hij hje hp hpi
  case siblings =>
    intro i j p hi hij hje hpi hpj
    rcases Nat.lt_or_ge j m with hjm | hmj
    · exact h.siblings i j p hi hij hjm hpi hpj
    · rcases Nat.lt_or_ge i m with him | hmi
      · have := h.bounds i hi him
        have := k.bounds j hmj hje
        omega
      · exact k.siblings i j p hmi hij hje hpi hpj

/-- A node with the row of its children is a row. -/
theorem node (hb : parent < b) (hp : (t.record b).parent = some parent)
    (hspan : (t.record b).start = lo ∧ (t.record b).stop = hi)
    (hslice : ∃ m, t.source.slice? lo hi = some m) (h : t.Row b (b + 1) e lo hi) :
    t.Row parent b e lo hi := by
  have hbe := h.places
  obtain ⟨hstart, hstop⟩ := hspan
  constructor
  case before => exact hb
  case places => omega
  case bytes => exact h.bytes
  case slice =>
    intro j hj hje
    rcases Nat.eq_or_lt_of_le hj with rfl | hlt
    · rwa [hstart, hstop]
    · exact h.slice j hlt hje
  case bounds =>
    intro j hj hje
    rcases Nat.eq_or_lt_of_le hj with rfl | hlt
    · omega
    · exact h.bounds j hlt hje
  case parents =>
    intro j hj hje
    rcases Nat.eq_or_lt_of_le hj with rfl | hlt
    · exact ⟨parent, hp, hb, Or.inl rfl⟩
    · obtain ⟨p, hp, hlt, hmem⟩ := h.parents j hlt hje
      exact ⟨p, hp, hlt, by omega⟩
  case within =>
    intro j p hj hje hpj hbp
    rcases Nat.eq_or_lt_of_le hj with rfl | hlt
    · obtain rfl := Option.some.inj (hp.symm.trans hpj)
      omega
    · rcases Nat.eq_or_lt_of_le hbp with rfl | hbp
      · have := h.bounds j hlt hje
        omega
      · exact h.within j p hlt hje hpj hbp
  case preorder =>
    intro i j p hi hij hje hpj hpi
    have := h.parent_mem (show b + 1 ≤ j by omega) hje hpj
    exact h.preorder i j p (by omega) hij hje hpj hpi
  case siblings =>
    intro i j p hi hij hje hpi hpj
    have := h.parent_mem (show b + 1 ≤ j by omega) hje hpj
    rcases Nat.eq_or_lt_of_le hi with rfl | hlt
    · obtain rfl := Option.some.inj (hp.symm.trans hpi)
      omega
    · exact h.siblings i j p hlt hij hje hpi hpj

/-- A root with the row of its children is a well-formed tree. -/
theorem wellFormed (hroot : (t.record 0).parent = none)
    (hspan : (t.record 0).start = lo ∧ (t.record 0).stop = hi)
    (hslice : ∃ m, t.source.slice? lo hi = some m) (h : t.Row 0 1 t.size lo hi) :
    t.WellFormed := by
  obtain ⟨hstart, hstop⟩ := hspan
  refine ⟨⟨?nonempty, ?parent, ?slice, ?within⟩, ?preorder, ?siblings⟩
  case nonempty => exact h.places
  case parent =>
    intro j hpos hj
    obtain ⟨p, hp, hlt, -⟩ := h.parents j hpos hj
    exact ⟨p, hp, hlt⟩
  case slice =>
    intro j hj
    rcases Nat.eq_zero_or_pos j with rfl | hpos
    · rwa [hstart, hstop]
    · exact h.slice j hpos hj
  case within =>
    intro j p hj hp
    rcases Nat.eq_zero_or_pos j with rfl | hpos
    · simp [hroot] at hp
    · rcases Nat.eq_zero_or_pos p with rfl | hppos
      · have := h.bounds j hpos hj
        omega
      · exact h.within j p hpos hj hp hppos
  case preorder =>
    intro i j p hij hj hp hpi
    exact h.preorder i j p (by omega) hij hj hp hpi
  case siblings =>
    intro i j p hij hj hpi hpj
    rcases Nat.eq_zero_or_pos i with rfl | hpos
    · simp [hroot] at hpi
    · exact h.siblings i j p hpos hij hj hpi hpj

end Row

/-! ## Where lists stand -/

/-- The nodes stand in the tree from place `id` on, and the text in its source from byte `offset`
on. What is listed behind them is not below the node at `limit`. -/
structure Places (t : Tree) (id offset limit : Nat) (l : List Record) (text : Text) : Prop where
  records : ∃ before after, t.records = before ++ (l ++ after) ∧ before.length = id ∧
    ∀ r ∈ after.head?, r.isBelow limit = false
  source : ∃ before after, t.source = before ++ (text ++ after) ∧ Text.byteLength before = offset

namespace Places

variable {id offset limit : Nat} {r : Record} {l l' : List Record} {text text' : Text}

theorem slice (h : t.Places id offset limit l text) :
    t.source.slice? offset (offset + Text.byteLength text) = some text := by
  obtain ⟨before, after, hsource, rfl⟩ := h.source
  rw [hsource]
  exact Text.slice?_append before text after

theorem record_head (h : t.Places id offset limit (r :: l) text) : t.record id = r := by
  obtain ⟨before, after, hrecords, rfl, -⟩ := h.records
  rw [record, hrecords, List.getElem?_append_right (Nat.le_refl _), Nat.sub_self]
  rfl

/-- The descendants of a node are what is listed behind it. -/
theorem descendantRecords_head (h : t.Places id offset id (r :: l) text)
    (hl : ∀ x ∈ l, x.isBelow id = true) : t.descendantRecords id = l := by
  obtain ⟨before, after, hrecords, rfl, hafter⟩ := h.records
  have hdrop : t.records.drop (before.length + 1) = l ++ after := by
    rw [hrecords, ← List.drop_drop, List.drop_left]
    rfl
  have hnone : after.takeWhile (Record.isBelow before.length) = [] := by
    cases after with
    | nil => rfl
    | cons x after => rw [List.takeWhile_cons, hafter x rfl, if_neg Bool.false_ne_true]
  rw [descendantRecords, hdrop, List.takeWhile_append_of_pos hl, hnone, List.append_nil]

theorem tail (h : t.Places id offset limit (r :: l) text) :
    t.Places (id + 1) offset limit l text := by
  obtain ⟨before, after, hrecords, rfl, hafter⟩ := h.records
  refine ⟨⟨before ++ [r], after, ?_, by simp, hafter⟩, h.source⟩
  simpa using hrecords

theorem left (h : t.Places id offset limit (l ++ l') (text ++ text')) (hlimit : limit ≤ id)
    (hl' : ∀ x ∈ l'.head?, x.isBelow id = false) : t.Places id offset id l text := by
  obtain ⟨before, after, hrecords, hid, hafter⟩ := h.records
  obtain ⟨front, back, hsource, hoffset⟩ := h.source
  refine ⟨⟨before, l' ++ after, by simpa using hrecords, hid, fun x hx => ?_⟩,
    ⟨front, text' ++ back, by simpa using hsource, hoffset⟩⟩
  cases l' with
  | nil => exact Record.not_isBelow_of_le hlimit (hafter x hx)
  | cons y l' => exact hl' x hx

theorem right (h : t.Places id offset limit (l ++ l') (text ++ text')) :
    t.Places (id + l.length) (offset + Text.byteLength text) limit l' text' := by
  obtain ⟨before, after, hrecords, rfl, hafter⟩ := h.records
  obtain ⟨front, back, hsource, rfl⟩ := h.source
  refine ⟨⟨before ++ l, after, by simpa using hrecords, by simp, hafter⟩,
    ⟨front ++ text, back, by simpa using hsource, by simp⟩⟩

end Places

end Tree

/-! ## Reading back what is listed -/

namespace Shape

variable {t : Tree}

/-- Where an inductive tree is listed, the node has its shape, and its descendants are a row. -/
def ReadBack (s : Shape) : Prop :=
  ∀ (t : Tree) (parent : Option Nat) (id offset : Nat),
    t.Places id offset id (s.records parent id offset) s.text →
    Node.shape ⟨t, id⟩ = s ∧ t.Row id (id + 1) (id + (s.records parent id offset).length) offset
      (offset + Text.byteLength s.text)

/-- The places of the children of a node, among what is listed for siblings. -/
def childPlaces (parent id : Nat) (l : List Record) : List Nat :=
  (l.zipIdx id).filterMap fun (r, j) => if r.parent = some parent then some j else none

theorem childPlaces_append (p id : Nat) (l l' : List Record) :
    childPlaces p id (l ++ l') = childPlaces p id l ++ childPlaces p (id + l.length) l' := by
  rw [childPlaces, List.zipIdx_append, List.filterMap_append]
  rfl

theorem childPlaces_cons (p id : Nat) (r : Record) (l : List Record) :
    childPlaces p id (r :: l) =
      (if r.parent = some p then [id] else []) ++ childPlaces p (id + 1) l := by
  rw [childPlaces, List.zipIdx_cons, List.filterMap_cons]
  split <;> simp_all [childPlaces]

theorem childPlaces_eq_nil {p id : Nat} {l : List Record} (h : ∀ r ∈ l, r.parent ≠ some p) :
    childPlaces p id l = [] := by
  rw [childPlaces, List.filterMap_eq_nil_iff]
  rintro ⟨r, j⟩ hmem
  exact if_neg (h r (List.fst_mem_of_mem_zipIdx hmem))

/-- Of what is listed for one of the siblings, only the first is a child of their parent. -/
theorem childPlaces_records_append {s : Shape} {parent id offset : Nat} (hp : parent < id)
    (l : List Record) :
    childPlaces parent id (s.records (some parent) id offset ++ l) =
      id :: childPlaces parent (id + (s.records (some parent) id offset).length) l := by
  have hbelow : childPlaces parent (id + 1) (listRecords id (id + 1) offset s.children) = [] := by
    refine childPlaces_eq_nil fun r hr => ?_
    obtain ⟨q, hq, hle⟩ :=
      Tree.exists_parent_of_isBelow (isBelow_of_mem_listRecords hr (Nat.lt_succ_self id))
    rw [hq, ne_eq, Option.some.injEq]
    omega
  rw [childPlaces_append, records_eq, childPlaces_cons, if_pos rfl, hbelow, List.append_nil]
  rfl

theorem readBack_list {ss : List Shape} {parent id offset : Nat} (ih : ∀ s ∈ ss, s.ReadBack)
    (hp : parent < id)
    (h : t.Places id offset parent (listRecords parent id offset ss) (ss.flatMap text)) :
    (childPlaces parent id (listRecords parent id offset ss)).map (fun j => Node.shape ⟨t, j⟩) =
        ss ∧
      t.Row parent id (id + (listRecords parent id offset ss).length) offset
        (offset + Text.byteLength (ss.flatMap text)) := by
  induction ss generalizing id offset with
  | nil => exact ⟨rfl, .nil hp (by simp)⟩
  | cons s ss ihs =>
    rw [listRecords, List.flatMap_cons] at h ⊢
    have hblock := h.left (Nat.le_of_lt hp) (not_isBelow_head_listRecords hp)
    obtain ⟨hshape, hrow⟩ := ih s List.mem_cons_self t (some parent) id offset hblock
    obtain ⟨hshapes, hrows⟩ := ihs (fun s hs => ih s (List.mem_cons_of_mem _ hs)) (by omega) h.right
    refine ⟨?_, ?_⟩
    · rw [childPlaces_records_append hp, List.map_cons, hshape, hshapes]
    · have hhead : t.record id = _ := (records_eq (some parent) id offset s ▸ hblock).record_head
      have hnode := Tree.Row.node hp (by rw [hhead]) (by rw [hhead]; exact ⟨rfl, rfl⟩)
        ⟨s.text, hblock.slice⟩ hrow
      rw [List.length_append, Text.byteLength_append, ← Nat.add_assoc, ← Nat.add_assoc]
      exact hnode.append hrows

/-- An inductive tree is read back where it is listed. -/
theorem readBack {s : Shape} (hs : s.All Joined) : s.ReadBack := by
  induction s using Shape.induct with
  | node kind named text children ih =>
    obtain ⟨hjoined, hchildren⟩ := hs
    intro t parent id offset h
    have hplaces : t.Places id offset id (⟨parent, kind, named, false, false, false, offset,
        offset + Text.byteLength text, none⟩ :: listRecords id (id + 1) offset children) text := h
    have hread : (childPlaces id (id + 1) (listRecords id (id + 1) offset children)).map
          (fun j => Node.shape ⟨t, j⟩) = children ∧
        t.Row id (id + 1) (id + 1 + (listRecords id (id + 1) offset children).length) offset
          (offset + Text.byteLength text) := by
      rcases hjoined with hnil | hjoin
      · obtain rfl : children = [] := hnil
        exact ⟨rfl, .nil (Nat.lt_succ_self id) (by omega)⟩
      · have hjoin : text = children.flatMap Shape.text := hjoin
        have hrest := hplaces.tail
        rw [hjoin] at hrest ⊢
        exact readBack_list (fun s hs => ih s hs (hchildren s hs)) (Nat.lt_succ_self id) hrest
    obtain ⟨hshapes, hrow⟩ := hread
    have hhead := hplaces.record_head
    have hids : t.childIds id =
        childPlaces id (id + 1) (listRecords id (id + 1) offset children) := by
      rw [Tree.childIds, hplaces.descendantRecords_head fun x hx =>
        isBelow_of_mem_listRecords hx (Nat.lt_succ_self id)]
      rfl
    have hlength : id + (records parent id offset (.node kind named text children)).length =
        id + 1 + (listRecords id (id + 1) offset children).length := by
      rw [records, List.length_cons]
      omega
    have hkind : Node.kind ⟨t, id⟩ = kind := by rw [Node.kind, Node.record, hhead]
    have hnamed : Node.isNamed ⟨t, id⟩ = named := by rw [Node.isNamed, Node.record, hhead]
    have htext : Node.text ⟨t, id⟩ = text := by
      rw [Node.text, Node.start, Node.stop, Node.record, hhead, hplaces.slice]
      rfl
    refine ⟨?_, hlength ▸ hrow⟩
    rw [Node.shape_eq, Node.children, List.map_map, hids, hkind, hnamed, htext]
    exact congrArg _ hshapes

theorem places_toTree (s : Shape) :
    s.toTree.Places 0 0 0 (s.records none 0 0) s.text :=
  ⟨⟨[], [], by simp [toTree], rfl, by simp⟩, ⟨[], [], by simp [toTree], rfl⟩⟩

/-- The tree that lists an inductive tree has its shape. -/
theorem shape_root_toTree {s : Shape} (hs : s.All Joined) : s.toTree.root.shape = s :=
  (readBack hs s.toTree none 0 0 s.places_toTree).1

/-- The tree that lists an inductive tree is well-formed. -/
theorem wellFormed_toTree {s : Shape} (hs : s.All Joined) : s.toTree.WellFormed := by
  have hplaces := s.places_toTree
  obtain ⟨-, hrow⟩ := readBack hs s.toTree none 0 0 hplaces
  have hhead : s.toTree.record 0 = _ := (records_eq none 0 0 s ▸ hplaces).record_head
  have hsize : 0 + (s.records none 0 0).length = s.toTree.size := Nat.zero_add _
  rw [hsize] at hrow
  exact hrow.wellFormed (by rw [hhead]) (by rw [hhead]; exact ⟨rfl, rfl⟩) ⟨s.text, hplaces.slice⟩

/-- No node of a listed tree is marked. -/
theorem unmarked_toTree (s : Shape) {id : Nat} (hid : id < s.toTree.size) :
    (s.toTree.record id).Unmarked := by
  rw [Tree.record_eq hid]
  exact (of_mem_records (List.getElem_mem hid)).2

theorem All.head {P : Shape → Prop} {s : Shape} (h : s.All P) : P s := by
  cases h with
  | intro hp _ => exact hp

theorem All.child {P : Shape → Prop} {s c : Shape} (h : s.All P) (hc : c ∈ s.children) :
    c.All P := by
  cases h with
  | intro _ hall => exact hall c hc

end Shape

namespace Tree

variable {t : Tree} {j p : Nat}

/-- What holds for all subtrees of the root holds for the shape of every node. -/
theorem WellFormed.all_shape (h : t.WellFormed) {P : Shape → Prop} (hroot : t.root.shape.All P)
    (hj : j < t.size) : (Node.shape ⟨t, j⟩).All P := by
  induction j using Nat.strongRecOn with
  | ind j ih =>
    rcases Nat.eq_zero_or_pos j with rfl | hpos
    · exact hroot
    · obtain ⟨p, hp, hlt⟩ := h.parent j hpos hj
      have hchild : ⟨t, j⟩ ∈ Node.children ⟨t, p⟩ :=
        List.mem_map_of_mem (h.preordered.mem_childIds hj hp hlt)
      refine (ih p hlt (by omega)).child ?_
      rw [Node.shape_eq]
      exact List.mem_map_of_mem hchild

end Tree

end StructuralSearch
