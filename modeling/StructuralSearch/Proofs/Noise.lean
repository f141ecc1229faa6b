import StructuralSearch.Proofs.Matching.Samples
import StructuralSearch.Proofs.Roots
import StructuralSearch.Proofs.Search

/-!
# Patterns with errors

A parser marks what it could not place as an error node and what it had to insert as a missing node.
A pattern in whose tree there are such nodes is noisy. Candidates of a tree without such nodes are
never like them: no other node has the kind of an error node, and no other node of the kind of a
token is empty. But what is compared is not the whole tree of a pattern. The root that candidates
are compared with may lie below the error node; a node that may go without a partner is passed over,
a node that reads like a placeholder is a placeholder, and where texts are ignored, a missing node
is like any other of its kind.

* `Tree.Marked`: how a parser marks nodes.
* `Node.Compared`: the nodes of a pattern that a comparison looks at.
* `Pattern.ComparesNoise`: a node that is marked is looked at, and asks for a node that is like it.

Results:
1. `Pattern.marked_of_compileIn`: the tree and the root of a compiled pattern.
2. `Pattern.comparesNoise_iff`: which patterns find nothing in any tree without marks.
3. `noise_above_root_matches`: a noisy pattern that matches a node of a tree without marks.
-/

namespace StructuralSearch

/-! ## Marks of a parser -/

/-- How a parser marks the nodes of a tree: error nodes are those of one kind. Missing nodes are
tokens without text; other tokens are read from the source and are not empty. The root tells whether
there is a marked node. -/
structure Tree.Marked (token : String → Prop) (t : Tree) : Prop where
  nonempty : 0 < t.size
  error : ∀ id < t.size, Node.isError ⟨t, id⟩ = true ↔ Node.kind ⟨t, id⟩ = "ERROR"
  missing : ∀ id < t.size,
    Node.isMissing ⟨t, id⟩ = true ↔ token (Node.kind ⟨t, id⟩) ∧ Node.text ⟨t, id⟩ = []
  token : ∀ id < t.size, token (Node.kind ⟨t, id⟩) → t.childIds id = []
  root : t.hasErrors = true ↔
    ∃ id < t.size, Node.isError ⟨t, id⟩ = true ∨ Node.isMissing ⟨t, id⟩ = true

/-- The tree has neither error nodes nor missing nodes. -/
def Tree.Clean (t : Tree) : Prop :=
  ∀ id < t.size, Node.isError ⟨t, id⟩ = false ∧ Node.isMissing ⟨t, id⟩ = false

/-- The parser of the language marks the nodes of its trees in this way. -/
def Language.Marks (token : String → Prop) (language : Language) : Prop :=
  ∀ text t, Tree.parse language text 0 = .ok t → t.Marked token

variable {token : String → Prop}

theorem Tree.marked_iff {t : Tree} :
    t.Marked token ↔ 0 < t.size ∧
      (∀ id < t.size, (Node.isError ⟨t, id⟩ = true ↔ Node.kind ⟨t, id⟩ = "ERROR") ∧
        (Node.isMissing ⟨t, id⟩ = true ↔
          token (Node.kind ⟨t, id⟩) ∧ Node.text ⟨t, id⟩ = []) ∧
        (token (Node.kind ⟨t, id⟩) → t.childIds id = [])) ∧
      (t.hasErrors = true ↔
        ∃ id < t.size, Node.isError ⟨t, id⟩ = true ∨ Node.isMissing ⟨t, id⟩ = true) := by
  constructor
  · rintro ⟨hsize, herror, hmissing, htoken, hroot⟩
    exact ⟨hsize, fun id hid => ⟨herror id hid, hmissing id hid, htoken id hid⟩, hroot⟩
  · rintro ⟨hsize, hall, hroot⟩
    exact ⟨hsize, fun id hid => (hall id hid).1, fun id hid => (hall id hid).2.1,
      fun id hid => (hall id hid).2.2, hroot⟩

instance [DecidablePred token] (t : Tree) : Decidable (t.Marked token) :=
  decidable_of_iff _ Tree.marked_iff.symm

instance (t : Tree) : Decidable t.Clean := inferInstanceAs (Decidable (∀ id < t.size, _))

theorem Tree.Marked.shape_children {t : Tree} {id : Nat} (h : t.Marked token) (hid : id < t.size)
    (htoken : token (Node.kind ⟨t, id⟩)) : (Node.shape ⟨t, id⟩).children = [] := by
  rw [Node.children_shape, Node.children, h.token id hid htoken]
  rfl

theorem Tree.clean_of_unmarked {t : Tree} (h : ∀ id < t.size, (t.record id).Unmarked) : t.Clean :=
  fun id hid => ⟨(h id hid).1, (h id hid).2.1⟩

/-- A tree without marks is as a parser delivers it if no node is like a marked one. -/
theorem Tree.WellFormed.marked {t : Tree} (h : t.WellFormed)
    (hunmarked : ∀ id < t.size, (t.record id).Unmarked)
    (hall : t.root.shape.All fun s =>
      s.kind ≠ "ERROR" ∧ (token s.kind → s.children = [] ∧ s.text ≠ [])) : t.Marked token := by
  have hnode : ∀ id < t.size, Node.kind ⟨t, id⟩ ≠ "ERROR" ∧
      (token (Node.kind ⟨t, id⟩) → t.childIds id = [] ∧ Node.text ⟨t, id⟩ ≠ []) := by
    intro id hid
    obtain ⟨hkind, htoken⟩ := (h.all_shape hall hid).head
    rw [Node.kind_shape, Node.text_shape, Node.children_shape, Node.children, List.map_map,
      List.map_eq_nil_iff] at htoken
    rw [Node.kind_shape] at hkind
    exact ⟨hkind, htoken⟩
  have hclean := clean_of_unmarked hunmarked
  constructor
  case nonempty => exact h.nonempty
  case error =>
    intro id hid
    exact iff_of_false (by simp [(hclean id hid).1]) (hnode id hid).1
  case missing =>
    intro id hid
    refine iff_of_false (by simp [(hclean id hid).2]) ?_
    rintro ⟨htoken, hempty⟩
    exact ((hnode id hid).2 htoken).2 hempty
  case token =>
    intro id hid htoken
    exact ((hnode id hid).2 htoken).1
  case root =>
    have hroot : t.hasErrors = false := (hunmarked 0 h.nonempty).2.2
    refine iff_of_false (by simp [hroot]) ?_
    rintro ⟨id, hid, hmark⟩
    simp [hclean id hid] at hmark

namespace Env

theorem exists_bindMultiple_empty (name : String) (run : List Node) :
    ∃ e, Env.empty.bindMultiple name run = some e := by
  by_cases ha : name = Metavariable.anonymous
  · exact ⟨_, bindMultiple_eq_some_iff.mpr (Or.inl ⟨ha, rfl⟩)⟩
  · exact ⟨_, bindMultiple_eq_some_iff.mpr (Or.inr ⟨ha, Or.inr ⟨rfl, rfl⟩⟩)⟩

theorem exists_merge_empty (b : Env) : ∃ e, Env.empty.merge b = some e :=
  ⟨_, if_pos (by simp [NameMap.compatible, empty])⟩

end Env

/-! ## Nodes that are compared -/

namespace Node

variable {x : Char} {level : Strictness} {n m : Node}

/-- The nodes of a pattern that a comparison looks at: the first one, and below a node that stands
for no variable the children that are not left without a partner, and what is looked at below
them. -/
inductive Compared (x : Char) (level : Strictness) : Node → Node → Prop
  | self (n : Node) : Compared x level n n
  | child {n c m : Node} : n.shape.metavariable? x = none → c ∈ n.children →
      c.shape.isLeft x level = false → Compared x level c m → Compared x level n m

theorem Compared.shape (h : Compared x level n m) :
    Shape.Compared x level n.shape m.shape := by
  induction h with
  | self n => exact .self n.shape
  | @child n c m hnone hc hl _ ih =>
    refine .child hnone ?_ hl ih
    rw [children_shape]
    exact List.mem_map_of_mem hc

theorem Compared.ofTree (h : Compared x level n m) : OfTree n m := by
  induction h with
  | self n => exact ofTree_self n
  | @child n c m _ hc _ _ ih => exact (ofTree_children (ofTree_self n) hc).trans ih

theorem exists_compared {s d : Shape} (h : Shape.Compared x level s d) (hn : n.shape = s) :
    ∃ m, Compared x level n m ∧ m.shape = d := by
  induction h generalizing n with
  | self s => exact ⟨n, .self n, hn⟩
  | @child s k d hnone hk hl _ ih =>
    rw [← hn, children_shape] at hk
    obtain ⟨c, hc, rfl⟩ := List.mem_map.mp hk
    obtain ⟨m, hm, hd⟩ := ih rfl
    exact ⟨m, .child (hn ▸ hnone) hc hl hm, hd⟩

end Node

namespace Pattern

variable {language : Language} {context : PatternContext} {p : Pattern}

/-- A marked node is looked at, and asks for a node that is like it: an error node, or a missing
node where texts count. -/
def ComparesNoise (p : Pattern) : Prop :=
  ∃ n, Node.Compared p.language.expando p.strictness p.root n ∧
    n.shape.metavariable? p.language.expando = none ∧
    (n.isError = true ∨ p.strictness.comparesText = true ∧ n.isMissing = true)

/-! ## What noise does -/

/-- A compiled pattern lives in a tree with marks, and its root is one of the nodes. -/
theorem marked_of_compileIn (hmarks : language.Marks token)
    (h : compileIn language context = .ok p) : p.tree.Marked token ∧ p.rootId < p.tree.size := by
  obtain ⟨⟨text, hparse⟩, hof⟩ := root_of_compileIn h
  have hmarked := hmarks text p.tree hparse
  exact ⟨hmarked, (hof.listed hmarked.nonempty).2⟩

variable {e : Env}

/-- A pattern with a marked node that is looked at matches no node of a tree without marks. -/
theorem matchNode_of_comparesNoise (hmarked : p.tree.Marked token)
    (hroot : p.rootId < p.tree.size) (hnoise : p.ComparesNoise) {t : Tree} (ht : t.Marked token)
    (hclean : t.Clean) {id : Nat} (hid : id < t.size) : p.matchNode ⟨t, id⟩ e = none := by
  by_contra hsome
  obtain ⟨e', hmatch⟩ := Option.ne_none_iff_exists'.mp hsome
  obtain ⟨b, hb, -⟩ := Option.bind_eq_some_iff.mp hmatch
  obtain ⟨⟨ktree, kid⟩, hk, hnone, hflag⟩ := hnoise
  obtain ⟨⟨ntree, nid⟩, hn, hkind, htext⟩ := Matching.exists_alike_of_node hb hk.shape hnone
  obtain ⟨rfl, hkid⟩ := hk.ofTree.listed hroot
  obtain ⟨rfl, hnid⟩ := hn.listed hid
  obtain ⟨herror, hmissing⟩ := hclean nid hnid
  rw [Node.kind_shape] at hkind
  rcases hflag with hflag | ⟨hcompares, hflag⟩
  · have hk := (hmarked.error kid hkid).mp hflag
    have hn := (ht.error nid hnid).mpr (hkind.symm.trans hk)
    simp [hn] at herror
  · obtain ⟨htoken, hempty⟩ := (hmarked.missing kid hkid).mp hflag
    have htext := htext (hmarked.shape_children hkid htoken) hcompares
    rw [Node.text_shape, hempty] at htext
    have hn := (ht.missing nid hnid).mpr ⟨hkind ▸ htoken, htext.symm⟩
    simp [hn] at hmissing

/-- The sample of a pattern in which no marked node is looked at has no node that is like one. -/
theorem all_sample_of_not_comparesNoise (hmarked : p.tree.Marked token)
    (hroot : p.rootId < p.tree.size) (hnoise : ¬ p.ComparesNoise) :
    (p.root.shape.sample p.language.expando p.strictness).All fun s =>
      s.kind ≠ "ERROR" ∧ (token s.kind → s.children = [] ∧ s.text ≠ []) := by
  refine Shape.all_sample ⟨by decide, fun _ => ⟨rfl, List.cons_ne_nil _ _⟩⟩ fun d hd hnone => ?_
  obtain ⟨⟨ktree, kid⟩, hk, rfl⟩ := Node.exists_compared hd rfl
  obtain ⟨rfl, hkid⟩ := hk.ofTree.listed hroot
  have herror : Node.kind ⟨p.tree, kid⟩ ≠ "ERROR" := fun hkind =>
    hnoise ⟨_, hk, hnone, Or.inl ((hmarked.error kid hkid).mpr hkind)⟩
  by_cases hc : (Node.shape ⟨p.tree, kid⟩).children = []
  · rw [Shape.sample_of_leaf hnone hc, Node.kind_shape, Node.text_shape]
    refine ⟨herror, fun htoken => ⟨rfl, fun hempty => ?_⟩⟩
    rcases ite_eq_iff.mp hempty with ⟨hcompares, hempty⟩ | ⟨-, hfilled⟩
    · have hmissing := (hmarked.missing kid hkid).mpr ⟨htoken, hempty⟩
      exact hnoise ⟨_, hk, hnone, Or.inr ⟨hcompares, hmissing⟩⟩
    · cases hfilled
  · rw [Shape.sample_of_branch hnone hc, Node.kind_shape]
    exact ⟨herror, fun htoken => absurd (hmarked.shape_children hkid htoken) hc⟩

/-- A pattern in which no marked node is looked at matches a tree without marks. -/
theorem exists_match_of_not_comparesNoise (hmarked : p.tree.Marked token)
    (hroot : p.rootId < p.tree.size) (hnoise : ¬ p.ComparesNoise) :
    ∃ t : Tree, t.WellFormed ∧ t.Marked token ∧ t.Clean ∧
      ∃ e, p.matchNode t.root .empty = some e := by
  set s := p.root.shape.sample p.language.expando p.strictness
  have hjoined : s.All Shape.Joined := p.root.shape.joined_sample
  have hwf := Shape.wellFormed_toTree hjoined
  have hshape : s.toTree.root.shape = s := Shape.shape_root_toTree hjoined
  have hall : s.toTree.root.shape.All fun s =>
      s.kind ≠ "ERROR" ∧ (token s.kind → s.children = [] ∧ s.text ≠ []) := by
    rw [hshape]
    exact all_sample_of_not_comparesNoise hmarked hroot hnoise
  have hunmarked : ∀ id < s.toTree.size, (s.toTree.record id).Unmarked :=
    fun id hid => s.unmarked_toTree hid
  refine ⟨s.toTree, hwf, hwf.marked hunmarked hall, Tree.clean_of_unmarked hunmarked, ?_⟩
  obtain ⟨b, hb⟩ : ∃ b, p.bindings? s.toTree.root = some b := by
    cases hr : p.root.shape.isRun p.language.expando with
    | false =>
      obtain ⟨b, hb, -⟩ := Matching.exists_node_of_sample hr hshape Env.plain_empty
      exact ⟨b, hb⟩
    | true =>
      -- a pattern that is nothing but a run captures any node
      obtain ⟨name, hm⟩ := Shape.metavariable?_of_isRun hr
      obtain ⟨b, hb⟩ := Env.exists_bindMultiple_empty name [s.toTree.root]
      exact ⟨b, Matching.node_eq_some_iff.mpr (Or.inr (Or.inl ⟨name, hm, hb⟩))⟩
  obtain ⟨e, he⟩ := Env.exists_merge_empty b
  exact ⟨e, by rw [matchNode, hb, Option.bind_some, he]⟩

/-- A pattern that compares noise did not parse cleanly. -/
theorem isNoisy_of_comparesNoise (hmarked : p.tree.Marked token) (hroot : p.rootId < p.tree.size)
    (hnoise : p.ComparesNoise) : p.isNoisy = true := by
  obtain ⟨⟨ktree, kid⟩, hk, -, hflag⟩ := hnoise
  obtain ⟨rfl, hkid⟩ := hk.ofTree.listed hroot
  exact hmarked.root.mpr ⟨kid, hkid, hflag.imp_right And.right⟩

/-- For each level, the compiled patterns that find nothing in any tree without marks are those in
which a marked node is looked at. All of them are noisy. -/
theorem comparesNoise_iff (hmarks : language.Marks token) (h : compileIn language context = .ok p)
    (level : Strictness) :
    ((p.withStrictness level).ComparesNoise → p.isNoisy = true) ∧
      ((p.withStrictness level).ComparesNoise ↔
        ∀ t : Tree, t.WellFormed → t.Marked token → t.Clean → ∀ id < t.size,
          Node.findAll ⟨t, id⟩ (p.withStrictness level).matchNode = [] ∧
            Node.find ⟨t, id⟩ (p.withStrictness level).matchNode = none) := by
  obtain ⟨hmarked, hroot⟩ := marked_of_compileIn hmarks h
  change (p.withStrictness level).tree.Marked token at hmarked
  change (p.withStrictness level).rootId < (p.withStrictness level).tree.size at hroot
  refine ⟨isNoisy_of_comparesNoise hmarked hroot, ?_, ?_⟩
  · intro hnoise t _ ht hclean id hid
    refine Node.findAll_eq_nil fun i hi => ?_
    exact matchNode_of_comparesNoise hmarked hroot hnoise ht hclean
      (Nat.lt_of_lt_of_le hi (Tree.subtreeEnd_le hid))
  · intro hinert
    by_contra hnoise
    obtain ⟨t, hwf, ht, hclean, e, he⟩ := exists_match_of_not_comparesNoise hmarked hroot hnoise
    exact (Node.findAll_ne_nil he).1 (hinert t hwf ht hclean 0 hwf.nonempty).1

end Pattern

/-! ## Two brackets -/

/-- The tokens of `brackets`. -/
def IsBracket (kind : String) : Prop := kind ∈ ["(", ")", "[", "]"]

instance : DecidablePred IsBracket := fun kind =>
  inferInstanceAs (Decidable (kind ∈ ["(", ")", "[", "]"]))

/-- A language of four texts. Where a closing bracket is missing, the parser inserts it; where an
opening bracket is missing, the closing one is an error. -/
def brackets : Language := .parsing fun text =>
  if text = "()".toList then
    some [.plain none "program" true 0 2, .plain (some 0) "(" false 0 1,
      .plain (some 0) ")" false 1 2]
  else if text = "[]".toList then
    some [.plain none "program" true 0 2, .plain (some 0) "[" false 0 1,
      .plain (some 0) "]" false 1 2]
  else if text = "(".toList then
    some [⟨none, "program", true, false, false, true, 0, 1, none⟩,
      .plain (some 0) "(" false 0 1, ⟨some 0, ")", false, false, true, true, 1, 1, none⟩]
  else if text = "]".toList then
    some [⟨none, "program", true, false, false, true, 0, 1, none⟩,
      ⟨some 0, "ERROR", true, true, false, true, 0, 1, none⟩, .plain (some 1) "]" false 0 1]
  else none

theorem marks_brackets : brackets.Marks IsBracket := by
  intro text t h
  rw [Tree.parse] at h
  split at h
  · next records hrecords =>
    cases h
    simp only [brackets, Language.parsing] at hrecords
    split_ifs at hrecords with h1 h2 h3 h4 <;> cases hrecords <;> subst text <;> decide
  · cases h

/-- A tree of `brackets` without marks. -/
def bracketsTree : Tree :=
  ⟨0, brackets, "[]".toList, [.plain none "program" true 0 2, .plain (some 0) "[" false 0 1,
    .plain (some 0) "]" false 1 2]⟩

/-- A pattern whose closing bracket is missing. Where the bracket needs a partner, it finds
nothing. -/
theorem comparesNoise_openBracket :
    ∃ p, Pattern.compile brackets "(".toList = .ok p ∧ p.isNoisy = true ∧
      bracketsTree.root.findAll (p.withStrictness .smart).matchNode = [] := by
  have hcompiled : ((Pattern.compile brackets "(".toList).toOption.any fun p =>
      (p.root.shape.metavariable? p.language.expando).isNone && p.root.children.any fun c =>
        !c.shape.isLeft p.language.expando .smart &&
          ((c.shape.metavariable? p.language.expando).isNone && c.isMissing)) = true := by
    decide +kernel
  obtain ⟨p, hp, hcheck⟩ := Pattern.exists_compile hcompiled
  obtain ⟨hroot, hchild⟩ := Bool.and_eq_true_iff.mp hcheck
  obtain ⟨c, hc, hcheck⟩ := List.any_eq_true.mp hchild
  obtain ⟨hleft, hcheck⟩ := Bool.and_eq_true_iff.mp hcheck
  obtain ⟨hnone, hmissing⟩ := Bool.and_eq_true_iff.mp hcheck
  have hcompared : Node.Compared p.language.expando .smart p.root c :=
    .child (Option.isNone_iff_eq_none.mp hroot) hc (by simpa using hleft) (.self c)
  have hnoise : (p.withStrictness .smart).ComparesNoise :=
    ⟨c, hcompared, Option.isNone_iff_eq_none.mp hnone, Or.inr ⟨rfl, hmissing⟩⟩
  obtain ⟨hnoisy, hinert⟩ := Pattern.comparesNoise_iff marks_brackets hp .smart
  exact ⟨p, hp, hnoisy hnoise, (hinert.mp hnoise bracketsTree (by decide)
    (by decide) (by decide) 0 (by decide)).1⟩

/-- The root of this pattern lies below the error node. The pattern is noisy, and at each level it
matches a bracket of a tree without marks. -/
theorem noise_above_root_matches :
    ∃ p, Pattern.compile brackets "]".toList = .ok p ∧ p.isNoisy = true ∧
      bracketsTree.WellFormed ∧ bracketsTree.Marked IsBracket ∧ bracketsTree.Clean ∧
      ∀ level, (bracketsTree.root.findAll (p.withStrictness level).matchNode).map (·.node.id) =
        [2] := by
  have hcompiled : ((Pattern.compile brackets "]".toList).toOption.any fun p =>
      decide (p.isNoisy = true ∧ ∀ level ∈ Strictness.all,
        (bracketsTree.root.findAll (p.withStrictness level).matchNode).map (·.node.id) = [2])) =
      true := by decide +kernel
  obtain ⟨p, hp, hfound⟩ := Pattern.exists_compile hcompiled
  obtain ⟨hnoisy, hfound⟩ := of_decide_eq_true hfound
  refine ⟨p, hp, hnoisy, by decide, by decide, by decide, fun level => ?_⟩
  exact hfound level (by cases level <;> decide)

end StructuralSearch
