import StructuralSearch.Proofs.Roots
import StructuralSearch.Proofs.Tree.Layout

/-!
# Code that is compared inside a function body

Code that parses only in a function body is compared in the tree of the function. A selected kind is
then looked for in the whole tree, so the function, its name and its parameters are found before the
nodes of the code. Without a selector, what is compared is the body, or its only statement.

* `Pattern.Frame`: a function body around code.
* `Pattern.Frame.Holds`, `Pattern.Frame.Stems`: nodes that lie within the code, and those that stem
  from it.
* `Pattern.Frame.selected`: the first node of a kind among those that stem from the code.
* `Pattern.Frame.Surrounds`: the statements of the body lie within the code.

Results:
1. `Pattern.wrappings_eq`: what is tried is each function body around the code.
2. `Pattern.find?_kind_eq_iff`: when the first node of a kind is one that stems from the code.
3. `Pattern.effectiveRoot_of_surrounds`: the root without a selector.
4. `Pattern.compileIn_wrapped_iff`: the root of a pattern whose code parses only in a function body.
5. `wrapper_is_selected`: a function that code is wrapped in is the root of the pattern.
-/

namespace StructuralSearch

/-- In a list in the order of places, the first entry with one property has another one as well
exactly if each entry that lacks the second comes after one that has both. -/
theorem find?_eq_find?_and_iff {α : Type} {l : List α} {place : α → Nat} {p q : α → Bool}
    (h : l.Pairwise fun a b => place a < place b) :
    l.find? p = l.find? (fun a => p a && q a) ↔
      ∀ a ∈ l, p a = true → ¬ q a = true →
        ∃ b ∈ l, p b = true ∧ q b = true ∧ place b < place a := by
  induction l with
  | nil => simp
  | cons x l ih =>
    obtain ⟨hx, hl⟩ := List.pairwise_cons.mp h
    have ih := ih hl
    by_cases hp : p x = true
    · rw [List.find?_cons_of_pos hp]
      by_cases hq : q x = true
      · rw [List.find?_cons_of_pos (by simp [hp, hq])]
        refine iff_of_true rfl (List.forall_mem_cons.mpr ⟨fun _ hnot => absurd hq hnot, ?_⟩)
        exact fun a ha _ _ => ⟨x, List.mem_cons_self, hp, hq, hx a ha⟩
      · refine iff_of_false (fun heq => ?_) fun hall => ?_
        · have hfound := List.find?_some heq.symm
          simp [hq] at hfound
        · obtain ⟨b, hb, -, hqb, hlt⟩ := hall x List.mem_cons_self hp hq
          rcases List.mem_cons.mp hb with rfl | hb
          · exact hq hqb
          · have := hx b hb
            omega
    · rw [List.find?_cons_of_neg hp, List.find?_cons_of_neg (by simp [hp]), ih,
        List.forall_mem_cons]
      simp only [List.exists_mem_cons_iff, hp, Bool.false_eq_true, false_and, false_or,
        false_implies, true_and]

namespace Pattern

/-- A function body around code: what stands before the code, the code as it stands there, what is
added to end it, and what stands behind. -/
structure Frame where
  before : Text
  code : Text
  added : Text
  after : Text

namespace Frame

def text (f : Frame) : Text := f.before ++ f.code ++ f.added ++ f.after

/-- The node lies within the code and what ends it. -/
def Holds (f : Frame) (n : Node) : Prop :=
  Text.byteLength f.before ≤ n.start ∧ n.stop ≤ Text.byteLength (f.before ++ f.code ++ f.added)

/-- The node begins in the code and lies within it and what ends it. -/
def Stems (f : Frame) (n : Node) : Prop :=
  f.Holds n ∧ n.start < Text.byteLength (f.before ++ f.code)

instance (f : Frame) (n : Node) : Decidable (f.Holds n) := inferInstanceAs (Decidable (_ ∧ _))

instance (f : Frame) (n : Node) : Decidable (f.Stems n) := inferInstanceAs (Decidable (_ ∧ _))

/-- The first node of a kind among those that stem from the code. -/
def selected (f : Frame) (tree : Tree) (kind : String) : Except SyntaxError Node :=
  match tree.root.preorder.find? fun n => n.kind == kind && decide (f.Stems n) with
  | some n => .ok n
  | none => .error (.noSelectorInContext kind)

/-- The first node of the tree is a function, and the statements of its body lie within the code. A
body without statements is not one token. -/
structure Surrounds (f : Frame) (tree : Tree) (body : Node) : Prop where
  nested : tree.Nested
  function : ∃ wrapper, tree.root.namedChildren.head? = some wrapper ∧
    wrapper.field? "body" = some body
  statements : ∀ c ∈ body.namedChildren, f.Holds c
  delimited : body.namedChildren = [] → body.children.length ≠ 1

end Frame

/-- The function bodies around code. -/
def frames (builtin : Builtin) (code : Text) : List Frame :=
  match builtin with
  | .rust =>
    let statement := code.trimEnd
    let body (added : Text) : Frame :=
      ⟨"fn ".toList ++ wrapperName ++ "() \x7b ".toList, statement, added, " \x7d".toList⟩
    match statement.getLast? with
    | some ';' | some '}' => [body []]
    | _ => [body [], body [';']]
  | .python =>
    [⟨"def ".toList ++ wrapperName ++ "():\n".toList,
      code.lines.flatMap fun line => "    ".toList ++ line ++ ['\n'], [], []⟩]
  | .typescript =>
    [⟨"function ".toList ++ wrapperName ++ "() \x7b ".toList, code, [], " \x7d".toList⟩]

/-- What is tried for code that does not parse is each function body around it. -/
theorem wrappings_eq (builtin : Builtin) (code : Text) :
    wrappings builtin code = (frames builtin code).map Frame.text := by
  cases builtin with
  | rust =>
    rw [wrappings, frames]
    generalize code.trimEnd.getLast? = last
    dsimp only
    split <;> simp [Frame.text]
  | python => simp [wrappings, frames, Frame.text]
  | typescript => simp [wrappings, frames, Frame.text]

variable {language : Language} {source code : Text} {vars : List Metavariable} {tree : Tree}
  {f : Frame} {body : Node}

/-! ## Selected kinds -/

/-- What is made of the place of a selected node tells which one it is. -/
theorem map_selected_eq_iff {kind : String} (make : Nat → Pattern)
    (hmake : ∀ {i j}, make i = make j → i = j) :
    (Pattern.selected tree kind).map (fun root => make root.id) =
        (f.selected tree kind).map (fun root => make root.id) ↔
      tree.root.preorder.find? (·.kind == kind) =
        tree.root.preorder.find? fun n => n.kind == kind && decide (f.Stems n) := by
  rw [Pattern.selected, Frame.selected]
  cases hfirst : tree.root.preorder.find? (·.kind == kind) with
  | none =>
    cases hstems : tree.root.preorder.find? fun n => n.kind == kind && decide (f.Stems n) with
    | none => exact iff_of_true rfl rfl
    | some m => exact iff_of_false (fun h => by cases h) (fun h => by cases h)
  | some n =>
    cases hstems : tree.root.preorder.find? fun n => n.kind == kind && decide (f.Stems n) with
    | none => exact iff_of_false (fun h => by cases h) (fun h => by cases h)
    | some m =>
      obtain ⟨hn, -⟩ := Node.ofTree_preorder (Node.ofTree_self tree.root)
        (List.mem_of_find?_eq_some hfirst)
      obtain ⟨hm, -⟩ := Node.ofTree_preorder (Node.ofTree_self tree.root)
        (List.mem_of_find?_eq_some hstems)
      obtain ⟨ntree, nid⟩ := n
      obtain ⟨mtree, mid⟩ := m
      obtain rfl : ntree = mtree := hn.trans hm.symm
      refine ⟨fun h => ?_, fun h => by rw [Option.some.inj h]⟩
      obtain rfl := hmake (Except.ok.inj h)
      rfl

/-- The first node of a kind is the first of those that stem from the code exactly if each other
node of the kind comes after one of them. -/
theorem find?_kind_eq_iff {kind : String} :
    tree.root.preorder.find? (·.kind == kind) =
        tree.root.preorder.find? (fun n => n.kind == kind && decide (f.Stems n)) ↔
      ∀ n ∈ tree.root.preorder, n.kind = kind → ¬ f.Stems n →
        ∃ m ∈ tree.root.preorder, m.kind = kind ∧ f.Stems m ∧ m.id < n.id := by
  rw [find?_eq_find?_and_iff tree.root.pairwise_preorder]
  simp only [beq_iff_eq, decide_eq_true_eq]

/-! ## The only statement -/

namespace Frame.Surrounds

theorem unwrapped_of_singleton {only : Node} (h : f.Surrounds tree body)
    (honly : body.namedChildren = [only]) : unwrapped tree.root = only := by
  obtain ⟨wrapper, hwrapper, hbody⟩ := h.function
  simp only [unwrapped, hwrapper, hbody, Option.some_or, honly]

theorem unwrapped_of_length_ne (h : f.Surrounds tree body)
    (hlength : body.namedChildren.length ≠ 1) : unwrapped tree.root = body := by
  obtain ⟨wrapper, hwrapper, hbody⟩ := h.function
  simp only [unwrapped, hwrapper, hbody, Option.some_or]
  split
  · next only honly => simp [honly] at hlength
  · rfl

/-- A body that does not have one statement does not have one child. -/
theorem length_children_ne (h : f.Surrounds tree body)
    (hlength : body.namedChildren.length ≠ 1) : body.children.length ≠ 1 := by
  rcases hnamed : body.namedChildren with - | ⟨c, - | ⟨d, rest⟩⟩
  · exact h.delimited hnamed
  · simp [hnamed] at hlength
  · have hle : body.namedChildren.length ≤ body.children.length := List.length_filter_le _ _
    rw [hnamed, List.length_cons, List.length_cons] at hle
    omega

theorem tree_eq (h : f.Surrounds tree body) : body.tree = tree := by
  obtain ⟨wrapper, hwrapper, hbody⟩ := h.function
  have hwrapper := ofTree_namedChildren (Node.ofTree_self _) (List.mem_of_mem_head? hwrapper)
  exact (Node.ofTree_children hwrapper (List.mem_of_mem_filter (List.mem_of_mem_head? hbody))).1

end Frame.Surrounds

/-- What is looked for below a node within the code lies within the code. -/
theorem holds_throughSingleChildren {n : Node} (hnested : n.tree.Nested) (h : f.Holds n) :
    f.Holds (throughSingleChildren n) := by
  have hpath : (throughSingleChildren n).tree.Nested ∧ f.Holds (throughSingleChildren n) := by
    refine throughSingleChildren_of_children (P := fun m => m.tree.Nested ∧ f.Holds m) ?_
      ⟨hnested, h⟩
    rintro m c ⟨hnested, hstart, hstop⟩ hc
    obtain ⟨id, hid, rfl⟩ := List.mem_map.mp hc
    obtain ⟨hstart', hstop'⟩ := hnested.within id m.id (Tree.mem_childIds hid).2
      (Tree.parent_of_mem_childIds hid)
    exact ⟨hnested, Nat.le_trans hstart hstart', Nat.le_trans hstop' hstop⟩
  exact hpath.2

/-- Where a function surrounds the code, the root is its body, or lies within the code. -/
theorem effectiveRoot_of_surrounds (language : Language) (h : f.Surrounds tree body) :
    ∃ root, effectiveRoot language tree true = .ok root ∧ root.tree = tree ∧
      if body.namedChildren.length = 1 then f.Holds root else root = body := by
  refine ⟨_, effectiveRoot_wrapped, (throughSingleChildren_of_children
    (fun _ _ => Node.ofTree_children) (ofTree_unwrapped tree.root)).1, ?_⟩
  split
  · next hlength =>
    obtain ⟨only, honly⟩ := List.length_eq_one_iff.mp hlength
    have hmem : only ∈ body.namedChildren := by simp [honly]
    have htree : only.tree = tree := by
      obtain ⟨id, -, rfl⟩ := List.mem_map.mp (List.mem_of_mem_filter hmem)
      exact h.tree_eq
    rw [h.unwrapped_of_singleton honly]
    exact holds_throughSingleChildren (htree ▸ h.nested) (h.statements only hmem)
  · next hlength =>
    rw [h.unwrapped_of_length_ne hlength,
      throughSingleChildren_of_length_ne (h.length_children_ne hlength)]

/-! ## Both ways of choosing the root -/

/-- Code that is compared in a function body does not parse on its own. A selected kind gives the
first node of the kind that stems from the code, or fails as if the code stood alone, exactly if
each other node of the kind comes after one that stems from the code. Without a selector, the root is
the body, or lies within the code if the body has only one statement. -/
theorem compileIn_wrapped_iff (hblank : source.isBlankText = false)
    (hprepare : prepare language source = .ok (vars, code))
    (hwrapped : parsePrepared language code = .ok (tree, true)) :
    (∃ plain, Tree.parse language code 0 = .ok plain ∧ plain.hasErrors = true) ∧
    ∃ builtin, language.builtin = some builtin ∧ ∃ f ∈ frames builtin code,
      Tree.parse language f.text 0 = .ok tree ∧ tree.hasErrors = false ∧
      (∀ kind, compileIn language ⟨source, some kind⟩ = (f.selected tree kind).map
          (fun root => ⟨source, language, vars, tree, root.id, .default⟩) ↔
        ∀ n ∈ tree.root.preorder, n.kind = kind → ¬ f.Stems n →
          ∃ m ∈ tree.root.preorder, m.kind = kind ∧ f.Stems m ∧ m.id < n.id) ∧
      ∀ body, f.Surrounds tree body →
        ∃ p, compileIn language ⟨source, none⟩ = .ok p ∧
          if body.namedChildren.length = 1 then f.Holds p.root else p.root = body := by
  rcases parsePrepared_cases hwrapped with ⟨hfalse, -⟩ | ⟨-, hplain, builtin, hbuiltin, hclean⟩
  · cases hfalse
  refine ⟨hplain, builtin, hbuiltin, ?_⟩
  obtain ⟨text, htext, hparse, herrors⟩ := mem_of_firstClean hclean
  rw [wrappings_eq] at htext
  obtain ⟨f, hf, rfl⟩ := List.mem_map.mp htext
  refine ⟨f, hf, hparse, herrors, fun kind => ?_, fun body hbody => ?_⟩
  · rw [compileIn_of_prepared hblank hprepare hwrapped, ← find?_kind_eq_iff]
    exact map_selected_eq_iff (fun id => ⟨source, language, vars, tree, id, .default⟩)
      fun h => (Pattern.mk.inj h).2.2.2.2.1
  · obtain ⟨⟨rtree, rid⟩, hroot, rfl, hwhere⟩ := effectiveRoot_of_surrounds language hbody
    refine ⟨⟨source, language, vars, rtree, rid, .default⟩, ?_, hwhere⟩
    rw [compileIn_of_prepared hblank hprepare hwrapped, chosenRoot, hroot]
    rfl

end Pattern

/-! ## A statement that parses in a function body -/

/-- The parse of `fn __heddle_pattern_wrapper__() { let __HEDDLE_MV_A__ = b; }`. -/
def letRecords : List Record :=
  [.plain none "source_file" true 0 60, .plain (some 0) "function_item" true 0 60,
    .plain (some 1) "fn" false 0 2, .plain (some 1) "identifier" true 3 29,
    .plain (some 1) "parameters" true 29 31,
    { Record.plain (some 1) "block" true 32 60 with field := some "body" },
    .plain (some 5) "\x7b" false 32 33, .plain (some 5) "let_declaration" true 34 58,
    .plain (some 7) "let" false 34 37, .plain (some 7) "identifier" true 38 53,
    .plain (some 7) "=" false 54 55, .plain (some 7) "identifier" true 56 57,
    .plain (some 7) ";" false 57 58, .plain (some 5) "\x7d" false 59 60]

/-- A language whose parser knows one function, and meets an error in any other text. -/
def letInFunction : Language := .ofBuiltin .rust
  ⟨fun text =>
    if text = "fn __heddle_pattern_wrapper__() \x7b let __HEDDLE_MV_A__ = b; \x7d".toList then
      some letRecords
    else some [⟨none, "source_file", true, false, false, true, 0, 0, none⟩],
    fun _ => true, fun _ => true⟩

/-- The function that the statement is parsed in. -/
def letTree : Tree :=
  ⟨0, letInFunction,
    "fn __heddle_pattern_wrapper__() \x7b let __HEDDLE_MV_A__ = b; \x7d".toList, letRecords⟩

theorem prepare_let : Pattern.prepare letInFunction "let $A = b".toList =
    .ok ([⟨"A", .single, 4⟩], "let __HEDDLE_MV_A__ = b".toList) := by
  have hcheck : ((Pattern.prepare letInFunction "let $A = b".toList).toOption.any fun prepared =>
      decide (prepared = ([⟨"A", .single, 4⟩], "let __HEDDLE_MV_A__ = b".toList))) = true := by
    decide +kernel
  obtain ⟨prepared, hprepared, heq⟩ := Except.exists_of_any_toOption hcheck
  rw [hprepared, of_decide_eq_true heq]

/-- The statement stems from the code, and no node of its kind comes before it. So selecting the kind
gives the statement. Without a selector, the root lies within the code. -/
theorem compileIn_let : ∃ f ∈ Pattern.frames .rust "let __HEDDLE_MV_A__ = b".toList,
    Pattern.compileIn letInFunction ⟨"let $A = b".toList, some "let_declaration"⟩ =
      (f.selected letTree "let_declaration").map (fun root =>
        ⟨"let $A = b".toList, letInFunction, [⟨"A", .single, 4⟩], letTree, root.id, .default⟩) ∧
    ∃ p, Pattern.compileIn letInFunction ⟨"let $A = b".toList, none⟩ = .ok p ∧
      f.Holds p.root := by
  have hwrapped : Pattern.parsePrepared letInFunction "let __HEDDLE_MV_A__ = b".toList =
      .ok (letTree, true) := rfl
  obtain ⟨-, builtin, hbuiltin, f, hf, hparse, -, hselected, hroot⟩ :=
    Pattern.compileIn_wrapped_iff (by decide) prepare_let hwrapped
  obtain rfl : Builtin.rust = builtin := Option.some.inj hbuiltin
  have hframe : ∀ f ∈ Pattern.frames .rust "let __HEDDLE_MV_A__ = b".toList,
      f.text = letTree.source → f.Holds ⟨letTree, 7⟩ ∧ ∀ n ∈ letTree.root.preorder,
        n.kind = "let_declaration" → f.Stems n := by
    decide +kernel
  obtain ⟨hholds, hstems⟩ := hframe f hf (Tree.source_of_parse hparse).symm
  have hstatements : Node.namedChildren ⟨letTree, 5⟩ = [⟨letTree, 7⟩] := rfl
  have hbody : f.Surrounds letTree ⟨letTree, 5⟩ :=
    { nested := Tree.WellFormed.toNested (by decide)
      function := ⟨⟨letTree, 1⟩, rfl, rfl⟩
      statements := by simpa [hstatements] using hholds
      delimited := by simp [hstatements] }
  refine ⟨f, hf, (hselected "let_declaration").mpr ?_, ?_⟩
  · exact fun n hn hkind hnot => absurd (hstems n hn hkind) hnot
  · simpa [hstatements] using hroot ⟨letTree, 5⟩ hbody

/-- The code of the pattern does not parse on its own, and no node of the kind stems from it. The
function that it is wrapped in has the kind and becomes the root. -/
theorem wrapper_is_selected :
    ∃ p, Pattern.compileIn letInFunction ⟨"let $A = b".toList, some "function_item"⟩ = .ok p ∧
      p.root.start = 0 ∧ p.root.kind = "function_item" ∧
      ∀ f ∈ Pattern.frames .rust "let __HEDDLE_MV_A__ = b".toList,
        ∀ n ∈ p.tree.root.preorder, n.kind = "function_item" → ¬ f.Stems n := by
  have hcompiled : ((Pattern.compileIn letInFunction
      ⟨"let $A = b".toList, some "function_item"⟩).toOption.any fun p =>
        decide (p.root.start = 0 ∧ p.root.kind = "function_item" ∧
          ∀ f ∈ Pattern.frames .rust "let __HEDDLE_MV_A__ = b".toList,
            ∀ n ∈ p.tree.root.preorder, n.kind = "function_item" → ¬ f.Stems n)) = true := by
    decide +kernel
  obtain ⟨p, hp, hcheck⟩ := Except.exists_of_any_toOption hcompiled
  exact ⟨p, hp, of_decide_eq_true hcheck⟩

end StructuralSearch
