import StructuralSearch.Pattern.Basic
import StructuralSearch.Proofs.Except
import StructuralSearch.Proofs.Tree.Navigation

/-!
# Trees and roots of compiled patterns

A pattern lives in the tree of its code, or of a function body around the code, and its root is one
of the nodes of the tree.

Results:
1. `Pattern.parsePrepared_cases`: which tree a pattern lives in.
2. `Pattern.throughSingleChildren_of_children`, `Pattern.ofTree_unwrapped`: where the root is looked
   for.
3. `Pattern.compileIn_of_prepared`, `Pattern.exists_of_compileIn`: compiling a pattern is choosing
   the root in the tree.
4. `Pattern.root_of_compileIn`: the root of a compiled pattern is a node of a tree that was parsed.
-/

namespace StructuralSearch

theorem Tree.source_of_parse {language : Language} {text : Text} {stamp : Nat} {tree : Tree}
    (h : Tree.parse language text stamp = .ok tree) : tree.source = text := by
  rw [Tree.parse] at h
  split at h
  · cases h
    rfl
  · cases h

namespace Pattern

variable {language : Language} {context : PatternContext} {source code : Text}
  {vars : List Metavariable} {tree : Tree} {wrapped : Bool} {p : Pattern}

/-! ## Trees -/

theorem mem_of_firstClean {texts : List Text} (h : firstClean language texts = .ok (some tree)) :
    ∃ text ∈ texts, Tree.parse language text 0 = .ok tree ∧ tree.hasErrors = false := by
  induction texts with
  | nil => cases h
  | cons text rest ih =>
    obtain ⟨t, ht, h⟩ := Except.bind_eq_ok_iff.mp h
    split at h
    · obtain ⟨text', hmem, hparse⟩ := ih h
      exact ⟨text', List.mem_cons_of_mem text hmem, hparse⟩
    · next hclean =>
      cases h
      exact ⟨text, List.mem_cons_self, ht, Bool.not_eq_true _ ▸ hclean⟩

/-- A pattern lives in the tree of its code, or its code does not parse on its own and it lives in
the tree of the first function body that does. -/
theorem parsePrepared_cases (h : parsePrepared language code = .ok (tree, wrapped)) :
    wrapped = false ∧ Tree.parse language code 0 = .ok tree ∨
      wrapped = true ∧ (∃ plain, Tree.parse language code 0 = .ok plain ∧ plain.hasErrors = true) ∧
        ∃ builtin, language.builtin = some builtin ∧
          firstClean language (wrappings builtin code) = .ok (some tree) := by
  obtain ⟨plain, hplain, h⟩ := Except.bind_eq_ok_iff.mp h
  split at h
  · cases h
    exact Or.inl ⟨rfl, hplain⟩
  next herrors =>
    split at h
    · cases h
      exact Or.inl ⟨rfl, hplain⟩
    next builtin hbuiltin =>
      obtain ⟨found, hfound, h⟩ := Except.bind_eq_ok_iff.mp h
      cases found with
      | none =>
        cases h
        exact Or.inl ⟨rfl, hplain⟩
      | some clean =>
        cases h
        exact Or.inr ⟨rfl, ⟨plain, hplain, by simpa using herrors⟩, builtin, hbuiltin, hfound⟩

theorem parse_of_parsePrepared (h : parsePrepared language code = .ok (tree, wrapped)) :
    ∃ text, Tree.parse language text 0 = .ok tree := by
  rcases parsePrepared_cases h with ⟨-, hparse⟩ | ⟨-, -, builtin, -, hclean⟩
  · exact ⟨code, hparse⟩
  · obtain ⟨text, -, hparse, -⟩ := mem_of_firstClean hclean
    exact ⟨text, hparse⟩

/-! ## Roots -/

/-- What goes from a node to its children is kept on the way through single children. -/
theorem throughSingleChildren_of_children {P : Node → Prop} {n : Node}
    (hchild : ∀ n c, P n → c ∈ n.children → P c) (h : P n) : P (throughSingleChildren n) := by
  induction n using throughSingleChildren.induct with
  | case1 n c hc ih =>
    rw [throughSingleChildren]
    split
    · next c' hc' =>
      obtain rfl : c = c' := by simpa using hc.symm.trans hc'
      exact ih (hchild n c h (by simp [hc]))
    · exact h
  | case2 n hn =>
    rw [throughSingleChildren]
    split
    · next c hc => exact absurd hc (hn c)
    · exact h

theorem throughSingleChildren_of_length_ne {n : Node} (h : n.children.length ≠ 1) :
    throughSingleChildren n = n := by
  rw [throughSingleChildren]
  split
  · next c hc => simp [hc] at h
  · rfl

theorem ofTree_namedChildren {origin n m : Node} (h : Node.OfTree origin n)
    (hm : m ∈ n.namedChildren) : Node.OfTree origin m :=
  Node.ofTree_children h (List.mem_of_mem_filter hm)

theorem ofTree_unwrapped (root : Node) : Node.OfTree root (unwrapped root) := by
  have hroot := Node.ofTree_self root
  rw [unwrapped]
  split
  · exact hroot
  · next wrapper hwrapper =>
    have hwrapper := ofTree_namedChildren hroot (List.mem_of_mem_head? hwrapper)
    dsimp only
    split
    · exact hwrapper
    · next body hbody =>
      have hbody : Node.OfTree root body := by
        rcases Option.or_eq_some_iff.mp hbody with hfield | ⟨-, hblock⟩
        · exact Node.ofTree_children hwrapper
            (List.mem_of_mem_filter (List.mem_of_mem_head? hfield))
        · exact ofTree_namedChildren hwrapper (List.mem_of_find?_eq_some hblock)
      split
      · next only honly => exact ofTree_namedChildren hbody (by simp [honly])
      · exact hbody

theorem effectiveRoot_eq_ok {root : Node} (h : effectiveRoot language tree wrapped = .ok root) :
    throughSingleChildren (if wrapped then unwrapped tree.root else tree.root) = root := by
  rw [effectiveRoot] at h
  generalize throughSingleChildren (if wrapped then unwrapped tree.root else tree.root) = start at h
  split at h
  · cases h
  · exact Except.ok.inj h

theorem effectiveRoot_wrapped : effectiveRoot language tree true =
    .ok (throughSingleChildren (unwrapped tree.root)) := rfl

theorem ofTree_effectiveRoot {root : Node} (h : effectiveRoot language tree wrapped = .ok root) :
    Node.OfTree tree.root root := by
  rw [← effectiveRoot_eq_ok h]
  refine throughSingleChildren_of_children (fun _ _ => Node.ofTree_children) ?_
  split
  · exact ofTree_unwrapped tree.root
  · exact Node.ofTree_self tree.root

theorem ofTree_selected {kind : String} {root : Node} (h : selected tree kind = .ok root) :
    Node.OfTree tree.root root := by
  rw [selected] at h
  split at h
  · next n hn =>
    cases h
    exact Node.ofTree_preorder (Node.ofTree_self tree.root) (List.mem_of_find?_eq_some hn)
  · cases h

/-! ## Compiled patterns -/

/-- The node of a tree that a pattern is compared at. -/
def chosenRoot (language : Language) (tree : Tree) (wrapped : Bool) :
    Option String → Except SyntaxError Node
  | some kind => selected tree kind
  | none => effectiveRoot language tree wrapped

theorem ofTree_chosenRoot {selector : Option String} {root : Node}
    (h : chosenRoot language tree wrapped selector = .ok root) : Node.OfTree tree.root root := by
  cases selector with
  | some kind => exact ofTree_selected h
  | none => exact ofTree_effectiveRoot h

/-- Once the code is parsed, compiling a pattern is choosing its root. -/
theorem compileIn_of_prepared (hblank : source.isBlankText = false)
    (hprepare : prepare language source = .ok (vars, code))
    (hparse : parsePrepared language code = .ok (tree, wrapped)) (selector : Option String) :
    compileIn language ⟨source, selector⟩ = (chosenRoot language tree wrapped selector).map
      fun root => ⟨source, language, vars, tree, root.id, .default⟩ := by
  have hblank : ¬ source.isBlankText = true := by simp [hblank]
  rw [compileIn, if_neg hblank]
  simp only [hprepare, hparse, Except.mapError, bind, Except.bind, pure, Except.pure, chosenRoot]
  cases selector with
  | none => cases effectiveRoot language tree wrapped <;> rfl
  | some kind => cases selected tree kind <;> rfl

theorem exists_of_compileIn (h : compileIn language context = .ok p) :
    ∃ vars code tree wrapped root, prepare language context.context = .ok (vars, code) ∧
      parsePrepared language code = .ok (tree, wrapped) ∧
      chosenRoot language tree wrapped context.selector = .ok root ∧
      p = ⟨context.context, language, vars, tree, root.id, .default⟩ := by
  obtain ⟨source, selector⟩ := context
  have hcompile := h
  rw [compileIn] at h
  split at h
  · cases h
  next hblank =>
    obtain ⟨⟨vars, code⟩, hprepare, h⟩ := Except.bind_eq_ok_iff.mp h
    obtain ⟨⟨tree, wrapped⟩, hparse, -⟩ := Except.bind_eq_ok_iff.mp h
    have hprepare := Except.mapError_eq_ok_iff.mp hprepare
    rw [compileIn_of_prepared (Bool.not_eq_true _ ▸ hblank) hprepare hparse] at hcompile
    obtain ⟨root, hroot, rfl⟩ := Except.map_eq_ok_iff.mp hcompile
    exact ⟨vars, code, tree, wrapped, root, hprepare, hparse, hroot, rfl⟩

/-- The root of a compiled pattern is a node of a tree that was parsed. -/
theorem root_of_compileIn (h : compileIn language context = .ok p) :
    (∃ text, Tree.parse language text 0 = .ok p.tree) ∧ Node.OfTree p.tree.root p.root := by
  obtain ⟨vars, code, tree, wrapped, root, -, hparse, hroot, rfl⟩ := exists_of_compileIn h
  exact ⟨parse_of_parsePrepared hparse, rfl, (ofTree_chosenRoot hroot).2⟩

end Pattern

end StructuralSearch
