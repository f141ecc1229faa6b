import Mathlib.Data.List.Basic
import Mathlib.Data.Set.Function
import StructuralSearch.Proofs.Roots
import StructuralSearch.Proofs.Segments

/-!
# Patterns and their placeholders

The placeholder of a name can be read back, and nothing but a placeholder is read as one. A pattern
is compiled from the code of its source, in which placeholders stand for the metavariables.

Results:
1. `Placeholder.decode?_eq_some_iff`: what is read as a placeholder.
2. `Placeholder.bijOn_encode`: placeholders and the metavariables that they stand for.
3. `Pattern.prepare_eq_ok_iff`: the metavariables and the code of a source.
4. `Pattern.isName_of_compileIn`: the metavariables of a compiled pattern have names.
-/

namespace StructuralSearch

namespace Segment

/-- The metavariable of a segment. -/
def var? : Segment → Option Metavariable
  | .metavariable var => some var
  | _ => none

/-- The code of a segment, with a placeholder for a metavariable. -/
def code (expando : Char) : Segment → Text
  | .literal text => text
  | .metavariable var => Placeholder.encode expando var.name var.arity
  | .malformed text _ => text

end Segment

namespace Placeholder

variable {x : Char} {arity : Arity} {name : String} {t : Text}

theorem encode_eq :
    encode x name arity = [x, x] ++ (tag arity ++ (name.toList ++ [x, x])) := by
  simp only [encode, List.append_assoc]

theorem name?_eq_some_iff {a : Arity} {rest : Text} :
    name? x a rest = some (name, arity) ↔
      arity = a ∧ Metavariable.IsName name ∧ [x, x] ++ rest = encode x name a := by
  rw [encode_eq, List.append_cancel_left_eq, name?]
  simp only [Option.bind_eq_bind, Option.bind_eq_some_iff, List.isPrefixOf?_eq_some_iff_append_eq]
  constructor
  · rintro ⟨body, rfl, closing, hclosing, h⟩
    split at h
    · next hname =>
      cases h
      obtain rfl : closing.reverse ++ [x, x] = body := by
        rw [← List.reverse_reverse body, ← hclosing, List.reverse_append]
        rfl
      simp only [Bool.and_eq_true, Bool.not_eq_true', List.isEmpty_eq_false_iff,
        List.all_eq_true] at hname
      refine ⟨rfl, ?_, ?_⟩
      · simpa only [Metavariable.IsName, String.toList_ofList] using hname
      · rw [String.toList_ofList]
    · cases h
  · rintro ⟨rfl, ⟨hne, hall⟩, rfl⟩
    refine ⟨name.toList ++ [x, x], rfl, name.toList.reverse, by simp, ?_⟩
    rw [List.reverse_reverse, if_pos, String.ofList_toList]
    simpa [hne] using hall

/-- A text is read as a metavariable exactly if it is the placeholder of its name. -/
theorem decode?_eq_some_iff :
    decode? x t = some (name, arity) ↔ Metavariable.IsName name ∧ t = encode x name arity := by
  simp only [decode?, Option.bind_eq_bind, Option.bind_eq_some_iff,
    List.isPrefixOf?_eq_some_iff_append_eq]
  constructor
  · rintro ⟨rest, rfl, h⟩
    split at h
    · obtain ⟨rfl, hname, hrest⟩ := name?_eq_some_iff.mp h
      exact ⟨hname, hrest⟩
    · obtain ⟨rfl, hname, hrest⟩ := name?_eq_some_iff.mp h
      exact ⟨hname, hrest⟩
  · rintro ⟨hname, rfl⟩
    refine ⟨tag arity ++ (name.toList ++ [x, x]), encode_eq.symm, ?_⟩
    -- the tag of a node does not begin like that of a run
    have htag : (tag .multiple).isPrefixOf (tag arity ++ (name.toList ++ [x, x])) =
        decide (arity = .multiple) := by
      cases arity <;> rfl
    rw [htag]
    cases arity with
    | single => exact name?_eq_some_iff.mpr ⟨rfl, hname, encode_eq.symm⟩
    | multiple => exact name?_eq_some_iff.mpr ⟨rfl, hname, encode_eq.symm⟩

/-- Whatever the expando, names with arities and the texts that are read as placeholders correspond
one to one: a placeholder is read as the name and the arity that it stands for, and a text that is
read as a name and an arity is their placeholder. -/
theorem bijOn_encode (x : Char) :
    Set.BijOn (fun v : String × Arity => encode x v.1 v.2) {v | Metavariable.IsName v.1}
        {t | (decode? x t).isSome = true} ∧
      (∀ name arity, Metavariable.IsName name →
        decode? x (encode x name arity) = some (name, arity)) ∧
      ∀ t name arity, decode? x t = some (name, arity) →
        Metavariable.IsName name ∧ t = encode x name arity := by
  have hread : ∀ name arity, Metavariable.IsName name →
      decode? x (encode x name arity) = some (name, arity) :=
    fun name arity hname => decode?_eq_some_iff.mpr ⟨hname, rfl⟩
  refine ⟨⟨?mapsTo, ?injOn, ?surjOn⟩, hread, fun t name arity => decode?_eq_some_iff.mp⟩
  case mapsTo =>
    rintro ⟨name, arity⟩ hname
    exact Option.isSome_of_mem (hread name arity hname)
  case injOn =>
    rintro ⟨name, arity⟩ hname ⟨name', arity'⟩ hname' htext
    have htext : encode x name arity = encode x name' arity' := htext
    exact Option.some.inj ((hread name arity hname).symm.trans (htext ▸ hread name' arity' hname'))
  case surjOn =>
    intro t ht
    obtain ⟨⟨name, arity⟩, hsome⟩ := Option.isSome_iff_exists.mp ht
    obtain ⟨hname, rfl⟩ := decode?_eq_some_iff.mp hsome
    exact ⟨(name, arity), hname, rfl⟩

/-- The expando is a letter of the tag, and the name begins and ends with it. -/
theorem decode?_encode_expandos :
    Metavariable.IsName "V_V" ∧
      decode? 'V' (encode 'V' "V_V" .multiple) = some ("V_V", .multiple) ∧
      decode? 'V' "VVHEDDLE_MV_V_VV".toList = some ("V_", .single) ∧
      "VVHEDDLE_MV_V_VV".toList = encode 'V' "V_" .single := by
  have hname : Metavariable.IsName "V_V" := ⟨by decide, List.all_eq_true.mp (by decide)⟩
  have hread : decode? 'V' "VVHEDDLE_MV_V_VV".toList = some ("V_", .single) := by decide
  obtain ⟨-, hdecode, hencode⟩ := bijOn_encode 'V'
  exact ⟨hname, hdecode "V_V" .multiple hname, hread, (hencode _ _ _ hread).2⟩

end Placeholder

namespace Pattern

variable {language : Language} {source code code₀ : Text} {vars vars₀ : List Metavariable}

/-- Puts a segment behind the metavariables and the code before it. -/
def collect (language : Language) (acc : List Metavariable × Text) (s : Segment) :
    Except Malformation (List Metavariable × Text) :=
  match s with
  | .literal piece => .ok (acc.1, acc.2 ++ piece)
  | .metavariable var =>
    .ok (acc.1 ++ [var], acc.2 ++ Placeholder.encode language.expando var.name var.arity)
  | .malformed _ why => .error why

theorem foldlM_collect_eq_ok_iff {segments : List Segment} :
    segments.foldlM (collect language) (vars₀, code₀) = .ok (vars, code) ↔
      (∀ text why, .malformed text why ∉ segments) ∧
      vars = vars₀ ++ segments.filterMap Segment.var? ∧
      code = code₀ ++ segments.flatMap (Segment.code language.expando) := by
  induction segments generalizing vars₀ code₀ with
  | nil => simp [pure, Except.pure, eq_comm]
  | cons s segments ih =>
    rw [List.foldlM_cons]
    cases s with
    | literal piece =>
      have hnone : (Segment.literal piece).var? = none := rfl
      rw [List.filterMap_cons_none hnone]
      simp [bind, Except.bind, collect, ih, Segment.code]
    | metavariable var =>
      have hsome : (Segment.metavariable var).var? = some var := rfl
      rw [List.filterMap_cons_some hsome]
      simp [bind, Except.bind, collect, ih, Segment.code]
    | malformed text why =>
      simp only [bind, Except.bind, collect, reduceCtorEq, false_iff, not_and]
      intro h
      exact absurd List.mem_cons_self (h text why)

/-- A source has its metavariables in order, unless a run of sigils is malformed, and its code has
their placeholders in their stead. -/
theorem prepare_eq_ok_iff :
    prepare language source = .ok (vars, code) ↔
      (∀ text why, .malformed text why ∉ Segment.split language.sigil source) ∧
      vars = (Segment.split language.sigil source).filterMap Segment.var? ∧
      code = (Segment.split language.sigil source).flatMap (Segment.code language.expando) :=
  @foldlM_collect_eq_ok_iff language code [] vars [] _

theorem prepare_of_compileIn {context : PatternContext} {p : Pattern}
    (h : compileIn language context = .ok p) :
    ∃ code, prepare language context.context = .ok (p.metavariables, code) := by
  obtain ⟨vars, code, tree, wrapped, root, hprepare, -, -, rfl⟩ := exists_of_compileIn h
  exact ⟨code, hprepare⟩

/-- The metavariables of a compiled pattern have names. -/
theorem isName_of_compileIn {context : PatternContext} {p : Pattern}
    (h : compileIn language context = .ok p) {var : Metavariable} (hvar : var ∈ p.metavariables) :
    Metavariable.IsName var.name := by
  obtain ⟨code, hprepare⟩ := prepare_of_compileIn h
  obtain ⟨-, hvars, -⟩ := prepare_eq_ok_iff.mp hprepare
  rw [hvars] at hvar
  obtain ⟨s, hs, hsome⟩ := List.mem_filterMap.mp hvar
  cases s with
  | literal _ => cases hsome
  | metavariable _ =>
    cases hsome
    exact Segment.isName_of_mem_splitFrom hs
  | malformed _ _ => cases hsome

/-- A pattern that passes a check, from the check on the result of compiling. -/
theorem exists_compile {check : Pattern → Bool}
    (h : (compile language source).toOption.any check = true) :
    ∃ p, compile language source = .ok p ∧ check p = true :=
  Except.exists_of_any_toOption h

end Pattern

end StructuralSearch
