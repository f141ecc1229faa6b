import Mathlib.Data.List.Basic
import StructuralSearch.Proofs.Segments

/-!
# Runs of sigils

A run is as long as there are sigils. A sigil may itself be a character of names, so that a run may
lie in the name that is read after an earlier run. What a text is read as has a piece for each run
that lies in no name.

* `IsRun`, `InName`: the runs of sigils in a text, and those that are read as parts of names.
* `FreeRun`: the runs that lie in no name.
* `Piece.RunAt`: where the runs stand among the pieces of a text.
* `Closes`: a part of the text ends with a piece.

Results:
1. `isRun_append_iff`, `inName_append_iff`, `freeRun_append_iff`: runs behind a piece.
2. `FreeRun.cases_run`: where a run stands in a text that begins with one.
3. `Reads.runAt_iff`: the runs among the pieces of a text are those that lie in no name.
-/

namespace StructuralSearch

/-! ## Runs in the text -/

/-- Between two parts of the text stand `count` sigils, and no sigil stands right before or behind
them. -/
structure IsRun (sigil : Char) (t before : Text) (count : Nat) (after : Text) : Prop where
  text : t = before ++ (List.replicate count sigil ++ after)
  pos : 0 < count
  start : before.getLast? ≠ some sigil
  stop : after.head? ≠ some sigil

/-- The name that is read at the start of a text. -/
def nameOf (t : Text) : Text := t.takeWhile Metavariable.isNameChar

/-- The `count` sigils behind `before` lie in the name that is read after an earlier run. -/
def InName (sigil : Char) (t before : Text) (count : Nat) : Prop :=
  ∃ front n rest between, IsRun sigil t front n rest ∧
    before = front ++ (List.replicate n sigil ++ between) ∧
    between ++ List.replicate count sigil <+: nameOf rest

/-- A run of sigils that lies in no name. -/
structure FreeRun (sigil : Char) (t before : Text) (count : Nat) (after : Text) : Prop
    extends IsRun sigil t before count after where
  free : ¬InName sigil t before count

/-- Among pieces of which the first stands at byte `offset`, there is a run at byte `place`. -/
inductive Piece.RunAt (sigil : Char) : Nat → List Piece → Nat → Nat → Text → Prop
  | here {offset count : Nat} {name : Text} {ps : List Piece} :
      RunAt sigil offset (.run count name :: ps) offset count name
  | there {offset place count : Nat} {name : Text} {p : Piece} {ps : List Piece} :
      RunAt sigil (offset + Text.byteLength (p.written sigil)) ps place count name →
      RunAt sigil offset (p :: ps) place count name

/-! ## Runs among the pieces -/

/-- The plain characters of a text are no sigils. -/
theorem Reads.ne_of_plain_mem {sigil c : Char} {t : Text} {ps : List Piece}
    (h : Reads sigil t ps) (hc : .plain c ∈ ps) : c ≠ sigil := by
  induction h with
  | nil => exact absurd hc List.not_mem_nil
  | plain hd _ ih =>
    rcases List.mem_cons.mp hc with heq | hc
    · cases heq
      exact hd
    · exact ih hc
  | run _ _ _ _ _ ih =>
    rcases List.mem_cons.mp hc with heq | hc
    · cases heq
    · exact ih hc

/-- Of two ways to cut a text in two, one has the other's first part in its own. -/
theorem Text.exists_append_of_append_eq {a b c d : Text} (h : a ++ b = c ++ d)
    (hle : c.length ≤ a.length) : ∃ cut, a = c ++ cut ∧ d = cut ++ b := by
  rcases List.append_eq_append_iff.mp h with ⟨cut, rfl, rfl⟩ | hcut
  · obtain rfl : cut = [] := by
      rw [List.length_append] at hle
      exact List.length_eq_zero_iff.mp (by omega)
    exact ⟨[], by simp, rfl⟩
  · exact hcut

section

variable {sigil : Char} {part rest before after : Text} {count : Nat}

theorem isNameChar_of_prefix {l : Text} (h : l <+: nameOf rest) {c : Char} (hc : c ∈ l) :
    Metavariable.isNameChar c = true :=
  List.mem_takeWhile_imp (h.subset hc)

/-- A part of a text ends with a piece: no run goes on behind it, and no name of a run that begins
in it. -/
structure Closes (sigil : Char) (part rest : Text) : Prop where
  last : rest.head? = some sigil → part.getLast? ≠ some sigil
  name : ∀ front n after, IsRun sigil (part ++ rest) front n after → front.length < part.length →
    ∀ c ∈ rest.head?, Metavariable.isNameChar c = false

/-- A run begins with a sigil. -/
theorem IsRun.head?_eq (h : IsRun sigil rest [] count after) : rest.head? = some sigil := by
  rw [h.text, List.nil_append, ← List.nil_append after]
  exact Reads.head?_run h.pos

/-- A text with a run begins with a character before the run or with one of its sigils. -/
theorem IsRun.exists_head? (h : IsRun sigil rest before count after) :
    ∃ c ∈ before ++ List.replicate count sigil, rest.head? = some c := by
  cases before with
  | nil =>
    exact ⟨sigil, List.mem_replicate.mpr ⟨Nat.ne_of_gt h.pos, rfl⟩, h.head?_eq⟩
  | cons c before => exact ⟨c, List.mem_cons_self, by rw [h.text]; rfl⟩

theorem closes_plain {c : Char} (hc : c ≠ sigil) : Closes sigil [c] rest := by
  refine ⟨fun _ hlast => hc (Option.some.inj hlast), fun front n after hrun hlt => ?_⟩
  obtain rfl : front = [] := List.length_eq_zero_iff.mp (Nat.lt_one_iff.mp hlt)
  exact absurd (Option.some.inj hrun.head?_eq) hc

theorem closes_run {name : Text} (hname : ∀ c ∈ name, Metavariable.isNameChar c = true)
    (hsigil : (name ++ rest).head? ≠ some sigil)
    (hrest : ∀ c ∈ rest.head?, Metavariable.isNameChar c = false) :
    Closes sigil (List.replicate count sigil ++ name) rest := by
  refine ⟨fun hhead hlast => ?_, fun _ _ _ _ _ => hrest⟩
  cases hend : name.getLast? with
  | none =>
    obtain rfl := List.getLast?_eq_none_iff.mp hend
    exact hsigil hhead
  | some c =>
    rw [List.getLast?_append, hend, Option.some_or] at hlast
    obtain rfl := Option.some.inj hlast
    -- the sigil would be a character of names, and the name would go on
    cases (hname c (List.mem_of_getLast? hend)).symm.trans (hrest c hhead)

/-- Behind a piece, the runs of a text are those of what is left. -/
theorem isRun_append_iff (h : Closes sigil part rest) :
    IsRun sigil (part ++ rest) (part ++ before) count after ↔
      IsRun sigil rest before count after := by
  constructor
  · intro hrun
    refine ⟨?_, hrun.pos, fun hlast => hrun.start ?_, hrun.stop⟩
    · exact List.append_cancel_left (hrun.text.trans (List.append_assoc ..))
    · rw [List.getLast?_append, hlast, Option.some_or]
  · intro hrun
    refine ⟨?_, hrun.pos, fun hlast => ?_, hrun.stop⟩
    · rw [List.append_assoc, ← hrun.text]
    · rw [List.getLast?_append] at hlast
      cases hend : before.getLast? with
      | none =>
        obtain rfl := List.getLast?_eq_none_iff.mp hend
        exact h.last hrun.head?_eq (by simpa using hlast)
      | some c =>
        rw [hend, Option.some_or] at hlast
        exact hrun.start (hend.trans hlast)

/-- Behind a piece, a run lies in a name if it does so in what is left. -/
theorem inName_append_iff (h : Closes sigil part rest)
    (hrun : IsRun sigil rest before count after) :
    InName sigil (part ++ rest) (part ++ before) count ↔ InName sigil rest before count := by
  constructor
  · rintro ⟨front, n, tail, between, hfront, hbefore, hname⟩
    rcases Nat.lt_or_ge front.length part.length with hlt | hge
    · -- the name would go on behind the piece
      obtain ⟨cut, -, hcut⟩ := Text.exists_append_of_append_eq hbefore (Nat.le_of_lt hlt)
      have hall : ∀ c ∈ before ++ List.replicate count sigil, Metavariable.isNameChar c = true := by
        have hsigil : Metavariable.isNameChar sigil = true :=
          isNameChar_of_prefix hname (List.mem_append_right _
            (List.mem_replicate.mpr ⟨Nat.ne_of_gt hrun.pos, rfl⟩))
        intro c hc
        rcases List.mem_append.mp hc with hc | hc
        · have hmem : c ∈ List.replicate n sigil ++ between := hcut ▸ List.mem_append_right _ hc
          rcases List.mem_append.mp hmem with hmem | hmem
          · exact List.eq_of_mem_replicate hmem ▸ hsigil
          · exact isNameChar_of_prefix hname (List.mem_append_left _ hmem)
        · exact List.eq_of_mem_replicate hc ▸ hsigil
      obtain ⟨c, hc, hhead⟩ := hrun.exists_head?
      exact absurd (h.name front n tail hfront hlt c hhead) (by simp [hall c hc])
    · obtain ⟨front', hpart, heq⟩ := Text.exists_append_of_append_eq hbefore.symm hge
      exact ⟨front', n, tail, between, (isRun_append_iff h).mp (hpart ▸ hfront), heq, hname⟩
  · rintro ⟨front, n, tail, between, hfront, rfl, hname⟩
    exact ⟨part ++ front, n, tail, between, (isRun_append_iff h).mpr hfront,
      (List.append_assoc ..).symm, hname⟩

/-- The sigils at the start of a text are taken together, as long as there are sigils. -/
theorem IsRun.unique {count' : Nat} {after' : Text} (h : IsRun sigil rest [] count after)
    (h' : IsRun sigil rest [] count' after') : count = count' ∧ after = after' := by
  have htaken : ∀ {n tail}, IsRun sigil rest [] n tail →
      rest.takeWhile (· == sigil) = List.replicate n sigil ∧
        rest.dropWhile (· == sigil) = tail := by
    intro n tail hrun
    rw [hrun.text, List.nil_append]
    exact Text.takeWhile_append_eq
      (fun c hc => beq_iff_eq.mpr (List.eq_of_mem_replicate hc))
      (fun c hc => beq_eq_false_iff_ne.mpr fun heq => hrun.stop (heq ▸ hc))
  refine ⟨?_, (htaken h).2.symm.trans (htaken h').2⟩
  have hcount := congrArg List.length ((htaken h).1.symm.trans (htaken h').1)
  rwa [List.length_replicate, List.length_replicate] at hcount

/-- Sigils that begin within a name are part of it. -/
theorem prefix_nameOf {name between : Text} {tail : Text} (hcount : 0 < count)
    (hname : ∀ c ∈ name, Metavariable.isNameChar c = true) (hlt : between.length < name.length)
    (htext : name ++ rest = between ++ (List.replicate count sigil ++ tail)) :
    between ++ List.replicate count sigil <+: nameOf (name ++ rest) := by
  obtain ⟨cut, rfl, hcut⟩ := Text.exists_append_of_append_eq htext (Nat.le_of_lt hlt)
  have hsigil : Metavariable.isNameChar sigil = true := by
    cases cut with
    | nil => simp at hlt
    | cons c cut =>
      have hhead := congrArg List.head? hcut
      rw [← List.nil_append tail, Reads.head?_run hcount] at hhead
      obtain rfl := Option.some.inj hhead
      exact hname sigil (by simp)
  have hall : ∀ c ∈ between ++ List.replicate count sigil,
      Metavariable.isNameChar c = true := by
    intro c hc
    rcases List.mem_append.mp hc with hc | hc
    · exact hname c (List.mem_append_left _ hc)
    · exact List.eq_of_mem_replicate hc ▸ hsigil
  rw [nameOf, htext, ← List.append_assoc, List.takeWhile_append_of_pos hall]
  exact List.prefix_append _ _

/-- Behind a piece, the runs that lie in no name are those of what is left. -/
theorem freeRun_append_iff (h : Closes sigil part rest) :
    FreeRun sigil (part ++ rest) (part ++ before) count after ↔
      FreeRun sigil rest before count after := by
  constructor
  · rintro ⟨hrun, hfree⟩
    have hrun := (isRun_append_iff h).mp hrun
    exact ⟨hrun, fun hname => hfree ((inName_append_iff h hrun).mpr hname)⟩
  · rintro ⟨hrun, hfree⟩
    exact ⟨(isRun_append_iff h).mpr hrun, fun hname => hfree ((inName_append_iff h hrun).mp hname)⟩

/-- A run at the start of a text lies in no name. -/
theorem IsRun.free (h : IsRun sigil rest [] count after) : FreeRun sigil rest [] count after := by
  refine ⟨h, ?_⟩
  rintro ⟨front, n, tail, between, hfront, hnil, -⟩
  have hlength := congrArg List.length hnil
  have := hfront.pos
  simp at hlength
  omega

/-- A run that lies in no name is the first piece of the text, or it stands behind the piece. -/
theorem FreeRun.cases_run {n : Nat} {name : Text}
    (hname : ∀ c ∈ name, Metavariable.isNameChar c = true)
    (hfirst : IsRun sigil ((List.replicate n sigil ++ name) ++ rest) [] n (name ++ rest))
    (h : FreeRun sigil ((List.replicate n sigil ++ name) ++ rest) before count after) :
    before = [] ∧ count = n ∧ after = name ++ rest ∨
      ∃ behind, before = (List.replicate n sigil ++ name) ++ behind := by
  rcases List.append_eq_append_iff.mp h.text with ⟨behind, hbehind, -⟩ | ⟨cut, hcut, htail⟩
  · exact Or.inr ⟨behind, hbehind⟩
  · rcases List.append_eq_append_iff.mp hcut with ⟨between, rfl, rfl⟩ | ⟨sigils, hsigils, -⟩
    · cases cut with
      | nil => exact Or.inr ⟨[], by simp⟩
      | cons c cut =>
        -- the run begins in the name
        have hpart : between ++ List.replicate count sigil <+:
            nameOf ((between ++ c :: cut) ++ rest) :=
          prefix_nameOf h.pos hname (by simp) (by rw [htail, List.append_assoc])
        exact absurd ⟨[], n, _, between, hfirst, rfl, hpart⟩ h.free
    · cases before with
      | nil =>
        obtain ⟨rfl, rfl⟩ := h.toIsRun.unique hfirst
        exact Or.inl ⟨rfl, rfl, rfl⟩
      | cons c before =>
        -- a sigil stands before the run
        have hlast : (c :: before).getLast? = some sigil := by
          rw [List.getLast?_eq_some_getLast (List.cons_ne_nil c before)]
          refine congrArg some (List.eq_of_mem_replicate (n := n) ?_)
          rw [hsigils]
          exact List.mem_append_left _ (List.getLast_mem _)
        exact absurd hlast h.start

/-- The runs among the pieces of a text are those that lie in no name. -/
theorem Reads.runAt_iff {t : Text} {ps : List Piece} (h : Reads sigil t ps) {offset place : Nat}
    {name : Text} :
    Piece.RunAt sigil offset ps place count name ↔
      ∃ before after, FreeRun sigil t before count after ∧ name = nameOf after ∧
        place = offset + Text.byteLength before := by
  induction h generalizing offset with
  | nil =>
    constructor
    · intro h
      cases h
    · rintro ⟨before, after, hrun, -⟩
      obtain ⟨c, -, hc⟩ := hrun.exists_head?
      cases hc
  | @plain c t ps hc _ ih =>
    have hcloses : Closes sigil [c] t := closes_plain hc
    constructor
    · intro h
      cases h with
      | there h =>
        obtain ⟨before, after, hrun, hname, rfl⟩ := ih.mp h
        refine ⟨c :: before, after, (freeRun_append_iff hcloses).mpr hrun, hname, ?_⟩
        simp [Piece.written, Nat.add_assoc]
    · rintro ⟨before, after, hrun, hname, rfl⟩
      cases before with
      | nil => exact absurd (Option.some.inj hrun.head?_eq) hc
      | cons d before =>
        obtain rfl : c = d := by simpa using congrArg List.head? hrun.text
        refine .there (ih.mpr ⟨before, after, (freeRun_append_iff hcloses).mp hrun, hname, ?_⟩)
        simp [Piece.written, Nat.add_assoc]
  | @run n own t ps hn hown hsigil hrest _ ih =>
    have hcloses : Closes sigil (List.replicate n sigil ++ own) t := closes_run hown hsigil hrest
    have hfirst : IsRun sigil ((List.replicate n sigil ++ own) ++ t) [] n (own ++ t) :=
      ⟨List.append_assoc .., hn, by simp, hsigil⟩
    have hown' : nameOf (own ++ t) = own := (Text.takeWhile_append_eq hown hrest).1
    rw [← List.append_assoc]
    constructor
    · intro h
      cases h with
      | here => exact ⟨[], _, hfirst.free, hown'.symm, rfl⟩
      | there h =>
        obtain ⟨before, after, hrun, hname, rfl⟩ := ih.mp h
        refine ⟨_, after, (freeRun_append_iff hcloses).mpr hrun, hname, ?_⟩
        rw [Text.byteLength_append, ← Nat.add_assoc]
        rfl
    · rintro ⟨before, after, hrun, rfl, rfl⟩
      rcases hrun.cases_run hown hfirst with ⟨rfl, rfl, rfl⟩ | ⟨behind, rfl⟩
      · rw [hown']
        exact .here
      · refine .there (ih.mpr ⟨behind, after, (freeRun_append_iff hcloses).mp hrun, rfl, ?_⟩)
        rw [Text.byteLength_append, ← Nat.add_assoc]
        rfl

end

end StructuralSearch
