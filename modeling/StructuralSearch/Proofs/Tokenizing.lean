import Mathlib.Data.List.Basic
import StructuralSearch.Proofs.Pattern
import StructuralSearch.Proofs.Registry
import StructuralSearch.Proofs.Runs
import StructuralSearch.Template

/-!
# Texts and their segments

The segments of a text stand in it one behind another, and nothing of the text is lost. Each run of
sigils that lies in no name makes one segment at the place of its first sigil. What becomes of it
depends on its length and on whether a name follows; if it becomes neither of the two sorts of
metavariables, a pattern with this source is refused.

* `Segment.Spells`, `Segment.Covers`: segments and the parts of the text that they stand for.
* `Segment.Tells`: what a run of sigils becomes.

Results:
1. `Segment.Groups.covers`: segments cover the text.
2. `Segment.Groups.filter_offset`: a run makes one segment.
3. `Pattern.compileIn_eq_invalidMetavariable_iff`: which patterns are refused for a run of sigils.
4. `Segment.split_covers_and_tells`: all of it.
-/

namespace StructuralSearch

/-! ## Segments in the text -/

def Malformation.offset : Malformation → Nat
  | noName offset => offset
  | sigilCount offset _ _ => offset

namespace Segment

/-- The byte offset that a segment reports. -/
def offset? : Segment → Option Nat
  | literal _ => none
  | metavariable var => some var.offset
  | malformed _ why => some why.offset

def arity? : Segment → Option Arity
  | metavariable var => some var.arity
  | _ => none

def isMalformed : Segment → Bool
  | malformed _ _ => true
  | _ => false

/-- The segment stands for the text. A metavariable is written as its sigils and its name; three
sigils alone stand for the run that is not captured. -/
def Spells (sigil : Char) : Segment → Text → Prop
  | literal text, t => t = text
  | malformed text _, t => t = text
  | metavariable var, t =>
    t = List.replicate (Template.sigilCount var.arity) sigil ++ var.name.toList ∨
      var.arity = .multiple ∧ var.name = Metavariable.anonymous ∧ t = List.replicate 3 sigil

/-- The segments stand for parts of the text that follow one another and make it up, the first of
them at byte `offset`. An offset that is reported is the one at which the part begins. -/
inductive Covers (sigil : Char) : Nat → Text → List Segment → Prop
  | nil {offset : Nat} : Covers sigil offset [] []
  | cons {offset : Nat} {s : Segment} {part rest : Text} {segments : List Segment} :
      part ≠ [] → s.Spells sigil part → (∀ o ∈ s.offset?, o = offset) →
      Covers sigil (offset + Text.byteLength part) rest segments →
      Covers sigil offset (part ++ rest) (s :: segments)

/-- What a run of sigils at byte `offset` becomes, given the name that is read after it. -/
structure Tells (sigil : Char) (offset count : Nat) (name : Text) (s : Segment) : Prop where
  single : s.arity? = some .single ↔ count = 1 ∧ name ≠ []
  multiple : s.arity? = some .multiple ↔ count = 3
  malformed : s.isMalformed = true ↔ ¬(count = 1 ∧ name ≠ []) ∧ count ≠ 3
  offset : s.offset? = some offset
  spells : s.Spells sigil (List.replicate count sigil ++ name)

end Segment

theorem Text.byteLength_replicate (n : Nat) (c : Char) :
    Text.byteLength (List.replicate n c) = n * c.utf8Size := by
  induction n with
  | zero => simp
  | succ n ih => rw [List.replicate_succ, Text.byteLength_cons, ih, Nat.succ_mul, Nat.add_comm]

namespace Segment

variable {sigil : Char} {offset place count : Nat} {name t : Text} {ps : List Piece}
  {segments : List Segment} {s : Segment}

/-! ## What runs become -/

/-- The segment of a run tells its length, its name and its place. -/
theorem tells_ofRun (sigil : Char) (offset count : Nat) (name : Text) :
    Tells sigil offset count name (ofRun sigil offset count name) := by
  rw [ofRun.eq_def]
  split
  case h_1 hname =>
    have hne : name ≠ [] := by simpa using hname
    constructor <;> simp [arity?, isMalformed, offset?, Spells, Template.sigilCount, hne]
  case h_2 hname =>
    have hne : name ≠ [] := by simpa using hname
    constructor <;> simp [arity?, isMalformed, offset?, Spells, Template.sigilCount]
  case h_3 hname =>
    obtain rfl : name = [] := by simpa using hname
    constructor <;> simp [arity?, isMalformed, offset?, Spells]
  case h_4 hname =>
    obtain rfl : name = [] := by simpa using hname
    constructor <;> simp [arity?, isMalformed, offset?, Spells, Malformation.offset]
  case h_5 count _ _ h₁ h₂ h₃ _ =>
    have hone : ¬(count = 1 ∧ name ≠ []) := by
      rintro ⟨rfl, hne⟩
      exact h₁ rfl (by simpa using hne)
    have hthree : count ≠ 3 := by
      rintro rfl
      cases hempty : name.isEmpty with
      | false => exact h₂ rfl hempty
      | true => exact h₃ rfl hempty
    constructor
    case single => simp [arity?, hone]
    case multiple => simp [arity?, hthree]
    case malformed => simp [isMalformed, hone, hthree]
    case offset => rfl
    case spells => rfl

/-- Segments that pieces make up cover the text of the pieces. -/
theorem Groups.covers (h : Groups sigil offset ps segments) :
    Covers sigil offset (ps.flatMap (Piece.written sigil)) segments := by
  induction h with
  | nil => exact .nil
  | @literal offset text ps segments htext _ ih =>
    have hchars : (text.map Piece.plain).flatMap (Piece.written sigil) = text := by
      simp [List.flatMap_map, Piece.written, List.flatMap_singleton']
    rw [List.flatMap_append, hchars]
    exact .cons htext rfl (fun o ho => absurd ho (Option.not_mem_none o)) ih
  | @run offset count name ps segments hcount _ ih =>
    have htells := tells_ofRun sigil offset count name
    rw [List.flatMap_cons, Piece.written]
    refine .cons (by simp; omega) htells.spells (fun o ho => ?_) ?_
    · exact Option.some.inj ((Option.mem_def.mp ho).symm.trans htells.offset)
    · rw [Text.byteLength_append, Text.byteLength_replicate, ← Nat.add_assoc]
      exact ih

/-- The characters of a literal segment are plain characters of the text. -/
theorem Groups.plain_mem {text : Text} {c : Char} (h : Groups sigil offset ps segments)
    (hs : .literal text ∈ segments) (hc : c ∈ text) : .plain c ∈ ps := by
  induction h with
  | nil => exact absurd hs List.not_mem_nil
  | @literal offset text' ps segments _ _ ih =>
    rcases List.mem_cons.mp hs with heq | hs
    · cases heq
      exact List.mem_append_left _ (List.mem_map_of_mem hc)
    · exact List.mem_append_right _ (ih hs)
  | @run offset count name ps segments hcount _ ih =>
    rcases List.mem_cons.mp hs with heq | hs
    · have hmalformed := (tells_ofRun sigil offset count name).offset
      rw [← heq] at hmalformed
      cases hmalformed
    · exact List.mem_cons_of_mem _ (ih hs)

/-! ## Segments of runs -/

theorem runAt_plain_iff {text : Text} :
    Piece.RunAt sigil offset (text.map Piece.plain ++ ps) place count name ↔
      Piece.RunAt sigil (offset + Text.byteLength text) ps place count name := by
  induction text generalizing offset with
  | nil => rfl
  | cons c text ih =>
    have hstep : Text.byteLength (Piece.written sigil (.plain c)) = c.utf8Size := by
      simp [Piece.written]
    rw [List.map_cons, List.cons_append, Text.byteLength_cons, ← Nat.add_assoc, ← ih, ← hstep]
    constructor
    · intro h
      cases h with
      | there h => exact h
    · exact .there

/-- Behind a byte, only later offsets are reported. -/
theorem Groups.le_offset {o : Nat} (h : Groups sigil offset ps segments) (hs : s ∈ segments)
    (ho : s.offset? = some o) : offset ≤ o := by
  induction h with
  | nil => exact absurd hs List.not_mem_nil
  | literal _ _ ih =>
    rcases List.mem_cons.mp hs with rfl | hs
    · cases ho
    · exact Nat.le_trans (Nat.le_add_right _ _) (ih hs)
  | @run offset count name ps segments hcount _ ih =>
    rcases List.mem_cons.mp hs with rfl | hs
    · rw [(tells_ofRun sigil offset count name).offset] at ho
      exact Nat.le_of_eq (Option.some.inj ho)
    · have := ih hs
      omega

/-- A run makes one segment, which reports its place. -/
theorem Groups.filter_offset (h : Groups sigil offset ps segments)
    (hrun : Piece.RunAt sigil offset ps place count name) :
    segments.filter (fun s => s.offset? = some place) = [ofRun sigil place count name] := by
  induction h with
  | nil => cases hrun
  | literal _ _ ih =>
    rw [List.filter_cons_of_neg (by simp [offset?]), ih (runAt_plain_iff.mp hrun)]
  | @run offset count' name' ps segments hcount hsegments ih =>
    have hoffset := (tells_ofRun sigil offset count' name').offset
    have hsize := Nat.mul_pos hcount sigil.utf8Size_pos
    have hlater : ∀ {o s}, s ∈ segments → s.offset? = some o → offset < o := by
      intro o s hs ho
      have := hsegments.le_offset hs ho
      omega
    cases hrun with
    | here =>
      rw [List.filter_cons_of_pos (by simpa using hoffset), List.filter_eq_nil_iff.mpr]
      intro s hs
      simpa using fun ho => Nat.lt_irrefl _ (hlater hs ho)
    | there hrun =>
      rw [Piece.written, Text.byteLength_append, Text.byteLength_replicate,
        ← Nat.add_assoc] at hrun
      have hfound := ih hrun
      have hmem : ofRun sigil place count name ∈ segments :=
        (List.mem_filter.mp (hfound ▸ List.mem_singleton_self _)).1
      have hplace := hlater hmem (tells_ofRun sigil place count name).offset
      rw [List.filter_cons_of_neg (by rw [hoffset]; simp; omega), hfound]

/-- A segment that reports a place is made by the run there. -/
theorem Groups.exists_runAt {o : Nat} (h : Groups sigil offset ps segments) (hs : s ∈ segments)
    (ho : s.offset? = some o) :
    ∃ count name, Piece.RunAt sigil offset ps o count name ∧ s = ofRun sigil o count name := by
  induction h with
  | nil => exact absurd hs List.not_mem_nil
  | literal _ _ ih =>
    rcases List.mem_cons.mp hs with rfl | hs
    · cases ho
    · obtain ⟨count, name, hrun, heq⟩ := ih hs
      exact ⟨count, name, runAt_plain_iff.mpr hrun, heq⟩
  | @run offset count' name' ps segments hcount _ ih =>
    rcases List.mem_cons.mp hs with rfl | hs
    · rw [(tells_ofRun sigil offset count' name').offset] at ho
      cases ho
      exact ⟨count', name', .here, rfl⟩
    · obtain ⟨count, name, hrun, heq⟩ := ih hs
      refine ⟨count, name, .there ?_, heq⟩
      rwa [Piece.written, Text.byteLength_append, Text.byteLength_replicate, ← Nat.add_assoc]

end Segment

/-! ## Refused patterns -/

theorem Tree.parse_ne_invalidMetavariable {language : Language} {text : Text} {stamp : Nat}
    {m : String} : Tree.parse language text stamp ≠ .error (.invalidMetavariable m) := by
  intro h
  rw [Tree.parse] at h
  split at h <;> cases h

namespace Pattern

variable {language : Language} {context : PatternContext} {source code : Text} {m : String}
  {why : Malformation}

theorem firstClean_ne_invalidMetavariable {texts : List Text} :
    firstClean language texts ≠ .error (.invalidMetavariable m) := by
  induction texts with
  | nil => exact nofun
  | cons text rest ih =>
    intro h
    rcases Except.bind_eq_error_iff.mp h with h | ⟨tree, -, h⟩
    · exact Tree.parse_ne_invalidMetavariable h
    · split at h
      · exact ih h
      · cases h

theorem parsePrepared_ne_invalidMetavariable :
    parsePrepared language code ≠ .error (.invalidMetavariable m) := by
  intro h
  rcases Except.bind_eq_error_iff.mp h with h | ⟨plain, -, h⟩
  · exact Tree.parse_ne_invalidMetavariable h
  · split at h
    · cases h
    split at h
    · cases h
    · rcases Except.bind_eq_error_iff.mp h with h | ⟨found, -, h⟩
      · exact firstClean_ne_invalidMetavariable h
      · cases found <;> cases h

theorem chosenRoot_ne_invalidMetavariable {tree : Tree} {wrapped : Bool}
    {selector : Option String} :
    chosenRoot language tree wrapped selector ≠ .error (.invalidMetavariable m) := by
  intro h
  cases selector with
  | some kind =>
    rw [chosenRoot, selected] at h
    split at h <;> cases h
  | none =>
    rw [chosenRoot, effectiveRoot] at h
    generalize throughSingleChildren (if wrapped then unwrapped tree.root else tree.root) =
      start at h
    split at h <;> cases h

/-- A source whose metavariables cannot be read has a malformed run, which is the reason. -/
theorem exists_of_prepare_eq_error (h : prepare language source = .error why) :
    ∃ text, .malformed text why ∈ Segment.split language.sigil source := by
  have hfold : (Segment.split language.sigil source).foldlM (collect language) ([], []) =
      .error why := h
  obtain ⟨s, hs, acc, hfault⟩ := List.exists_of_foldlM_eq_error hfold
  cases s with
  | literal _ => cases hfault
  | metavariable _ => cases hfault
  | malformed text _ =>
    cases hfault
    exact ⟨text, hs⟩

/-- A pattern is refused for its metavariables if it is not blank and these cannot be read. -/
theorem compileIn_eq_invalidMetavariable_iff :
    compileIn language context = .error (.invalidMetavariable m) ↔
      context.context.isBlankText = false ∧
        ∃ why, prepare language context.context = .error why ∧ why.message = m := by
  constructor
  · intro h
    by_cases hblank : context.context.isBlankText = true
    · rw [compileIn, if_pos hblank] at h
      cases h
    refine ⟨Bool.eq_false_iff.mpr hblank, ?_⟩
    cases hprepare : prepare language context.context with
    | error why =>
      rw [compileIn, if_neg hblank, hprepare] at h
      exact ⟨why, rfl, SyntaxError.invalidMetavariable.inj (Except.error.inj h)⟩
    | ok prepared =>
      obtain ⟨vars, code⟩ := prepared
      cases hparse : parsePrepared language code with
      | error e =>
        rw [compileIn, if_neg hblank, hprepare] at h
        have h : (parsePrepared language code >>= _) = _ := h
        rw [hparse] at h
        cases Except.error.inj h
        exact absurd hparse parsePrepared_ne_invalidMetavariable
      | ok parsed =>
        obtain ⟨tree, wrapped⟩ := parsed
        have hcompile := compileIn_of_prepared (Bool.eq_false_iff.mpr hblank) hprepare hparse
          context.selector
        rw [h] at hcompile
        cases hroot : chosenRoot language tree wrapped context.selector with
        | error e =>
          rw [hroot] at hcompile
          cases hcompile
          exact absurd hroot chosenRoot_ne_invalidMetavariable
        | ok root =>
          rw [hroot] at hcompile
          cases hcompile
  · rintro ⟨hblank, why, hprepare, rfl⟩
    rw [compileIn, if_neg (by simp [hblank]), hprepare]
    rfl

end Pattern

/-! ## All of it -/

namespace Segment

variable {sigil : Char} {t before after : Text} {count : Nat} {s : Segment}

/-- A run that lies in no name makes one segment, which tells what the run is. -/
theorem exists_tells_of_freeRun (h : FreeRun sigil t before count after) :
    ∃ s, (split sigil t).filter (fun s => s.offset? = some (Text.byteLength before)) = [s] ∧
      Tells sigil (Text.byteLength before) count (nameOf after) s := by
  obtain ⟨ps, hreads, hgroups⟩ := exists_groups sigil 0 t
  have hrun : Piece.RunAt sigil 0 ps (Text.byteLength before) count (nameOf after) :=
    hreads.runAt_iff.mpr ⟨before, after, h, rfl, (Nat.zero_add _).symm⟩
  exact ⟨_, hgroups.filter_offset hrun, tells_ofRun ..⟩

/-- A segment that reports a place is made by a run that lies in no name. -/
theorem exists_freeRun {o : Nat} (hs : s ∈ split sigil t) (ho : s.offset? = some o) :
    ∃ before count after, FreeRun sigil t before count after ∧ o = Text.byteLength before ∧
      Tells sigil o count (nameOf after) s := by
  obtain ⟨ps, hreads, hgroups⟩ := exists_groups sigil 0 t
  obtain ⟨count, name, hrun, rfl⟩ := hgroups.exists_runAt hs ho
  obtain ⟨before, after, hfree, rfl, hplace⟩ := hreads.runAt_iff.mp hrun
  exact ⟨before, count, after, hfree, hplace.trans (Nat.zero_add _), tells_ofRun ..⟩

/-- Some segment is malformed if some run is: neither one sigil with a name nor three sigils. -/
theorem exists_malformed_iff :
    (∃ text why, .malformed text why ∈ split sigil t) ↔
      ∃ before count after, FreeRun sigil t before count after ∧
        ¬(count = 1 ∧ nameOf after ≠ []) ∧ count ≠ 3 := by
  constructor
  · rintro ⟨text, why, hs⟩
    obtain ⟨before, count, after, hfree, -, htells⟩ := exists_freeRun hs rfl
    exact ⟨before, count, after, hfree, htells.malformed.mp rfl⟩
  · rintro ⟨before, count, after, hfree, hcount⟩
    obtain ⟨s, hfilter, htells⟩ := exists_tells_of_freeRun hfree
    have hs : s ∈ split sigil t := (List.mem_filter.mp (hfilter ▸ List.mem_singleton_self s)).1
    have hmalformed := htells.malformed.mpr hcount
    cases s with
    | literal _ => cases hmalformed
    | metavariable _ => cases hmalformed
    | malformed text why => exact ⟨text, why, hs⟩

/-- With a sigil that is no blank, a pattern is refused for its metavariables if some segment of it
is malformed, and the reason is that of a malformed segment. -/
theorem compileIn_of_malformed {language : Language} (hsigil : Text.isBlank language.sigil = false)
    (selector : Option String) :
    ((∃ m, Pattern.compileIn language ⟨t, selector⟩ = .error (.invalidMetavariable m)) ↔
        ∃ text why, .malformed text why ∈ split language.sigil t) ∧
      ∀ m, Pattern.compileIn language ⟨t, selector⟩ = .error (.invalidMetavariable m) →
        ∃ text why, .malformed text why ∈ split language.sigil t ∧ m = why.message := by
  have hreason : ∀ m,
      Pattern.compileIn language ⟨t, selector⟩ = .error (.invalidMetavariable m) →
        ∃ text why, .malformed text why ∈ split language.sigil t ∧ m = why.message := by
    intro m h
    obtain ⟨-, why, hprepare, rfl⟩ := Pattern.compileIn_eq_invalidMetavariable_iff.mp h
    obtain ⟨text, hs⟩ := Pattern.exists_of_prepare_eq_error hprepare
    exact ⟨text, why, hs, rfl⟩
  refine ⟨⟨?_, ?_⟩, hreason⟩
  · rintro ⟨m, h⟩
    obtain ⟨text, why, hs, -⟩ := hreason m h
    exact ⟨text, why, hs⟩
  · rintro ⟨text, why, hs⟩
    -- there is a sigil in the source, so it is not blank
    obtain ⟨before, count, after, hfree, -⟩ := exists_freeRun hs rfl
    have hmem : language.sigil ∈ t := by
      rw [hfree.text]
      exact List.mem_append_right _ (List.mem_append_left _
        (List.mem_replicate.mpr ⟨Nat.ne_of_gt hfree.pos, rfl⟩))
    have hblank : Text.isBlankText t = false := by
      rw [Text.isBlankText, List.all_eq_false]
      exact ⟨language.sigil, hmem, by simp [hsigil]⟩
    cases hprepare : Pattern.prepare language t with
    | error why' =>
      exact ⟨_, Pattern.compileIn_eq_invalidMetavariable_iff.mpr ⟨hblank, why', hprepare, rfl⟩⟩
    | ok prepared =>
      exact absurd hs ((Pattern.prepare_eq_ok_iff.mp hprepare).1 text why)

/-- The segments of a text cover it without loss and in order, and those that are neither
metavariables nor malformed have no sigil. Each run of sigils that lies in no name makes one
segment: a metavariable for one node if it is one sigil with a name behind it, a metavariable for
siblings if it is three sigils, and a malformed one otherwise; there are no others, and each reports
the byte at which its first sigil stands. A pattern is refused for its metavariables exactly if some
run is malformed, and the reason given is that of a malformed segment. -/
theorem split_covers_and_tells (sigil : Char) (t : Text) :
    Covers sigil 0 t (split sigil t) ∧
      (∀ text, .literal text ∈ split sigil t → sigil ∉ text) ∧
      (∀ before count after, FreeRun sigil t before count after → ∃ s,
        (split sigil t).filter (fun s => s.offset? = some (Text.byteLength before)) = [s] ∧
          Tells sigil (Text.byteLength before) count (nameOf after) s) ∧
      (∀ s ∈ split sigil t, ∀ o ∈ s.offset?, ∃ before count after,
        FreeRun sigil t before count after ∧ o = Text.byteLength before) ∧
      ∀ language, Registry.Holds language → language.sigil = sigil → ∀ selector,
        ((∃ m, Pattern.compileIn language ⟨t, selector⟩ = .error (.invalidMetavariable m)) ↔
          ∃ before count after, FreeRun sigil t before count after ∧
            ¬(count = 1 ∧ nameOf after ≠ []) ∧ count ≠ 3) ∧
        ∀ m, Pattern.compileIn language ⟨t, selector⟩ = .error (.invalidMetavariable m) →
          ∃ text why, .malformed text why ∈ split sigil t ∧ m = why.message := by
  obtain ⟨ps, hreads, hgroups⟩ := exists_groups sigil 0 t
  refine ⟨?covers, ?literals, fun before count after => exists_tells_of_freeRun, ?runs, ?compile⟩
  case covers =>
    have hcovers := hgroups.covers
    rwa [hreads.flatMap_written] at hcovers
  case literals =>
    intro text hs hmem
    exact hreads.ne_of_plain_mem (hgroups.plain_mem hs hmem) rfl
  case runs =>
    intro s hs o ho
    obtain ⟨before, count, after, hfree, hplace, -⟩ := exists_freeRun hs ho
    exact ⟨before, count, after, hfree, hplace⟩
  case compile =>
    rintro language hlanguage rfl selector
    obtain ⟨hrefused, hreason⟩ := compileIn_of_malformed hlanguage.isBlank_sigil selector (t := t)
    exact ⟨hrefused.trans exists_malformed_iff, hreason⟩

end Segment

/-! ## An example -/

/-- A language whose sigil is a character of names. -/
def letters : Language where
  name := "letters"
  sigil := 'X'
  expando := '_'
  extensions := []
  builtin := none
  grammar := ⟨fun _ => none, fun _ => false, fun _ => false⟩

theorem holds_letters : Registry.Holds letters :=
  ⟨none, [⟨fun _ _ => .ok ⟨newestVersion, letters.grammar⟩, "letters",
    ⟨"letters.so", "tree_sitter_letters", some 'X', none, []⟩⟩], "letters", rfl⟩

/-- Two sigils are refused, and the third one belongs to the name behind them. -/
theorem compileIn_doubledSigil :
    Registry.Holds letters ∧ FreeRun 'X' "XXAX".toList [] 2 "AX".toList ∧
      Segment.split 'X' "XXAX".toList = [.malformed "XXAX".toList (.sigilCount 0 'X' 2)] ∧
      (∃ s, (Segment.split 'X' "XXAX".toList).filter (fun s => s.offset? = some 0) = [s] ∧
        Segment.Tells 'X' 0 2 "AX".toList s) ∧
      ∃ m, Pattern.compileIn letters ⟨"XXAX".toList, none⟩ = .error (.invalidMetavariable m) := by
  have hrun : FreeRun 'X' "XXAX".toList [] 2 "AX".toList :=
    IsRun.free ⟨rfl, by decide, nofun, by decide⟩
  obtain ⟨-, -, htells, -, hcompile⟩ := Segment.split_covers_and_tells 'X' "XXAX".toList
  exact ⟨holds_letters, hrun, by decide +kernel, htells [] 2 _ hrun,
    (hcompile letters holds_letters rfl none).1.mpr ⟨[], 2, _, hrun, by decide, by decide⟩⟩

end StructuralSearch
