import StructuralSearch.Proofs.NameMap
import StructuralSearch.Registry.Basic

/-!
# Making languages known

A registry only grows. A call that fails leaves it as it was, and one that succeeds adds a language
under a name that was free. So a registry is given by the languages that it holds, in the order in
which they came: a name belongs to the only language that has it, and an extension to the first that
claims it.

* `Registry.Call`, `Registry.perform`: a call, what it answers and what it leaves.
* `Registry.granted`: the languages that several calls make known.
* `Registry.Lists`: the registry holds these languages, which came in this order.
* `Registry.Holds`: a language that a registry holds after some calls.

Results:
1. `Registry.perform_cases`: what a call can come to.
2. `Registry.Lists.insert`, `Registry.Lists.run`: adding a language, and calls one after another.
3. `Registry.Holds.isBlank_sigil`: the sigil of a language that is held.
4. `Registry.registerAll_eq_ok_iff`, `Registry.registerAll_eq_error_iff`: registering a map.
5. `Registry.first_claim_counts`: names and extensions after any calls.
-/

namespace StructuralSearch

/-! ## What registrations claim -/

namespace Registration

variable {raw extension : String} {conventions : Conventions} {registration : Registration}

theorem ne_empty_of_normalExtension (h : normalExtension raw = .ok extension) : extension ≠ "" := by
  rw [normalExtension] at h
  split at h
  · cases h
  · next hbare =>
    rintro rfl
    have hempty := congrArg String.toList (Except.ok.inj h)
    rw [String.toList_ofList, String.toList_empty] at hempty
    simp [hempty] at hbare

/-- No registration claims files without an extension. -/
theorem empty_not_mem_extensions (h : registration.conventions = .ok conventions) :
    "" ∉ conventions.extensions := by
  rw [Registration.conventions] at h
  split at h
  · cases h
  · dsimp only at h
    split at h
    · cases h
    · split at h
      · cases h
      · obtain ⟨extensions, hextensions, h⟩ := Except.bind_eq_ok_iff.mp h
        cases h
        intro hmem
        obtain ⟨raw, -, hraw⟩ := List.exists_of_mem_mapM hextensions hmem
        exact ne_empty_of_normalExtension hraw rfl

/-- No registration makes a blank the sigil of a language. -/
theorem isBlank_sigil (h : registration.conventions = .ok conventions) :
    Text.isBlank conventions.sigil = false := by
  rw [Registration.conventions] at h
  split at h
  · cases h
  · dsimp only at h
    split at h
    · cases h
    · split at h
      · cases h
      · next hblank =>
        obtain ⟨extensions, -, h⟩ := Except.bind_eq_ok_iff.mp h
        cases h
        rw [Bool.or_eq_true, not_or] at hblank
        exact Bool.eq_false_iff.mpr hblank.1

end Registration

namespace Registry

/-! ## Calls -/

/-- A request to make a language known, with what the libraries hold when it is made. -/
structure Call where
  loader : Loader
  name : String
  registration : Registration

/-- The language that a call asks for, given its conventions and its grammar. -/
def Call.language (c : Call) (conventions : Conventions) (grammar : Grammar) : Language :=
  ⟨c.name, conventions.sigil, conventions.expando, conventions.extensions, none, grammar⟩

/-- What a call answers, and the registry that it leaves. The answer is looked up after the language
was added. -/
def perform (r : Registry) (c : Call) : Except SyntaxError Language × Registry :=
  match r.register c.loader c.name c.registration with
  | .error e => (.error e, r)
  | .ok after =>
    match after.get? c.name with
    | some l => (.ok l, after)
    | none => (.error (.unknownLanguage c.name), after)

/-- The registry after several calls. -/
def run (r : Registry) (calls : List Call) : Registry := calls.foldl (fun r c => (r.perform c).2) r

/-- The languages that several calls make known, in order. -/
def granted (r : Registry) : List Call → List Language
  | [] => []
  | c :: calls => (r.perform c).1.toOption.toList ++ granted (r.perform c).2 calls

/-- Every one of several calls succeeds. -/
def Succeed (r : Registry) : List Call → Prop
  | [] => True
  | c :: calls => (∃ l, (r.perform c).1 = .ok l) ∧ Succeed (r.perform c).2 calls

variable {r r' : Registry} {loader : Loader} {name extension : String} {registration : Registration}
  {l : Language} {known : List Language}

/-- A registration that succeeds adds a language under a name that was free. -/
theorem exists_of_register (h : r.register loader name registration = .ok r') :
    r.languages.contains name = false ∧ ∃ conventions grammar,
      registration.conventions = .ok conventions ∧ load loader registration = .ok grammar ∧
      r' = r.insert (Call.language ⟨loader, name, registration⟩ conventions grammar) := by
  rw [register] at h
  split at h
  · cases h
  · dsimp only at h
    split at h
    · cases h
    · next hfree =>
      obtain ⟨conventions, hconventions, h⟩ := Except.bind_eq_ok_iff.mp h
      obtain ⟨grammar, hgrammar, h⟩ := Except.bind_eq_ok_iff.mp h
      exact ⟨Bool.eq_false_iff.mpr hfree, conventions, grammar,
        Except.mapError_eq_ok_iff.mp hconventions, Except.mapError_eq_ok_iff.mp hgrammar,
        (Except.ok.inj h).symm⟩

/-- What a call can come to: a refusal that changes nothing, or a language that is added under a
name that was free. -/
theorem perform_cases (r : Registry) (c : Call) :
    (∃ e, r.register c.loader c.name c.registration = .error e ∧ r.perform c = (.error e, r)) ∨
    ∃ conventions grammar, c.registration.conventions = .ok conventions ∧
      load c.loader c.registration = .ok grammar ∧ r.get? c.name = none ∧
      r.register c.loader c.name c.registration =
        .ok (r.insert (c.language conventions grammar)) ∧
      r.perform c =
        (.ok (c.language conventions grammar), r.insert (c.language conventions grammar)) := by
  cases hr : r.register c.loader c.name c.registration with
  | error e => exact Or.inl ⟨e, rfl, by rw [perform, hr]⟩
  | ok after =>
    obtain ⟨hfree, conventions, grammar, hconventions, hgrammar, rfl⟩ := exists_of_register hr
    have hnone : r.get? c.name = none := by
      rwa [NameMap.contains, Option.isSome_eq_false_iff, Option.isNone_iff_eq_none] at hfree
    have hfound : (r.insert (c.language conventions grammar)).get? c.name =
        some (c.language conventions grammar) :=
      NameMap.find?_insert_self c.name (c.language conventions grammar) r.languages
    refine Or.inr ⟨conventions, grammar, hconventions, hgrammar, hnone, rfl, ?_⟩
    unfold perform
    rw [hr]
    simp only [hfound]

theorem run_nil (r : Registry) : r.run [] = r := rfl

theorem run_cons (r : Registry) (c : Call) (calls : List Call) :
    r.run (c :: calls) = (r.perform c).2.run calls := rfl

theorem succeed_cons {c : Call} {calls : List Call} :
    r.Succeed (c :: calls) ↔
      (∃ l, (r.perform c).1 = .ok l) ∧ (r.perform c).2.Succeed calls := Iff.rfl

/-! ## The languages of a registry -/

/-- The first of several languages that claims an extension. -/
def firstClaim (known : List Language) (extension : String) : Option Language :=
  known.find? fun l => l.extensions.contains extension

/-- The registry holds these languages, which came in this order. -/
structure Lists (r : Registry) (known : List Language) : Prop where
  languages : r.languages = known.map fun l => (l.name, l)
  nodup : (known.map Language.name).Nodup
  extensions : ∀ extension,
    r.extensions.find? extension = (firstClaim known extension).map Language.name
  nonempty : ∀ l ∈ known, "" ∉ l.extensions

theorem Lists.names (h : r.Lists known) : NameMap.names r.languages = known.map Language.name := by
  rw [h.languages, NameMap.names, List.map_map]
  rfl

theorem Lists.get?_of_mem (h : r.Lists known) (hl : l ∈ known) : r.get? l.name = some l := by
  have hmem : (l.name, l) ∈ r.languages := by
    rw [h.languages]
    exact List.mem_map_of_mem hl
  exact NameMap.find?_of_mem (h.names ▸ h.nodup) hmem

theorem Lists.mem_of_get? (h : r.Lists known) (hl : r.get? name = some l) :
    l ∈ known ∧ l.name = name := by
  have hmem := NameMap.mem_of_find? hl
  rw [h.languages] at hmem
  obtain ⟨k, hk, heq⟩ := List.mem_map.mp hmem
  obtain ⟨rfl, rfl⟩ := Prod.mk.inj heq
  exact ⟨hk, rfl⟩

theorem Lists.not_mem_of_get? (h : r.Lists known) (hnone : r.get? name = none) :
    name ∉ known.map Language.name := by
  rintro hmem
  obtain ⟨k, hk, rfl⟩ := List.mem_map.mp hmem
  cases (h.get?_of_mem hk).symm.trans hnone

/-- An extension keeps its language; the new language claims those that are free. -/
theorem find?_claims (name extension : String) (extensions : List String) (m : NameMap String) :
    (extensions.foldl (fun claimed e => claimed.union [(e, name)]) m).find? extension =
      (m.find? extension).or (if extensions.contains extension then some name else none) := by
  induction extensions generalizing m with
  | nil => simp
  | cons e extensions ih =>
    rw [List.foldl_cons, ih, NameMap.find?_union, Option.or_assoc, List.contains_cons]
    by_cases he : (extension == e) = true <;> simp [NameMap.find?, List.lookup_cons, he]

/-- A language whose name is new comes last. -/
theorem Lists.insert (h : r.Lists known) (hname : l.name ∉ known.map Language.name)
    (hextensions : "" ∉ l.extensions) : (r.insert l).Lists (known ++ [l]) := by
  constructor
  case languages =>
    show r.languages.insert l.name l = _
    rw [NameMap.insert_of_not_mem (h.names ▸ hname), h.languages, List.map_append]
    rfl
  case nodup =>
    rw [List.map_append]
    exact h.nodup.append (List.nodup_singleton _) (List.disjoint_singleton.mpr hname)
  case extensions =>
    intro extension
    show NameMap.find? (l.extensions.foldl _ r.extensions) extension = _
    rw [find?_claims, h.extensions, firstClaim, firstClaim, List.find?_append, List.find?_singleton,
      Option.map_or]
    split <;> rfl
  case nonempty =>
    refine List.forall_mem_append.mpr ⟨h.nonempty, fun k hk => ?_⟩
    obtain rfl := List.mem_singleton.mp hk
    exact hextensions

theorem Lists.insertAll {ls : List Language} (h : r.Lists known)
    (hnames : ((known ++ ls).map Language.name).Nodup) (hextensions : ∀ l ∈ ls, "" ∉ l.extensions) :
    (ls.foldl Registry.insert r).Lists (known ++ ls) := by
  induction ls generalizing r known with
  | nil => rwa [List.append_nil]
  | cons l ls ih =>
    obtain ⟨hl, hls⟩ := List.forall_mem_cons.mp hextensions
    rw [List.append_cons] at hnames ⊢
    refine ih (h.insert ?_ hl) hnames hls
    rw [List.map_append, List.map_append] at hnames
    intro hmem
    exact (List.nodup_append.mp (List.nodup_append.mp hnames).1).2.2 _ hmem l.name (by simp) rfl

/-- A call adds the language that it answers with, if any. -/
theorem Lists.perform (h : r.Lists known) (c : Call) :
    (r.perform c).2.Lists (known ++ (r.perform c).1.toOption.toList) := by
  rcases r.perform_cases c with ⟨e, -, hperform⟩ |
    ⟨conventions, grammar, hconventions, -, hfree, -, hperform⟩
  · rw [hperform]
    exact (List.append_nil known).symm ▸ h
  · rw [hperform]
    exact h.insert (h.not_mem_of_get? hfree) (Registration.empty_not_mem_extensions hconventions)

/-- After several calls, a registry holds the languages that it held and those that the calls made
known. -/
theorem Lists.run (h : r.Lists known) (calls : List Call) :
    (r.run calls).Lists (known ++ r.granted calls) := by
  induction calls generalizing r known with
  | nil => exact (List.append_nil known).symm ▸ h
  | cons c calls ih =>
    rw [granted, ← List.append_assoc]
    exact ih (h.perform c)

/-- A language that calls make known has the conventions of a registration. -/
theorem exists_of_mem_granted {calls : List Call} (hl : l ∈ r.granted calls) :
    ∃ c ∈ calls, ∃ conventions grammar, c.registration.conventions = .ok conventions ∧
      l = c.language conventions grammar := by
  induction calls generalizing r with
  | nil => exact absurd hl List.not_mem_nil
  | cons c calls ih =>
    rcases List.mem_append.mp hl with hl | hl
    · refine ⟨c, List.mem_cons_self, ?_⟩
      rcases r.perform_cases c with ⟨failure, -, hperform⟩ |
        ⟨conventions, grammar, hconventions, -, -, -, hperform⟩
      · simp [hperform, Except.toOption] at hl
      · rw [hperform] at hl
        exact ⟨conventions, grammar, hconventions, by simpa [Except.toOption] using hl⟩
    · obtain ⟨c', hc', hlanguage⟩ := ih hl
      exact ⟨c', List.mem_cons_of_mem c hc', hlanguage⟩

/-! ## Where registries begin -/

/-- The registry to begin with: an empty one, or that of the builtin languages. -/
def starting : Option (Builtin → Grammar) → Registry
  | none => .empty
  | some grammars => .withBuiltins grammars

/-- The languages to begin with. -/
def startingLanguages : Option (Builtin → Grammar) → List Language
  | none => []
  | some grammars => Builtin.all.map fun b => .ofBuiltin b (grammars b)

theorem lists_starting (start : Option (Builtin → Grammar)) :
    (starting start).Lists (startingLanguages start) := by
  have hempty : empty.Lists [] := ⟨rfl, List.nodup_nil, fun _ => rfl, by simp⟩
  cases start with
  | none => exact hempty
  | some grammars =>
    have hnames : ((startingLanguages (some grammars)).map Language.name).Nodup := by
      rw [startingLanguages, List.map_map]
      show (Builtin.all.map Builtin.name).Nodup
      decide
    have hextensions : ∀ l ∈ startingLanguages (some grammars), "" ∉ l.extensions := by
      intro l hl
      obtain ⟨b, -, rfl⟩ := List.mem_map.mp hl
      show "" ∉ b.extensions
      cases b <;> decide
    have hstarting : (startingLanguages (some grammars)).foldl Registry.insert empty =
        starting (some grammars) := List.foldl_map
    exact hstarting ▸ hempty.insertAll hnames hextensions

/-- The language is held by a registry, after any calls. -/
def Holds (l : Language) : Prop :=
  ∃ start calls name, ((starting start).run calls).get? name = some l

/-- No language that a registry holds has a blank for its sigil. -/
theorem Holds.isBlank_sigil (h : Holds l) : Text.isBlank l.sigil = false := by
  obtain ⟨start, calls, name, hget⟩ := h
  have hmem := (((lists_starting start).run calls).mem_of_get? hget).1
  rcases List.mem_append.mp hmem with hstart | hgranted
  · cases start with
    | none => exact absurd hstart List.not_mem_nil
    | some grammars =>
      obtain ⟨b, -, rfl⟩ := List.mem_map.mp hstart
      show Text.isBlank Language.defaultSigil = false
      decide
  · obtain ⟨c, -, conventions, grammar, hconventions, rfl⟩ := exists_of_mem_granted hgranted
    exact Registration.isBlank_sigil hconventions

/-! ## Registering a map -/

/-- The calls that register the entries of a map one after the other. -/
def callsOf (loader : Loader) (entries : NameMap Registration) : List Call :=
  entries.map fun e => ⟨loader, e.1, e.2⟩

theorem callsOf_cons (loader : Loader) (e : String × Registration)
    (entries : NameMap Registration) :
    callsOf loader (e :: entries) = ⟨loader, e.1, e.2⟩ :: callsOf loader entries := rfl

theorem registerAll_cons (r : Registry) (loader : Loader) (e : String × Registration)
    (entries : NameMap Registration) :
    r.registerAll loader (e :: entries) =
      r.register loader e.1 e.2 >>= fun r => r.registerAll loader entries := List.foldlM_cons

/-- Registering a map succeeds if every call does, and then leaves what the calls leave. -/
theorem registerAll_eq_ok_iff {entries : NameMap Registration} :
    r.registerAll loader entries = .ok r' ↔
      r.Succeed (callsOf loader entries) ∧ r.run (callsOf loader entries) = r' := by
  induction entries generalizing r with
  | nil =>
    show Except.ok r = .ok r' ↔ True ∧ r = r'
    rw [Except.ok.injEq, true_and]
  | cons e entries ih =>
    rw [registerAll_cons, callsOf_cons, succeed_cons, run_cons]
    rcases r.perform_cases ⟨loader, e.1, e.2⟩ with ⟨failure, hregister, hperform⟩ |
      ⟨conventions, grammar, -, -, -, hregister, hperform⟩
    · rw [hregister, hperform]
      simp [bind, Except.bind]
    · rw [hregister, hperform]
      simpa [bind, Except.bind] using ih

/-- The ways to pick an entry of a list are picking the first and picking one of the others. -/
theorem exists_pick_cons {α : Type} {P : List α → α → Prop} {x : α} {l : List α} :
    (∃ before c after, x :: l = before ++ c :: after ∧ P before c) ↔
      P [] x ∨ ∃ before c after, l = before ++ c :: after ∧ P (x :: before) c := by
  constructor
  · rintro ⟨before, c, after, hsplit, hp⟩
    cases before with
    | nil =>
      obtain ⟨rfl, -⟩ := List.cons.inj hsplit
      exact Or.inl hp
    | cons b before =>
      obtain ⟨rfl, htail⟩ := List.cons.inj hsplit
      exact Or.inr ⟨before, c, after, htail, hp⟩
  · rintro (hp | ⟨before, c, after, rfl, hp⟩)
    · exact ⟨[], x, l, rfl, hp⟩
    · exact ⟨x :: before, c, after, rfl, hp⟩

/-- Registering a map fails with the failure of the first call that fails. -/
theorem registerAll_eq_error_iff {entries : NameMap Registration} {failure : SyntaxError} :
    r.registerAll loader entries = .error failure ↔
      ∃ before c after, callsOf loader entries = before ++ c :: after ∧ r.Succeed before ∧
        ((r.run before).perform c).1 = .error failure := by
  induction entries generalizing r with
  | nil => simp [registerAll, callsOf, pure, Except.pure]
  | cons e entries ih =>
    rw [registerAll_cons, callsOf_cons, exists_pick_cons]
    simp only [succeed_cons, run_nil, run_cons]
    rcases r.perform_cases ⟨loader, e.1, e.2⟩ with ⟨first, hregister, hperform⟩ |
      ⟨conventions, grammar, -, -, -, hregister, hperform⟩
    · rw [hregister, hperform]
      simp [Succeed, bind, Except.bind]
    · rw [hregister, hperform]
      simpa [bind, Except.bind] using ih

/-! ## Names and extensions -/

/-- An extension in lower case. -/
def lowered (extension : Text) : String := String.ofList (extension.map Char.toLower)

/-- An extension leads to the first language that claims it. -/
theorem Lists.bind_get? (h : r.Lists known) (extension : String) :
    (r.extensions.find? extension).bind r.get? = firstClaim known extension := by
  rw [h.extensions]
  cases hclaim : firstClaim known extension with
  | none => rfl
  | some l => exact h.get?_of_mem (List.mem_of_find?_eq_some hclaim)

theorem Lists.fromPath_of_claim (h : r.Lists known) {path : String} {extension : Text}
    (hpath : Path.extension? path.toList = some extension)
    (hclaim : firstClaim known (lowered extension) = some l) : r.fromPath path = .ok l := by
  simp only [fromPath, hpath, Option.getD_some, h.bind_get?]
  rw [← lowered, hclaim]

/-- No language claims files without an extension. -/
theorem Lists.firstClaim_empty (h : r.Lists known) : firstClaim known "" = none := by
  refine List.find?_eq_none.mpr fun l hl => ?_
  simpa using h.nonempty l hl

theorem Lists.fromPath_of_no_claim (h : r.Lists known) {path : String}
    (hclaim : ∀ extension, Path.extension? path.toList = some extension →
      firstClaim known (lowered extension) = none) :
    r.fromPath path =
      .error (.unsupportedExtension (lowered ((Path.extension? path.toList).getD []))) := by
  have hnone : firstClaim known (lowered ((Path.extension? path.toList).getD [])) = none := by
    cases hpath : Path.extension? path.toList with
    | none => exact h.firstClaim_empty
    | some extension => exact hclaim extension hpath
  simp only [fromPath, h.bind_get?]
  rw [← lowered, hnone]

/-- A name keeps its language. -/
theorem Lists.get?_run (h : r.Lists known) (hl : r.get? name = some l) (more : List Call) :
    (r.run more).get? name = some l := by
  obtain ⟨hmem, rfl⟩ := h.mem_of_get? hl
  exact (h.run more).get?_of_mem (List.mem_append_left _ hmem)

theorem get?_insert (r : Registry) (l : Language) (name : String) :
    (r.insert l).get? name = if name = l.name then some l else r.get? name := by
  split
  · next h =>
    subst h
    exact NameMap.find?_insert_self l.name l r.languages
  · next h => exact NameMap.find?_insert_of_ne h l r.languages

/-- After any calls, on an empty registry or on that of the builtin languages, the next call either
fails and changes nothing, or makes a language known under a name that was free, and nothing else.
Whatever calls follow, a name keeps its language, and a file has the first language that claimed its
extension; if there is none, its extension is unsupported. Registering a map on top of the builtin
languages is one call for each entry in the order of the names, up to the first that fails. -/
theorem first_claim_counts (start : Option (Builtin → Grammar)) (calls : List Call) :
    let r := (starting start).run calls
    let known := startingLanguages start ++ (starting start).granted calls
    (∀ c, (∃ failure, r.perform c = (.error failure, r)) ∨
      ∃ conventions grammar, c.registration.conventions = .ok conventions ∧
        load c.loader c.registration = .ok grammar ∧ r.get? c.name = none ∧
        (r.perform c).1 = .ok (c.language conventions grammar) ∧
        ∀ name, (r.perform c).2.get? name =
          if name = c.name then some (c.language conventions grammar) else r.get? name) ∧
    (∀ name l, r.get? name = some l → ∀ more, (r.run more).get? name = some l) ∧
    (∀ extension name, r.extensions.find? extension = some name → ∃ l, r.get? name = some l) ∧
    (∀ path extension l, Path.extension? path.toList = some extension →
      firstClaim known (lowered extension) = some l →
      ∀ more, (r.run more).fromPath path = .ok l) ∧
    (∀ path, (∀ extension, Path.extension? path.toList = some extension →
        firstClaim known (lowered extension) = none) →
      r.fromPath path =
        .error (.unsupportedExtension (lowered ((Path.extension? path.toList).getD [])))) ∧
    (∀ entries : List (String × Registration),
      (NameMap.ofEntries entries).names.Pairwise (· < ·)) ∧
    ∀ grammars loader (entries : NameMap Registration),
      (∀ r', fromConfig grammars loader entries = .ok r' ↔
        (starting (some grammars)).Succeed (callsOf loader entries) ∧
          (starting (some grammars)).run (callsOf loader entries) = r') ∧
      ∀ failure, fromConfig grammars loader entries = .error failure ↔
        ∃ before c after, callsOf loader entries = before ++ c :: after ∧
          (starting (some grammars)).Succeed before ∧
          (((starting (some grammars)).run before).perform c).1 = .error failure := by
  intro r known
  have hlists : r.Lists known := (lists_starting start).run calls
  refine ⟨fun c => ?call, fun name l hl more => hlists.get?_run hl more, fun extension name hname =>
    ?entry, fun path extension l hpath hclaim more => ?claimed, fun path hclaim =>
    hlists.fromPath_of_no_claim hclaim, NameMap.pairwise_ofEntries, fun grammars loader entries =>
    ⟨fun r' => registerAll_eq_ok_iff, fun failure => registerAll_eq_error_iff⟩⟩
  case call =>
    rcases r.perform_cases c with ⟨failure, -, hperform⟩ |
      ⟨conventions, grammar, hconventions, hgrammar, hfree, -, hperform⟩
    · exact Or.inl ⟨failure, hperform⟩
    · refine Or.inr ⟨conventions, grammar, hconventions, hgrammar, hfree, ?_, fun name => ?_⟩
      · rw [hperform]
      · rw [hperform]
        exact get?_insert r (c.language conventions grammar) name
  case entry =>
    rw [hlists.extensions] at hname
    obtain ⟨l, hl, rfl⟩ := Option.map_eq_some_iff.mp hname
    exact ⟨l, hlists.get?_of_mem (List.mem_of_find?_eq_some hl)⟩
  case claimed =>
    refine (hlists.run more).fromPath_of_claim hpath ?_
    rw [firstClaim, List.find?_append]
    exact Option.or_eq_some_iff.mpr (Or.inl hclaim)

/-- A call for a language that claims an extension of its own and one that is taken. -/
def tomlCall : Call where
  loader := fun _ _ => .ok ⟨newestVersion, ⟨fun _ => none, fun _ => false, fun _ => false⟩⟩
  name := "toml"
  registration := ⟨"toml.so", "tree_sitter_toml", none, none, [".TOML", "rs"]⟩

/-- The new language has the files of its own extension, and no others. -/
theorem fromPath_toml (grammars : Builtin → Grammar) :
    ∃ l rust, ((starting (some grammars)).run [tomlCall]).fromPath "Cargo.Toml" = .ok l ∧
      ((starting (some grammars)).run [tomlCall]).fromPath "main.rs" = .ok rust ∧
      l.name = "toml" ∧ rust.name = "rust" := by
  obtain ⟨-, -, -, hclaimed, -⟩ := first_claim_counts (some grammars) [tomlCall]
  exact ⟨_, _, hclaimed "Cargo.Toml" "Toml".toList _ rfl rfl [],
    hclaimed "main.rs" "rs".toList _ rfl rfl [], rfl, rfl⟩

end Registry

end StructuralSearch
