import StructuralSearch.Rule.Evaluation

/-!
# Searches

A search tries one node after the other until one is accepted or cannot be settled. With a stop
rule, it takes the nodes from a stack and puts their children on top, so what is on the stack is
what is left to do: a list of subtrees, each of which is searched before the next. A search from a
node to its children that calls itself does the same.

* `Rule.searchBelow`: the search of one subtree.

Results:
1. `Rule.firstVerdict_append`, `Rule.firstVerdict_eq_rejected_iff`: searches in lists.
2. `Rule.searchStack_eq`: a search with a stack searches the subtrees on the stack in order.
-/

namespace StructuralSearch

namespace Rule

/-! ## Searches in lists -/

section

variable {α β : Type} {judge : α → Verdict} {e : Env}

theorem exists_of_orElse {v : Verdict} {next : Unit → Verdict} (h : v.orElse next = .accepted e) :
    v = .accepted e ∨ next () = .accepted e := by
  cases v with
  | accepted e' => exact Or.inl h
  | rejected => exact Or.inr h
  | unsettled => cases h

theorem exists_of_firstVerdict {l : List α} (h : firstVerdict judge l = .accepted e) :
    ∃ a ∈ l, judge a = .accepted e := by
  induction l with
  | nil => cases h
  | cons a l ih =>
    rw [firstVerdict] at h
    rcases exists_of_orElse h with h | h
    · exact ⟨a, List.mem_cons_self, h⟩
    · obtain ⟨b, hb, h⟩ := ih h
      exact ⟨b, List.mem_cons_of_mem a hb, h⟩

/-- A search finds nothing if everything is rejected. -/
theorem firstVerdict_eq_rejected_iff {l : List α} :
    firstVerdict judge l = .rejected ↔ ∀ a ∈ l, judge a = .rejected := by
  induction l with
  | nil => simp [firstVerdict]
  | cons a l ih =>
    rw [firstVerdict, List.forall_mem_cons, ← ih]
    cases judge a <;> simp [Verdict.orElse]

/-- If the search settles everywhere, it finds something exactly if something is accepted. -/
theorem isSome_env?_firstVerdict {l : List α} (h : ∀ a ∈ l, judge a ≠ .unsettled) :
    (firstVerdict judge l).env?.isSome = l.any fun a => (judge a).env?.isSome := by
  induction l with
  | nil => rfl
  | cons a l ih =>
    obtain ⟨ha, hl⟩ := List.forall_mem_cons.mp h
    rw [firstVerdict, List.any_cons, ← ih hl]
    cases hj : judge a with
    | accepted e => rfl
    | rejected => rfl
    | unsettled => exact absurd hj ha

theorem orElse_assoc (u v w : Verdict) :
    (u.orElse fun _ => v).orElse (fun _ => w) = u.orElse fun _ => v.orElse fun _ => w := by
  cases u <;> rfl

/-- A search goes on in the second list if everything in the first is rejected. -/
theorem firstVerdict_append (l l' : List α) :
    firstVerdict judge (l ++ l') =
      (firstVerdict judge l).orElse fun _ => firstVerdict judge l' := by
  induction l with
  | nil => rfl
  | cons a l ih => rw [List.cons_append, firstVerdict, firstVerdict, ih, orElse_assoc]

theorem firstVerdict_flatMap (f : β → List α) (l : List β) :
    firstVerdict judge (l.flatMap f) = firstVerdict (fun b => firstVerdict judge (f b)) l := by
  induction l with
  | nil => rfl
  | cons b l ih => rw [List.flatMap_cons, firstVerdict_append, firstVerdict, ih]

theorem firstVerdict_congr {judge' : α → Verdict} {l : List α}
    (h : ∀ a ∈ l, judge a = judge' a) : firstVerdict judge l = firstVerdict judge' l := by
  induction l with
  | nil => rfl
  | cons a l ih =>
    obtain ⟨ha, hl⟩ := List.forall_mem_cons.mp h
    rw [firstVerdict, firstVerdict, ha, ih hl]

theorem firstVerdict_map (f : β → α) (l : List β) :
    firstVerdict judge (l.map f) = firstVerdict (fun b => judge (f b)) l := by
  induction l with
  | nil => rfl
  | cons b l ih => rw [List.map_cons, firstVerdict, firstVerdict, ih]

theorem firstVerdict_attach (l : List α) :
    firstVerdict (fun a => judge a.1) l.attach = firstVerdict judge l := by
  rw [← firstVerdict_map Subtype.val, List.attach_map_subtype_val]

end

/-! ## Searches with a stack -/

/-- The first verdict on a node or a descendant that is no rejection; the search does not go below
nodes that do not satisfy the stop rule, nor does it consider them. -/
def searchBelow (stop : Judgement) (target : Node → Verdict) (n : Node) : Verdict :=
  match stop n .empty with
  | .unsettled => .unsettled
  | .rejected => .rejected
  | .accepted _ => (target n).orElse fun _ =>
    firstVerdict (fun c => searchBelow stop target c.1) n.children.attach
termination_by n.tree.size - n.id
decreasing_by exact Node.child_smaller c.2

variable {stop : Judgement} {target : Node → Verdict} {n : Node}

theorem searchBelow_of_unsettled (h : stop n .empty = .unsettled) :
    searchBelow stop target n = .unsettled := by
  rw [searchBelow, h]

theorem searchBelow_of_rejected (h : stop n .empty = .rejected) :
    searchBelow stop target n = .rejected := by
  rw [searchBelow, h]

theorem searchBelow_of_accepted {e : Env} (h : stop n .empty = .accepted e) :
    searchBelow stop target n =
      (target n).orElse fun _ => firstVerdict (searchBelow stop target) n.children := by
  rw [searchBelow, h, firstVerdict_attach]

/-- A search with a stack searches the subtrees on the stack one after the other, from the top. -/
theorem searchStack_eq (stop : Judgement) (target : Node → Verdict) (stack : List Node) :
    searchStack stop target stack = firstVerdict (searchBelow stop target) stack := by
  induction stack using searchStack.induct stop with
  | case1 => rw [searchStack, firstVerdict]
  | case2 n stack hs =>
    rw [searchStack, hs, firstVerdict, searchBelow_of_unsettled hs]
    rfl
  | case3 n stack hs ih =>
    rw [searchStack, hs, firstVerdict, searchBelow_of_rejected hs]
    exact ih
  | case4 n stack e hs ih =>
    -- the children are on top, so they are searched before what was on the stack
    calc searchStack stop target (n :: stack)
        = (target n).orElse fun _ => searchStack stop target (n.children ++ stack) := by
          rw [searchStack, hs]
      _ = (target n).orElse fun _ => (firstVerdict (searchBelow stop target) n.children).orElse
            fun _ => firstVerdict (searchBelow stop target) stack := by
          rw [ih, firstVerdict_append]
      _ = firstVerdict (searchBelow stop target) (n :: stack) := by
          rw [firstVerdict, searchBelow_of_accepted hs, orElse_assoc]

theorem judgeBelow_rule (field : Option String) :
    judgeBelow (.rule stop) field n target =
      firstVerdict (searchBelow stop target) (n.children.filter (throughField field)) :=
  searchStack_eq stop target _

end Rule

end StructuralSearch
