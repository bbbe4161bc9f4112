/-
# Changes are made in order, all or none

Committing a list of changes makes them one after the other, each on the state that
those before it have led to. It can be done in two parts: the first part and then,
from where it led, the second. The list fails with the failure of the first change
that is refused where it stands, and then the state is the one before, whatever the
changes before it have done by then. What a change does to the session is never
refused; only the tree can refuse one.
-/

import StoryShell.Change

namespace StoryShell.State

variable {state next : State} {changes : List Change} {failure : Failure}

/-! ### One change -/

/-- A change is made where the tree allows it, and leaves its mark on session and tree. -/
theorem apply_eq_ok_iff {change : Change} :
    state.apply change = .ok next ↔
      state.tree.apply change = .ok next.tree ∧ next.session = state.session.apply change := by
  rw [apply_eq]
  cases made : state.tree.apply change with
  | error refused =>
    constructor
    · intro impossible
      cases impossible
    · rintro ⟨impossible, -⟩
      cases impossible
  | ok tree =>
    constructor
    · intro same
      cases same
      exact ⟨rfl, rfl⟩
    · rintro ⟨same, session⟩
      cases same
      cases next
      cases session
      rfl

theorem apply_eq_error_iff {change : Change} :
    state.apply change = .error failure ↔ state.tree.apply change = .error failure := by
  rw [apply_eq]
  cases made : state.tree.apply change with
  | error refused =>
    constructor <;>
    · intro same
      cases same
      rfl
  | ok tree =>
    constructor <;>
    · intro impossible
      cases impossible

/-! ### Changes in order -/

theorem applyAll_append (state : State) (changes more : List Change) :
    state.applyAll (changes ++ more) = state.applyAll changes >>= (·.applyAll more) :=
  List.foldlM_append

/-- Changes are refused when one of them is refused where those before it have led. -/
theorem applyAll_of_refused {before after : List Change} {change : Change} {middle : State}
    (reached : state.applyAll before = .ok middle)
    (refused : middle.apply change = .error failure) :
    state.applyAll (before ++ change :: after) = .error failure := by
  rw [applyAll_append, reached]
  calc middle.applyAll (change :: after)
    _ = middle.apply change >>= (·.applyAll after) := applyAll_cons change after
    _ = .error failure := by rw [refused]; rfl

/-- Changes are refused only because of one of them, and after those before it have been made. -/
theorem exists_refused (failed : state.applyAll changes = .error failure) :
    ∃ before change after middle, changes = before ++ change :: after ∧
      state.applyAll before = .ok middle ∧ middle.apply change = .error failure := by
  induction changes generalizing state with
  | nil => cases failed
  | cons first rest ih =>
    rw [applyAll_cons] at failed
    cases made : state.apply first with
    | error refused =>
      rw [made] at failed
      cases failed
      exact ⟨[], first, rest, state, rfl, applyAll_nil state, made⟩
    | ok second =>
      rw [made] at failed
      obtain ⟨before, change, after, middle, rfl, reached, refused⟩ := ih failed
      refine ⟨first :: before, change, after, middle, rfl, ?_, refused⟩
      rw [applyAll_cons, made]
      exact reached

theorem applyAll_eq_error_iff :
    state.applyAll changes = .error failure ↔
      ∃ before change after middle, changes = before ++ change :: after ∧
        state.applyAll before = .ok middle ∧ middle.apply change = .error failure := by
  constructor
  · exact exists_refused
  · rintro ⟨before, change, after, middle, rfl, reached, refused⟩
    exact applyAll_of_refused reached refused

/-! ### All or none -/

theorem commit_eq_none_iff : state.commit changes = (none, next) ↔
    state.applyAll changes = .ok next := by
  rw [commit]
  cases state.applyAll changes with
  | ok last => simp only [Prod.mk.injEq, true_and, Except.ok.injEq]
  | error refused => simp only [Prod.mk.injEq, reduceCtorEq, false_and]

theorem commit_eq_some_iff : state.commit changes = (some failure, next) ↔
    state.applyAll changes = .error failure ∧ next = state := by
  rw [commit]
  cases state.applyAll changes with
  | ok last => simp only [Prod.mk.injEq, reduceCtorEq, false_and]
  | error refused =>
    simp only [Prod.mk.injEq, Option.some.injEq, Except.error.injEq, eq_comm]

theorem commit_append_iff {more : List Change} : state.commit (changes ++ more) = (none, next) ↔
    ∃ middle, state.commit changes = (none, middle) ∧ middle.commit more = (none, next) := by
  simp only [commit_eq_none_iff, applyAll_append]
  cases state.applyAll changes with
  | error refused =>
    constructor
    · intro impossible
      cases impossible
    · rintro ⟨middle, impossible, -⟩
      cases impossible
  | ok middle =>
    constructor
    · exact fun made => ⟨middle, rfl, made⟩
    · rintro ⟨_, same, made⟩
      cases same
      exact made

theorem commit_one_iff {change : Change} : state.commit [change] = (none, next) ↔
    state.tree.apply change = .ok next.tree ∧ next.session = state.session.apply change := by
  have single : state.applyAll [change] = state.apply change := by
    rw [applyAll_cons]
    cases state.apply change <;> rfl
  rw [commit_eq_none_iff, single, apply_eq_ok_iff]

/-- Changes are made all or none. No changes change nothing, one change is made when the tree allows
it, and a list of changes is made exactly when its parts are made one after the other, with the same
state at the end. Changes fail exactly when one of them is refused by the tree that those before it
lead to, with the failure of that change, and then the state is the one before. -/
theorem commit_all_or_none (state : State) (changes more : List Change) :
    state.commit [] = (none, state) ∧
    (∀ change next, state.commit [change] = (none, next) ↔
      state.tree.apply change = .ok next.tree ∧ next.session = state.session.apply change) ∧
    (∀ last, state.commit (changes ++ more) = (none, last) ↔
      ∃ middle, state.commit changes = (none, middle) ∧ middle.commit more = (none, last)) ∧
    ∀ failure last, state.commit changes = (some failure, last) ↔
      last = state ∧ ∃ before change after middle, changes = before ++ change :: after ∧
        state.commit before = (none, middle) ∧ middle.tree.apply change = .error failure := by
  refine ⟨rfl, fun _ _ => commit_one_iff, fun _ => commit_append_iff, ?_⟩
  intro failure last
  simp only [commit_eq_some_iff, commit_eq_none_iff, applyAll_eq_error_iff, apply_eq_error_iff]
  exact and_comm

/-- The flag is set and the box is there by the time the last change is refused; neither stays. -/
example :
    State.commit {} [.setFlag "open" (.bool true), .mount "~" "box" (.folder []),
      .mount "~/cellar" "jar" (.folder [])] = (some (.noSuchPath "~/cellar"), {}) := by
  rfl

end StoryShell.State
