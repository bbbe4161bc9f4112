/-
# Parts of the world

Four parts of the world come to light after the start, each under its own name in
the home directory. A tree shows some of them over an initial tree when it agrees
with the initial tree apart from their names and holds exactly those parts. What
it shows is said by look-ups, so it does not depend on the order in which parts
came and went; for trees in name order it determines the tree.
-/

import Mathlib.Logic.Function.Basic
import StoryShell.Proofs.Builtin.Requests
import StoryShell.Proofs.Tree.Home
import StoryShell.Proofs.Tree.Ordered

namespace StoryShell

namespace World

/-- The parts of the world that only a run puts into the home directory. -/
inductive Part
  | share
  | portal
  | journal
  | admin
  deriving DecidableEq

namespace Part

/-- The name under which a part appears in the home directory. -/
def name : Part → String
  | share => shareName
  | portal => portalName
  | journal => ".journal"
  | admin => "admin"

/-- What appears there. -/
def files : Part → Node
  | share => World.share
  | portal => World.portalFiles
  | journal => World.journal
  | admin => World.adminFiles

def all : List Part :=
  [share, portal, journal, admin]

/-- Whether a login with a credential brings a part to light. -/
def isRevealedBy (credential : Credential) : Part → Bool
  | share => false
  | portal => false
  | journal => credential.reveal = some "journal"
  | admin => credential.reveal = some "admin"

theorem name_injective : Function.Injective name := by
  intro part other same
  cases part <;> cases other <;> first
    | rfl
    | simp [name, shareName, portalName] at same

/-- The parts that belong to a session and to the logins behind it: the services while they are
connected, and what some login has revealed. -/
def shown (session : Session) (logins : List Credential) : Part → Bool
  | share => session.isSet Network.shareFlag
  | portal => session.isSet Network.portalFlag
  | journal => logins.any fun credential => isRevealedBy credential journal
  | admin => logins.any fun credential => isRevealedBy credential admin

end Part

end World

open World (Part)

/-- What a login brings to light is one part or nothing. -/
theorem Credential.revealed?_cases (credential : Credential) :
    (credential.revealed? = none ∧ ∀ part, Part.isRevealedBy credential part = false) ∨
      ∃ part, credential.revealed? = some (part.name, part.files) ∧
        ∀ other, Part.isRevealedBy credential other = decide (other = part) := by
  cases named : credential.reveal with
  | none =>
    refine .inl ⟨by rw [revealed?, named]; rfl, ?_⟩
    intro part
    cases part <;> simp [Part.isRevealedBy, named]
  | some name =>
    by_cases journal : name = "journal"
    · subst journal
      refine .inr ⟨.journal, by rw [revealed?, named]; rfl, ?_⟩
      intro other
      cases other <;> simp [Part.isRevealedBy, named]
    · by_cases admin : name = "admin"
      · subst admin
        refine .inr ⟨.admin, by rw [revealed?, named]; rfl, ?_⟩
        intro other
        cases other <;> simp [Part.isRevealedBy, named]
      · refine .inl ⟨?_, ?_⟩
        · rw [revealed?, named, Option.bind_some, World.reveal?, if_neg journal, if_neg admin]
        · intro part
          cases part <;> simp [Part.isRevealedBy, named, journal, admin]

namespace Tree

/-- The tree with exactly some parts of the world added in the home directory. -/
def withParts (initial : Tree) (shown : Part → Bool) : Tree :=
  { initial with
    children := Part.all.foldl
      (fun children part => NameMap.putIf (shown part) children part.name part.files)
      initial.children }

variable {initial tree : Tree} {shown : Part → Bool} {name : String}

theorem find?_withParts_name (part : Part) :
    NameMap.find? (initial.withParts shown).children part.name =
      if shown part then some part.files else NameMap.find? initial.children part.name := by
  simp only [withParts, Part.all, List.foldl, NameMap.find?_putIf, Part.name_injective.eq_iff]
  cases part <;> simp

theorem find?_withParts_of_ne (other : ∀ part : Part, part.name ≠ name) :
    NameMap.find? (initial.withParts shown).children name =
      NameMap.find? initial.children name := by
  simp only [withParts, Part.all, List.foldl, NameMap.find?_putIf, other, and_false, if_false]

theorem ordered_withParts (ordered : NameMap.Ordered initial.children) :
    NameMap.Ordered (initial.withParts shown).children :=
  (((ordered.putIf _ _ _).putIf _ _ _).putIf _ _ _).putIf _ _ _

/-- Whether one part is shown matters only under its name. -/
theorem find?_withParts_update {part : Part} (other : part.name ≠ name) (value : Bool) :
    NameMap.find? (initial.withParts (Function.update shown part value)).children name =
      NameMap.find? (initial.withParts shown).children name := by
  by_cases named : ∃ present : Part, present.name = name
  · obtain ⟨present, rfl⟩ := named
    have different : present ≠ part := by
      intro same
      exact other (congrArg Part.name same).symm
    rw [find?_withParts_name, find?_withParts_name, Function.update_of_ne different]
  · have free : ∀ present : Part, present.name ≠ name := by
      intro present same
      exact named ⟨present, same⟩
    rw [find?_withParts_of_ne free, find?_withParts_of_ne free]

/-- The names of the parts are free in a tree. -/
def LacksParts (initial : Tree) : Prop :=
  ∀ part : Part, NameMap.find? initial.children part.name = none

/-- A tree shows some parts of the world over an initial tree. -/
structure Shows (tree initial : Tree) (shown : Part → Bool) : Prop where
  hidden : tree.hidden = initial.hidden
  children : ∀ name, NameMap.find? tree.children name =
    NameMap.find? (initial.withParts shown).children name
  ordered : NameMap.Ordered initial.children → NameMap.Ordered tree.children

/-- Before the start nothing is shown. -/
theorem shows_initial (initial : Tree) : initial.Shows initial (fun _ => false) where
  hidden := rfl
  children := fun _ => rfl
  ordered := id

namespace Shows

theorem find?_part (h : tree.Shows initial shown) (part : Part) :
    NameMap.find? tree.children part.name =
      if shown part then some part.files else NameMap.find? initial.children part.name := by
  rw [h.children, find?_withParts_name]

/-- Under the name of a part there is that part or nothing. -/
theorem eq_files (free : initial.LacksParts) (h : tree.Shows initial shown) {part : Part}
    {node : Node} (held : NameMap.find? tree.children part.name = some node) :
    node = part.files := by
  rw [h.find?_part, free part] at held
  by_cases present : shown part = true
  · rw [if_pos present] at held
    exact (Option.some.inj held).symm
  · rw [if_neg present] at held
    cases held

/-- In name order there is only one tree that shows the parts. -/
theorem eq_withParts (h : tree.Shows initial shown) (ordered : NameMap.Ordered initial.children) :
    tree = initial.withParts shown := by
  have children : tree.children = (initial.withParts shown).children :=
    (h.ordered ordered).ext (ordered_withParts ordered) h.children
  have hidden : tree.hidden = (initial.withParts shown).hidden := h.hidden
  obtain ⟨treeChildren, treeHidden⟩ := tree
  rw [show treeChildren = _ from children, show treeHidden = _ from hidden]

theorem put (h : tree.Shows initial shown) (part : Part) :
    (tree.putChild part.name part.files).Shows initial (Function.update shown part true) where
  hidden := h.hidden
  children := by
    intro name
    rw [putChild]
    by_cases here : part.name = name
    · subst here
      rw [NameMap.find?_put_self, find?_withParts_name, Function.update_self, if_pos rfl]
    · rw [NameMap.find?_put_of_ne here, h.children, find?_withParts_update here]
  ordered := by
    intro ordered
    exact (h.ordered ordered).put _ _

/-- Taking out a part whose name was free at first leaves no trace of it. -/
theorem drop {part : Part} (free : NameMap.find? initial.children part.name = none)
    (h : tree.Shows initial shown) :
    (tree.dropChild part.name).Shows initial (Function.update shown part false) where
  hidden := h.hidden
  children := by
    intro name
    rw [dropChild, NameMap.find?_remove]
    by_cases here : part.name = name
    · subst here
      rw [if_pos rfl, find?_withParts_name, Function.update_self, free]
      rfl
    · rw [if_neg here, h.children, find?_withParts_update here]
  ordered := by
    intro ordered
    exact (h.ordered ordered).remove _

/-- A login adds what its credential reveals, in place of the same part if that is there. -/
theorem reveal (h : tree.Shows initial shown) (credential : Credential) :
    (tree.revealing credential.revealed?).Shows initial
      (fun part => shown part || part.isRevealedBy credential) := by
  rcases credential.revealed?_cases with ⟨nothing, hidden⟩ | ⟨part, appears, only⟩
  · simpa [nothing, hidden, revealing] using h
  · have added : (fun other => shown other || Part.isRevealedBy credential other) =
        Function.update shown part true := by
      funext other
      by_cases same : other = part
      · subst same
        simp [only]
      · simp [only, same]
    rw [appears, added]
    exact h.put part

end Shows

end Tree

/-! ### The world at the start -/

namespace World

/-- The tree that a started terminal begins with. -/
def atStart : Tree where
  children := home.children?.getD []

theorem ofNode_home : Tree.ofNode home = .ok atStart :=
  rfl

theorem ordered_atStart : NameMap.Ordered atStart.children :=
  (Node.ordered_directory.mp ordered_home).1

theorem lacksParts_atStart : atStart.LacksParts := by
  intro part
  cases part <;> rfl

end World

end StoryShell
