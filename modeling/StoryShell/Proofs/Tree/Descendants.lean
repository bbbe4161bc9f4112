/-
# The walk lists what look-ups find

The walk builds paths on its way down; a look-up takes a path apart. In an ordered
tree whose names can stand in a path the two describe the same nodes: the walk lists
each node below the root once, under the path that a look-up finds it at, in the
lexicographic order of the names on the way. The plain walk leaves out exactly the
nodes that are hidden or lie below something hidden.
-/

import Mathlib.Data.List.Infix
import Mathlib.Data.List.Nodup
import StoryShell.Proofs.NameMap
import StoryShell.Proofs.Tree.Descent
import StoryShell.Proofs.Tree.Ordered
import StoryShell.Tree.Walk

namespace StoryShell

namespace Node

mutual

/-- Every name at or below the children of a node is as asked. -/
def Named (fits : String → Prop) : Node → Prop
  | .directory children _ => NamedChildren fits children
  | .file _ _ => True
  | .executable _ _ _ => True

/-- The names of some children, and all names below them, are as asked. -/
def NamedChildren (fits : String → Prop) : List (String × Node) → Prop
  | [] => True
  | (name, child) :: rest => fits name ∧ child.Named fits ∧ NamedChildren fits rest

end

/-- Whether names lead from a node to a hidden one. -/
def hidesAt (node : Node) (names : List String) : Bool :=
  match node.descend names with
  | .ok found => found.isHidden
  | .error _ => false

/-- Nothing that names lead to on their way from a node is hidden, the node at their end
included. -/
def InSight (node : Node) (names : List String) : Prop :=
  ∀ above ∈ names.inits, above ≠ [] → node.hidesAt above = false

instance (node : Node) : DecidablePred node.InSight :=
  fun names => inferInstanceAs (Decidable (∀ above ∈ names.inits, _))

/-- An entry of a child's list, as an entry of its directory's. -/
def under (name : String) (entry : List String × Node) : List String × Node :=
  (name :: entry.1, entry.2)

mutual

/-- The nodes below a node, each with the names that lead to it; what is hidden only if `all` is
set. -/
def inside (all : Bool) : Node → List (List String × Node)
  | .directory children _ => insideChildren all children
  | .file _ _ => []
  | .executable _ _ _ => []

/-- Some children, each followed by the nodes below it. -/
def insideChildren (all : Bool) : List (String × Node) → List (List String × Node)
  | [] => []
  | (name, child) :: rest =>
    if child.isHidden && !all then insideChildren all rest
    else ([name], child) :: ((child.inside all).map (under name) ++ insideChildren all rest)

end

/-- An entry of the list below a node at `path`, with the path that its names lead to from there. -/
def joined (path : String) (entry : List String × Node) : Located :=
  (Path.joinAll path entry.1, entry.2)

/-- An entry of the list below a directory, with the path that its names spell from there. -/
def located (here : List String) (entry : List String × Node) : Located :=
  (Path.render (here ++ entry.1), entry.2)

variable {all : Bool} {fits : String → Prop} {names : List String} {node found : Node}

/-! ### Names that fit -/

theorem namedChildren_iff {children : List (String × Node)} :
    NamedChildren fits children ↔ ∀ entry ∈ children, fits entry.1 ∧ entry.2.Named fits := by
  induction children with
  | nil => simp [NamedChildren]
  | cons entry rest ih =>
    obtain ⟨name, child⟩ := entry
    simp [NamedChildren, ih, and_assoc]

/-- Names that lead somewhere are names of the tree. -/
theorem Named.forall_of_descend (named : node.Named fits)
    (reached : node.descend names = .ok found) : ∀ name ∈ names, fits name := by
  induction names generalizing node with
  | nil => simp
  | cons name rest ih =>
    cases node with
    | directory children hidden =>
      cases held : NameMap.find? children name with
      | none =>
        rw [descend_absent held] at reached
        cases reached
      | some child =>
        rw [descend_held held] at reached
        rw [Named, namedChildren_iff] at named
        obtain ⟨first, inner⟩ := named _ (NameMap.mem_of_find? held)
        exact List.forall_mem_cons.mpr ⟨first, ih inner reached⟩
    | file content hidden => cases reached
    | executable entry content hidden => cases reached

/-- An entry of a directory that names lead to is one name further. -/
theorem exists_descend_entry {children : Children} {hidden : Bool} {name : String}
    (reached : node.descend names = .ok (.directory children hidden))
    (listed : name ∈ NameMap.names children) :
    ∃ child, node.descend (names ++ [name]) = .ok child := by
  obtain ⟨child, held⟩ := Option.ne_none_iff_exists'.mp (NameMap.mem_names_iff.mp listed)
  refine ⟨child, ?_⟩
  rw [descend_append_of_found reached, descend_held held, descend_nil]

/-! ### The walk spells the names it passes -/

mutual

/-- The path of a node that a walk lists is put together from the names that lead to it. -/
theorem walk_eq_joined (all : Bool) (path : String) : ∀ node : Node,
    node.walk all path = (node.inside all).map (joined path)
  | .directory children _ => walkChildren_eq_joined all path children
  | .file _ _ => rfl
  | .executable _ _ _ => rfl

theorem walkChildren_eq_joined (all : Bool) (path : String) : ∀ children : List (String × Node),
    walkChildren all path children = (insideChildren all children).map (joined path)
  | [] => rfl
  | (name, child) :: rest => by
    have deeper : joined path ∘ under name = joined (Path.join path name) := rfl
    rw [walkChildren, insideChildren, walk_eq_joined all (Path.join path name) child,
      walkChildren_eq_joined all path rest]
    split
    · rfl
    · rw [List.map_cons, List.map_append, List.map_map, deeper]
      rfl

end

/-! ### Which entries are listed -/

theorem mem_insideChildren {children : List (String × Node)} {entry : List String × Node} :
    entry ∈ insideChildren all children ↔
      ∃ name child, (name, child) ∈ children ∧ (all = true ∨ child.isHidden = false) ∧
        (entry = ([name], child) ∨ ∃ deeper ∈ child.inside all, entry = under name deeper) := by
  induction children with
  | nil => simp [insideChildren]
  | cons first rest ih =>
    obtain ⟨name, child⟩ := first
    rw [insideChildren]
    by_cases shown : all = true ∨ child.isHidden = false
    · have listed : ¬ (child.isHidden && !all) = true := by
        rcases shown with shown | shown <;> simp [shown]
      rw [if_neg listed, List.mem_cons, List.mem_append, List.mem_map, ih]
      constructor
      · rintro (rfl | ⟨deeper, member, rfl⟩ | ⟨other, node, member, later⟩)
        · exact ⟨name, child, List.mem_cons_self, shown, .inl rfl⟩
        · exact ⟨name, child, List.mem_cons_self, shown, .inr ⟨deeper, member, rfl⟩⟩
        · exact ⟨other, node, List.mem_cons_of_mem _ member, later⟩
      · rintro ⟨other, node, member, later⟩
        rcases List.mem_cons.mp member with same | member
        · cases same
          rcases later.2 with rfl | ⟨deeper, member, rfl⟩
          · exact .inl rfl
          · exact .inr (.inl ⟨deeper, member, rfl⟩)
        · exact .inr (.inr ⟨other, node, member, later⟩)
    · have skipped : (child.isHidden && !all) = true := by
        simpa using (not_or.mp shown).symm
      rw [if_pos skipped, ih]
      constructor
      · rintro ⟨other, node, member, later⟩
        exact ⟨other, node, List.mem_cons_of_mem _ member, later⟩
      · rintro ⟨other, node, member, later⟩
        rcases List.mem_cons.mp member with same | member
        · cases same
          exact absurd later.1 shown
        · exact ⟨other, node, member, later⟩

/-- An entry of some children starts with the name of one. -/
theorem exists_head_of_mem {children : List (String × Node)} {names : List String}
    (listed : names ∈ (insideChildren all children).map Prod.fst) :
    ∃ name child rest, (name, child) ∈ children ∧ names = name :: rest := by
  obtain ⟨entry, found, rfl⟩ := List.mem_map.mp listed
  obtain ⟨name, child, member, -, rfl | ⟨deeper, -, rfl⟩⟩ := mem_insideChildren.mp found
  · exact ⟨name, child, [], member, rfl⟩
  · exact ⟨name, child, deeper.1, member, rfl⟩

/-- No entry stands for the node itself. -/
theorem ne_nil_of_mem_inside (listed : names ∈ (node.inside all).map Prod.fst) : names ≠ [] := by
  cases node with
  | directory children hidden =>
    obtain ⟨name, child, rest, -, rfl⟩ := exists_head_of_mem listed
    exact List.cons_ne_nil name rest
  | file content hidden => cases listed
  | executable entry content hidden => cases listed

/-- The names that lead to a listed node are names of the tree. -/
theorem Named.forall_of_mem_inside {entry : List String × Node} (named : node.Named fits)
    (listed : entry ∈ node.inside all) : ∀ name ∈ entry.1, fits name := by
  obtain ⟨names, found⟩ := entry
  induction names generalizing node with
  | nil => simp
  | cons name rest ih =>
    cases node with
    | directory children hidden =>
      rw [Named, namedChildren_iff] at named
      obtain ⟨key, child, member, -, same⟩ := mem_insideChildren.mp listed
      obtain ⟨first, inner⟩ := named _ member
      rcases same with same | ⟨deeper, below, same⟩
      · cases same
        simpa using first
      · cases same
        exact List.forall_mem_cons.mpr ⟨first, ih inner below⟩
    | file content hidden => cases listed
    | executable entry content hidden => cases listed

/-- Below a directory at a path of segments, segments spell the path. -/
theorem walk_eq (all : Bool) {here : List String} (segments : ∀ name ∈ here, Path.IsSegment name)
    (node : Node) (named : node.Named Path.IsSegment) :
    node.walk all (Path.render here) = (node.inside all).map (located here) := by
  rw [walk_eq_joined]
  apply List.map_congr_left
  intro entry listed
  rw [joined, located, Path.joinAll_render segments (named.forall_of_mem_inside listed)]

theorem inSight_nil (node : Node) : node.InSight [] := by
  simp [InSight]

/-- A way through a child is in sight when the child is and the rest of the way is. -/
theorem inSight_held {children : Children} {hidden : Bool} {name : String} {child : Node}
    (held : NameMap.find? children name = some child) :
    (Node.directory children hidden).InSight (name :: names) ↔
      child.isHidden = false ∧ child.InSight names := by
  have hides : ∀ above, (Node.directory children hidden).hidesAt (name :: above) =
      child.hidesAt above := by
    intro above
    rw [hidesAt, hidesAt, descend_held held]
  have here : child.hidesAt [] = child.isHidden := by
    rw [hidesAt, descend_nil]
  rw [InSight, List.inits_cons, List.forall_mem_cons, List.forall_mem_map]
  constructor
  · rintro ⟨-, sight⟩
    refine ⟨?_, fun above habove _ => ?_⟩
    · rw [← here, ← hides]
      exact sight [] ((List.mem_inits _ _).mpr List.nil_prefix) (List.cons_ne_nil _ _)
    · rw [← hides]
      exact sight above habove (List.cons_ne_nil _ _)
  · rintro ⟨shown, sight⟩
    refine ⟨fun empty => absurd rfl empty, fun above habove _ => ?_⟩
    rw [hides]
    by_cases empty : above = []
    · rw [empty, here, shown]
    · exact sight above habove empty

/-- The entries inside a node are what names lead to; without the hidden ones, what they lead to in
sight. -/
theorem mem_inside (ordered : node.Ordered) :
    (names, found) ∈ node.inside all ↔
      names ≠ [] ∧ node.descend names = .ok found ∧ (all = true ∨ node.InSight names) := by
  induction names generalizing node with
  | nil =>
    constructor
    · intro listed
      exact absurd rfl (ne_nil_of_mem_inside (List.mem_map_of_mem listed))
    · rintro ⟨empty, -⟩
      exact absurd rfl empty
  | cons name rest ih =>
    cases node with
    | directory children hidden =>
      obtain ⟨increasing, inner⟩ := ordered_directory.mp ordered
      rw [inside, mem_insideChildren]
      constructor
      · rintro ⟨key, child, member, shown, same | ⟨deeper, listed, same⟩⟩
        · cases same
          have held := increasing.find?_of_mem member
          rw [descend_held held, inSight_held held]
          exact ⟨List.cons_ne_nil _ _, descend_nil _, shown.imp_right fun h => ⟨h, inSight_nil _⟩⟩
        · cases same
          have held := increasing.find?_of_mem member
          rw [descend_held held, inSight_held held]
          obtain ⟨-, reached, sight⟩ := (ih (inner _ member)).mp listed
          exact ⟨List.cons_ne_nil _ _, reached, by tauto⟩
      · rintro ⟨-, reached, sight⟩
        cases held : NameMap.find? children name with
        | none =>
          rw [descend_absent held] at reached
          cases reached
        | some child =>
          rw [descend_held held] at reached
          rw [inSight_held held] at sight
          have member := NameMap.mem_of_find? held
          refine ⟨name, child, member, sight.imp_right And.left, ?_⟩
          by_cases last : rest = []
          · subst last
            rw [descend_nil] at reached
            cases reached
            exact .inl rfl
          · exact .inr ⟨(rest, found),
              (ih (inner _ member)).mpr ⟨last, reached, sight.imp_right And.right⟩, rfl⟩
    | file content hidden => simp [inside, descend]
    | executable entry content hidden => simp [inside, descend]

/-! ### In which order -/

mutual

theorem pairwise_inside (all : Bool) : ∀ node : Node, node.Ordered →
    ((node.inside all).map Prod.fst).Pairwise (List.Lex (· < ·))
  | .directory children _, ordered => by
    rw [Ordered] at ordered
    exact pairwise_insideChildren all children ordered.1 ordered.2
  | .file _ _, _ => .nil
  | .executable _ _ _, _ => .nil

theorem pairwise_insideChildren (all : Bool) : ∀ children : List (String × Node),
    NameMap.Ordered children → OrderedChildren children →
      ((insideChildren all children).map Prod.fst).Pairwise (List.Lex (· < ·))
  | [], _, _ => .nil
  | (name, child) :: rest, increasing, ordered => by
    obtain ⟨before, increasing⟩ := NameMap.ordered_cons.mp increasing
    obtain ⟨inner, ordered⟩ := ordered
    have later := pairwise_insideChildren all rest increasing ordered
    -- Whatever starts with this name comes before the entries of the other children.
    have first : ∀ front, ∀ names ∈ (insideChildren all rest).map Prod.fst,
        List.Lex (· < ·) (name :: front) names := by
      intro front names listed
      obtain ⟨other, node, more, member, rfl⟩ := exists_head_of_mem listed
      exact .rel (before _ member)
    have heads : (((child.inside all).map (under name)).map Prod.fst) =
        ((child.inside all).map Prod.fst).map (name :: ·) := by
      rw [List.map_map, List.map_map]
      rfl
    rw [insideChildren]
    split
    · exact later
    · rw [List.map_cons, List.map_append, heads, List.pairwise_cons, List.pairwise_append,
        List.pairwise_map]
      refine ⟨?_, (pairwise_inside all child inner).imp .cons, later, ?_⟩
      · intro names listed
        rcases List.mem_append.mp listed with listed | listed
        · obtain ⟨front, deeper, rfl⟩ := List.mem_map.mp listed
          cases front with
          | nil => exact absurd rfl (ne_nil_of_mem_inside deeper)
          | cons next front => exact .cons .nil
        · exact first [] names listed
      · intro names listed
        obtain ⟨front, -, rfl⟩ := List.mem_map.mp listed
        exact first front

end

/-- No names are listed twice. -/
theorem nodup_inside (all : Bool) (ordered : node.Ordered) :
    ((node.inside all).map Prod.fst).Nodup := by
  apply (pairwise_inside all node ordered).imp
  rintro names others less rfl
  exact List.lex_irrefl String.lt_irrefl _ less

/-- Leaving out the hidden nodes and what is below them leaves the entries in sight, in order. -/
theorem inside_false (ordered : node.Ordered) :
    node.inside false = (node.inside true).filter fun entry => node.InSight entry.1 := by
  have increasing : ∀ all, (node.inside all).Pairwise fun before after =>
      List.Lex (· < ·) before.1 after.1 := by
    intro all
    exact List.pairwise_map.mp (pairwise_inside all node ordered)
  have distinct : ∀ all, (node.inside all).Nodup :=
    fun all => List.Nodup.of_map _ (nodup_inside all ordered)
  have same : (node.inside false).Perm
      ((node.inside true).filter fun entry => node.InSight entry.1) := by
    apply (List.perm_ext_iff_of_nodup (distinct false) ((distinct true).filter _)).mpr
    rintro ⟨names, found⟩
    rw [List.mem_filter, mem_inside ordered, mem_inside ordered, decide_eq_true_eq]
    simp only [Bool.false_eq_true, false_or, true_or, and_true, and_assoc]
  -- Two lists in the same strict order with the same entries are the same list.
  apply same.eq_of_pairwise _ (increasing false) ((increasing true).filter _)
  intro before after _ _ less more
  exact absurd more (List.lex_asymm String.lt_asymm less)

end Node

/-- The entries of a directory of a tree have names of the tree. -/
theorem Tree.fits_of_list {tree : Tree} {fits : String → Prop} {path name : String}
    {children : Children} (named : tree.root.Named fits)
    (contents : tree.list path = .ok children) (listed : name ∈ NameMap.names children) :
    fits name := by
  obtain ⟨hidden, here⟩ := Tree.find_of_list contents
  obtain ⟨names, -, reached⟩ := Tree.exists_names_of_find here
  obtain ⟨child, below⟩ := Node.exists_descend_entry reached listed
  apply named.forall_of_descend below
  simp

/-- The walk over everything lists exactly the nodes that look-ups find below the root, each once
and under its canonical path, in the lexicographic order of their names; the plain walk lists those
of them, in the same order, that have nothing hidden on their way. -/
theorem Tree.descendants_match_lookups (tree : Tree) (ordered : tree.Ordered)
    (named : tree.root.Named Path.IsSegment) :
    ∃ listing : List (List String × Node),
      tree.descendants true = listing.map (fun entry => (Path.render entry.1, entry.2)) ∧
      (∀ names node, (names, node) ∈ listing ↔ names ≠ [] ∧ (∀ name ∈ names, Path.IsSegment name) ∧
        tree.lookup (Path.render names) = .ok node) ∧
      ((tree.descendants true).map Prod.fst).Nodup ∧
      (listing.map Prod.fst).Pairwise (List.Lex (· < ·)) ∧
      tree.descendants false =
        (listing.filter fun entry => tree.root.InSight entry.1).map
          fun entry => (Path.render entry.1, entry.2) := by
  have walks : ∀ all, tree.descendants all = (tree.root.inside all).map (Node.located []) := by
    intro all
    have start : ∀ name ∈ ([] : List String), Path.IsSegment name := by simp
    rw [Tree.descendants, ← Path.render_nil, Node.walk_eq all start tree.root named]
  have increasing := Node.pairwise_inside true tree.root ordered
  have entries : ∀ names node, (names, node) ∈ tree.root.inside true ↔
      names ≠ [] ∧ (∀ name ∈ names, Path.IsSegment name) ∧
        tree.lookup (Path.render names) = .ok node := by
    intro names node
    rw [Node.mem_inside ordered]
    constructor
    · rintro ⟨full, reached, -⟩
      have segments := named.forall_of_descend reached
      exact ⟨full, segments, Tree.lookup_eq_ok.mpr (by rw [Tree.find_render segments, reached])⟩
    · rintro ⟨full, segments, found⟩
      rw [Tree.lookup_eq_ok, Tree.find_render segments] at found
      exact ⟨full, found, .inl rfl⟩
  refine ⟨tree.root.inside true, walks true, entries, ?_, increasing, ?_⟩
  · rw [walks, List.map_map, List.Nodup, List.pairwise_map]
    apply (List.pairwise_map.mp increasing).imp_of_mem
    rintro ⟨names, node⟩ ⟨others, other⟩ member member' less same
    have first := (entries names node).mp member
    have second := (entries others other).mp member'
    have equal : names = others := Path.render_injective first.2.1 second.2.1 same
    exact List.lex_irrefl String.lt_irrefl _ (equal ▸ less)
  · rw [walks, Node.inside_false ordered]
    rfl

/-- A garden with a hidden corner, in which the order of paths as texts is not the order of the
walk. -/
def garden : Tree :=
  { children := [(".shed", .directory [("spade", .textFile "rusty")] true),
      ("bed", .directory [("rose", .textFile "red")] false), ("bed-2", .textFile "fallow")] }

/-- The walk meets what is in a bed before the next bed, and the plain walk misses the shed. -/
theorem descendants_match_lookups_in_garden :
    garden.Ordered ∧ garden.root.Named Path.IsSegment ∧
      ∃ listing : List (List String × Node),
        garden.descendants true = listing.map (fun entry => (Path.render entry.1, entry.2)) ∧
        ([".shed", "spade"], .textFile "rusty") ∈ listing ∧
        garden.descendants false =
          (listing.filter fun entry => garden.root.InSight entry.1).map
            (fun entry => (Path.render entry.1, entry.2)) ∧
        (garden.descendants false).map Prod.fst = ["~/bed", "~/bed/rose", "~/bed-2"] := by
  have ordered : garden.Ordered := by
    simp only [Tree.Ordered, Tree.root, garden, Node.textFile, Node.Ordered,
      Node.OrderedChildren, NameMap.Ordered]
    decide
  have named : garden.root.Named Path.IsSegment := by
    simp only [Tree.root, garden, Node.textFile, Node.Named, Node.NamedChildren, Path.IsSegment]
    decide
  obtain ⟨listing, everything, entries, -, -, plain⟩ :=
    garden.descendants_match_lookups ordered named
  refine ⟨ordered, named, listing, everything, ?_, plain, by decide⟩
  refine (entries _ _).mpr ⟨List.cons_ne_nil _ _, ?_, rfl⟩
  simp only [Path.IsSegment]
  decide

end StoryShell
