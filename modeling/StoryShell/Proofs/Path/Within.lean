/-
# The order of canonical paths

One path lies within another when it is that path or goes on behind it with a slash.
On canonical paths this test of texts is the order of segment lists by their
beginnings, so it is a partial order with the root above everything, and a directory
whose name only begins like another's is no part of it. Neither joining the name of an
entry to a path nor walking on from it without climbing leads out of it.
-/

import StoryShell.Proofs.Path.Resolving

namespace StoryShell.Path

open StoryShell.Text

variable {names segments : List String} {path ancestor : String}

/-- A canonical path lies within another exactly if its segments begin with those of the other. -/
theorem IsCanonical.isWithin_iff (canonical : IsCanonical path) (above : IsCanonical ancestor) :
    isWithin path ancestor = true ↔ pieces '/' ancestor <+: pieces '/' path := by
  obtain ⟨names, proper, rfl⟩ := canonical
  obtain ⟨others, properToo, rfl⟩ := above
  have segments := segments_of_proper proper
  have segmentsToo := segments_of_proper properToo
  rw [isWithin_render segments segmentsToo, pieces_render segments, pieces_render segmentsToo,
    List.prefix_cons_inj]

/-- Paths with the same segments are the same. -/
theorem eq_of_pieces_eq (same : pieces '/' path = pieces '/' ancestor) : path = ancestor := by
  calc path
    _ = glue '/' (pieces '/' path) := (glue_pieces path).symm
    _ = ancestor := by rw [same, glue_pieces]

/-- The entries that can be mounted in a directory lie within it. -/
theorem isWithin_join (above : IsCanonical ancestor) {name : String}
    (typable : isEntryName name = true) : isWithin (join ancestor name) ancestor = true := by
  obtain ⟨names, proper, rfl⟩ := above
  have segments := segments_of_proper proper
  have below : ∀ other ∈ names ++ [name], IsSegment other :=
    List.forall_mem_append.mpr
      ⟨segments, List.forall_mem_singleton.mpr (isEntryName_iff.mp typable).1.1⟩
  rw [join_render segments, isWithin_render below segments]
  exact List.prefix_append names [name]

/-! ### Walking without climbing -/

theorem prefix_step {segment : String} (stays : segment ≠ "..") (names : List String) :
    names <+: step names segment := by
  by_cases idle : segment = "" ∨ segment = "."
  · have unmoved : step names segment = names := if_pos idle
    exact ⟨[], (List.append_nil names).trans unmoved.symm⟩
  · have descends : step names segment = names ++ [segment] :=
      (if_neg idle).trans (if_neg stays)
    exact ⟨[segment], descends.symm⟩

/-- A walk that never climbs ends within the directory it starts from. -/
theorem prefix_walk (stays : ".." ∉ segments) (names : List String) :
    names <+: walk names segments := by
  induction segments generalizing names with
  | nil => exact List.prefix_refl names
  | cons segment rest ih =>
    rw [List.mem_cons, not_or] at stays
    exact (prefix_step (Ne.symm stays.1) names).trans (ih stays.2 (step names segment))

/-- So does a typed path that starts in the current directory and never climbs. -/
theorem isWithin_resolve (above : IsCanonical ancestor) {typed : String} (other : typed ≠ root)
    (noTilde : startsWith typed "~/" = false) (noSlash : startsWith typed "/" = false)
    (stays : ".." ∉ pieces '/' typed) : isWithin (resolve typed ancestor) ancestor = true := by
  obtain ⟨names, proper, rfl⟩ := above
  have segments := segments_of_proper proper
  have ends : ∀ name ∈ follow names typed, IsSegment name := segments_follow segments typed
  rw [resolve, namesOf_render segments, isWithin_render ends segments,
    follow_fromHere names other noTilde noSlash]
  exact prefix_walk stays names

/-- Lying within is the order of canonical paths by the beginnings of their segments. It is
reflexive, transitive and antisymmetric, and everything lies within the root. Within a directory lie
the path of each entry that can be mounted there, and whatever a path leads to from there that has
no segment `..`, does not start with `/` or `~/` and is not `~`. -/
theorem within_orders_canonical_paths {path ancestor : String} (canonical : IsCanonical path)
    (above : IsCanonical ancestor) :
    (isWithin path ancestor = true ↔ pieces '/' ancestor <+: pieces '/' path) ∧
    isWithin path path = true ∧
    (∀ below, IsCanonical below → isWithin below path = true → isWithin path ancestor = true →
      isWithin below ancestor = true) ∧
    (isWithin path ancestor = true → isWithin ancestor path = true → path = ancestor) ∧
    isWithin path root = true ∧
    (∀ name, isEntryName name = true → isWithin (join ancestor name) ancestor = true) ∧
    ∀ typed, ".." ∉ pieces '/' typed → startsWith typed "/" = false →
      startsWith typed "~/" = false → typed ≠ root →
      isWithin (resolve typed ancestor) ancestor = true := by
  refine ⟨canonical.isWithin_iff above, ?_, ?_, ?_, ?_, ?_, ?_⟩
  · exact (canonical.isWithin_iff canonical).mpr (List.prefix_refl _)
  · intro below canonicalBelow first second
    rw [canonicalBelow.isWithin_iff canonical] at first
    rw [canonical.isWithin_iff above] at second
    exact (canonicalBelow.isWithin_iff above).mpr (second.trans first)
  · intro within around
    rw [canonical.isWithin_iff above] at within
    rw [above.isWithin_iff canonical] at around
    exact eq_of_pieces_eq (around.eq_of_length_le within.length_le)
  · obtain ⟨names, proper, rfl⟩ := canonical
    rw [← render_nil, isWithin_render (segments_of_proper proper) (by simp)]
    exact List.nil_prefix
  · intro name typable
    exact isWithin_join above typable
  · intro typed stays noSlash noTilde other
    exact isWithin_resolve above other noTilde noSlash stays

/-- An attic is no part of a directory whose name begins its own. What is in it stays in it, and so
does what a path with a tilde for a name leads to from there. -/
theorem within_orders_canonical_paths_in_attic :
    isWithin "~/attic/chest" "~/attic" = true ∧ isWithin "~/attic/chest" "~/att" = false ∧
      isWithin "~/attic/chest" "~" = true ∧
      isWithin "~/attic/~hats" "~/attic" = true ∧
      resolve "./chest//~/." "~/attic" = "~/attic/chest/~" ∧
      isWithin "~/attic/chest/~" "~/attic" = true := by
  have chest : IsCanonical "~/attic/chest" :=
    ⟨["attic", "chest"], by simp [IsProper, IsSegment], by decide⟩
  have attic : IsCanonical "~/attic" := ⟨["attic"], by simp [IsProper, IsSegment], by decide⟩
  have att : IsCanonical "~/att" := ⟨["att"], by simp [IsProper, IsSegment], by decide⟩
  obtain ⟨inAttic, -, -, -, home, joined, walked⟩ := within_orders_canonical_paths chest attic
  obtain ⟨inAtt, -⟩ := within_orders_canonical_paths chest att
  have result : resolve "./chest//~/." "~/attic" = "~/attic/chest/~" := by decide
  have there := walked "./chest//~/." (by decide) (by decide) (by decide) (by decide)
  refine ⟨inAttic.mpr (by decide), ?_, home, joined "~hats" (by decide), result, result ▸ there⟩
  rw [Bool.eq_false_iff, ne_eq, inAtt]
  decide

end StoryShell.Path
