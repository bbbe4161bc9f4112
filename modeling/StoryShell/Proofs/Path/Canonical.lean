/-
# Canonical paths

A canonical path is the printed form of a list of proper names: full segments
other than `.` and `..`. Reading such a path yields the names again, so a path
and its names may be used for each other. Resolving whatever a user types in a
canonical directory ends in a canonical path, and on canonical paths the textual
test for lying within a directory is the order of lists by their beginnings.
-/

import StoryShell.Path
import StoryShell.Proofs.Text.Pieces

namespace StoryShell.Path

open StoryShell.Text

/-- A name that stands as one segment of a path: it is not empty and holds no slash. -/
def IsSegment (name : String) : Prop :=
  name ≠ "" ∧ '/' ∉ name.toList

/-- A segment that a walk descends by. -/
def IsProper (name : String) : Prop :=
  IsSegment name ∧ name ≠ "." ∧ name ≠ ".."

/-- A path that is `~` or `~/` followed by proper names between slashes. -/
def IsCanonical (path : String) : Prop :=
  ∃ names, (∀ name ∈ names, IsProper name) ∧ path = render names

/-- The names that new entries may have are those that a walk descends by, but for the root's. -/
theorem isEntryName_iff {name : String} :
    isEntryName name = true ↔ IsProper name ∧ name ≠ root := by
  simp [isEntryName, IsProper, IsSegment, and_assoc]

variable {names ancestor : List String}

theorem segments_of_proper (h : ∀ name ∈ names, IsProper name) :
    ∀ name ∈ names, IsSegment name := by
  intro name hname
  exact (h name hname).1

theorem isSegment_root : IsSegment root := by
  rw [IsSegment]
  decide

theorem render_nil : render [] = root :=
  rfl

/-! ### Reading a canonical path -/

theorem isSegment_root_cons (h : ∀ name ∈ names, IsSegment name) :
    ∀ name ∈ root :: names, IsSegment name := by
  intro name hname
  rcases List.mem_cons.mp hname with rfl | hname
  · exact isSegment_root
  · exact h name hname

theorem fullPieces_render (h : ∀ name ∈ names, IsSegment name) :
    fullPieces '/' (render names) = root :: names := by
  have hall := isSegment_root_cons h
  apply fullPieces_glue (List.cons_ne_nil root names)
  · intro name hname
    exact (hall name hname).2
  · intro name hname
    exact (hall name hname).1

theorem pieces_render (h : ∀ name ∈ names, IsSegment name) :
    pieces '/' (render names) = root :: names := by
  apply pieces_glue (List.cons_ne_nil root names)
  intro name hname
  exact (isSegment_root_cons h name hname).2

theorem names?_render (h : ∀ name ∈ names, IsSegment name) :
    names? (render names) = some names := by
  rw [names?, fullPieces_render h]
  exact if_pos rfl

theorem namesOf_render (h : ∀ name ∈ names, IsSegment name) :
    namesOf (render names) = names := by
  rw [namesOf, fullPieces_render h]
  exact if_pos rfl

/-- Different lists of segments have different printed forms. -/
theorem render_injective (h : ∀ name ∈ names, IsSegment name)
    (hancestor : ∀ name ∈ ancestor, IsSegment name) (same : render names = render ancestor) :
    names = ancestor := by
  have read := names?_render h
  rw [same, names?_render hancestor] at read
  exact (Option.some.inj read).symm

/-! ### What a walk keeps

A walk descends by proper names only, so whatever holds of these and of the names
it starts from holds of the names it ends with.
-/

variable {keeps : String → Prop}

theorem forall_step (proper : ∀ name, IsProper name → keeps name) (h : ∀ name ∈ names, keeps name)
    {segment : String} (hsegment : '/' ∉ segment.toList) :
    ∀ name ∈ step names segment, keeps name := by
  rw [step]
  by_cases stays : segment = "" ∨ segment = "."
  · rw [if_pos stays]
    exact h
  · rw [if_neg stays]
    rw [not_or] at stays
    by_cases climbs : segment = ".."
    · rw [if_pos climbs]
      intro name hname
      exact h name (List.dropLast_subset names hname)
    · rw [if_neg climbs]
      intro name hname
      rcases List.mem_append.mp hname with hname | hname
      · exact h name hname
      · rw [List.mem_singleton] at hname
        subst hname
        exact proper name ⟨⟨stays.1, hsegment⟩, stays.2, climbs⟩

theorem forall_walk {segments : List String} (proper : ∀ name, IsProper name → keeps name)
    (h : ∀ name ∈ names, keeps name) (hsegments : ∀ segment ∈ segments, '/' ∉ segment.toList) :
    ∀ name ∈ walk names segments, keeps name := by
  induction segments generalizing names with
  | nil => exact h
  | cons segment rest ih =>
    have stepped := forall_step proper h (hsegments segment List.mem_cons_self)
    apply ih stepped
    intro other hother
    exact hsegments other (List.mem_cons_of_mem _ hother)

theorem forall_follow (proper : ∀ name, IsProper name → keeps name)
    (h : ∀ name ∈ names, keeps name) (path : String) :
    ∀ name ∈ follow names path, keeps name := by
  rw [follow]
  cases typed : pieces '/' path with
  | nil => exact h
  | cons first rest =>
    have apart : ∀ segment ∈ first :: rest, '/' ∉ segment.toList := by
      intro segment hsegment
      rw [← typed] at hsegment
      exact not_mem_of_mem_pieces hsegment
    by_cases rooted : first = root ∨ (first = "" ∧ rest ≠ [])
    · simp only [if_pos rooted]
      apply forall_walk proper (by simp)
      intro segment hsegment
      exact apart segment (List.mem_cons_of_mem _ hsegment)
    · simp only [if_neg rooted]
      exact forall_walk proper h apart

theorem proper_follow (h : ∀ name ∈ names, IsProper name) (path : String) :
    ∀ name ∈ follow names path, IsProper name :=
  forall_follow (fun _ proper => proper) h path

theorem segments_follow (h : ∀ name ∈ names, IsSegment name) (path : String) :
    ∀ name ∈ follow names path, IsSegment name :=
  forall_follow (fun _ proper => proper.1) h path

/-- What a user types in a canonical directory resolves to a canonical path. -/
theorem isCanonical_resolve {cwd : String} (h : IsCanonical cwd) (path : String) :
    IsCanonical (resolve path cwd) := by
  obtain ⟨names, hnames, rfl⟩ := h
  refine ⟨follow names path, proper_follow hnames path, ?_⟩
  rw [resolve, namesOf_render (segments_of_proper hnames)]

/-- The root's name leads to the root from everywhere. -/
theorem resolve_root (cwd : String) : resolve root cwd = root :=
  rfl

theorem step_proper {name : String} (h : IsProper name) (start : List String) :
    step start name = start ++ [name] := by
  obtain ⟨⟨full, -⟩, stays, climbs⟩ := h
  rw [step, if_neg (not_or.mpr ⟨full, stays⟩), if_neg climbs]

/-- A walk along proper names only descends. -/
theorem walk_proper (start : List String) (h : ∀ name ∈ names, IsProper name) :
    walk start names = start ++ names := by
  induction names generalizing start with
  | nil => exact (List.append_nil start).symm
  | cons name rest ih =>
    have later : walk (start ++ [name]) rest = start ++ [name] ++ rest := by
      apply ih
      intro other hother
      exact h other (List.mem_cons_of_mem _ hother)
    calc walk start (name :: rest)
      _ = walk (step start name) rest := rfl
      _ = start ++ name :: rest := by
        rw [step_proper (h name List.mem_cons_self), later, List.append_assoc]
        rfl

/-- A canonical path resolves to itself from everywhere. -/
theorem resolve_render (h : ∀ name ∈ names, IsProper name) (cwd : String) :
    resolve (render names) cwd = render names := by
  rw [resolve, follow, pieces_render (segments_of_proper h)]
  simp only [true_or, if_true]
  rw [walk_proper [] h, List.nil_append]

/-! ### Lying within a directory -/

theorem render_append {rest : List String} (hrest : rest ≠ []) :
    render (names ++ rest) = render names ++ "/" ++ glue '/' rest :=
  glue_append (List.cons_ne_nil root names) hrest

/-- On canonical paths, lying within a directory is beginning with its names. -/
theorem isWithin_render (h : ∀ name ∈ names, IsSegment name)
    (hancestor : ∀ name ∈ ancestor, IsSegment name) :
    isWithin (render names) (render ancestor) = true ↔ ancestor <+: names := by
  rw [isWithin, Bool.or_eq_true, beq_iff_eq, startsWith_iff]
  constructor
  · rintro (same | ⟨rest, longer⟩)
    · exact render_injective h hancestor same ▸ List.prefix_refl names
    · have cut := congrArg (pieces '/') longer
      have pieced : root :: names = root :: ancestor ++ pieces '/' rest := by
        rw [← pieces_render h, ← pieces_render hancestor, cut]
        exact pieces_append_separator (render ancestor) rest
      rw [List.cons_append, List.cons.injEq] at pieced
      exact ⟨pieces '/' rest, pieced.2.symm⟩
  · rintro ⟨rest, rfl⟩
    cases rest with
    | nil => exact .inl (by rw [List.append_nil])
    | cons name more =>
      exact .inr ⟨glue '/' (name :: more), render_append (List.cons_ne_nil name more)⟩

/-! ### The path of a child -/

/-- The printed form of some segments ends in one, so joining a name to it adds that name. -/
theorem join_render (h : ∀ name ∈ names, IsSegment name) (name : String) :
    join (render names) name = render (names ++ [name]) := by
  have kept : trimEnd '/' (render names) = render names := by
    rcases List.eq_nil_or_concat names with rfl | ⟨front, last, rfl⟩
    · rfl
    · rw [List.concat_eq_append] at h ⊢
      obtain ⟨full, apart⟩ := h last (by simp)
      rw [render_append (List.cons_ne_nil last []), glue_singleton]
      exact trimEnd_append full apart _
  rw [join, kept, render_append (List.cons_ne_nil name []), glue_singleton]

/-- The path that names lead to from a directory, one after the other. -/
def joinAll (path : String) (names : List String) : String :=
  names.foldl join path

theorem joinAll_cons (path name : String) (rest : List String) :
    joinAll path (name :: rest) = joinAll (join path name) rest :=
  List.foldl_cons ..

/-- Segments below a path of segments spell the path that they lead to. -/
theorem joinAll_render (h : ∀ name ∈ names, IsSegment name) {rest : List String}
    (hrest : ∀ name ∈ rest, IsSegment name) :
    joinAll (render names) rest = render (names ++ rest) := by
  induction rest generalizing names with
  | nil => rw [List.append_nil]; rfl
  | cons name rest ih =>
    obtain ⟨first, later⟩ := List.forall_mem_cons.mp hrest
    have further : ∀ other ∈ names ++ [name], IsSegment other :=
      List.forall_mem_append.mpr ⟨h, List.forall_mem_singleton.mpr first⟩
    rw [joinAll_cons, join_render h, ih further later, List.append_assoc, List.singleton_append]

/-- The segments of a path from the root spell it. -/
theorem joinAll_root (segments : ∀ name ∈ names, IsSegment name) :
    joinAll root names = render names := by
  rw [← render_nil, joinAll_render (by simp) segments, List.nil_append]

theorem join_root (name : String) : join root name = render [name] := by
  rw [← render_nil, join_render (by simp), List.nil_append]

end StoryShell.Path
