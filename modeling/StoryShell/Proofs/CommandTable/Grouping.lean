/-
# The overview can be grouped row by row

The rows of the overview can also be put into a map from categories one at a time, each
behind those of its category that came before. The overview is then printed by taking
the groups out of the map in the order of their categories, and the number over it is
the sum of their sizes. In which order the map lists its groups does not show, and nor
does the order in which the commands of the table are listed.
-/

import StoryShell.Proofs.CommandTable.AnyOrder

namespace StoryShell.CommandTable

/-- Rows under their categories. -/
abbrev Groups := NameMap (List HelpRow)

namespace Groups

/-- The rows under a category. -/
def rows (groups : Groups) (category : String) : List HelpRow :=
  (NameMap.find? groups category).getD []

/-- The groups with one more row, behind those of its category. -/
def add (groups : Groups) (row : HelpRow) : Groups :=
  NameMap.put groups row.category (groups.rows row.category ++ [row])

/-- The groups of some rows. -/
def ofRows (rows : List HelpRow) : Groups :=
  rows.foldl add []

/-- The number of rows in all groups. -/
def size (groups : Groups) : Nat :=
  groups.foldr (fun entry total => entry.2.length + total) 0

/-- What is printed while groups are taken out by their categories. -/
def taken (groups : Groups) : List String → List String
  | [] => []
  | category :: rest =>
    HelpSection.lines ⟨category, sortRows (groups.rows category)⟩ ++
      taken (NameMap.remove groups category) rest

/-- The overview of some groups. -/
def overview (groups : Groups) : List String :=
  ["Commands (" ++ toString groups.size ++ "):"] ++ groups.taken (NameMap.names groups).mergeSort ++
    ["Type 'help <command>' for details. Run programs with ./name."]

end Groups

variable {table other : CommandTable} {groups : Groups} {rows : List HelpRow}

/-! ### What is in the groups -/

theorem filter_of_unknown {category : String} (unknown : category ∉ categories rows) :
    rows.filter (·.category = category) = [] := by
  rw [List.filter_eq_nil_iff]
  intro row filed same
  exact unknown (mem_categories.mpr ⟨row, filed, of_decide_eq_true same⟩)

theorem Groups.ofRows_concat (rows : List HelpRow) (row : HelpRow) :
    ofRows (rows ++ [row]) = (ofRows rows).add row :=
  List.foldl_append

theorem Groups.ordered_ofRows (rows : List HelpRow) : NameMap.Ordered (ofRows rows) := by
  induction rows using List.reverseRecOn with
  | nil => exact NameMap.ordered_nil
  | append_singleton rows row ih =>
    rw [ofRows_concat]
    exact ih.put ..

/-- A group holds the rows of its category that have come so far, in the order in which they
came. -/
theorem Groups.find?_ofRows (rows : List HelpRow) (category : String) :
    NameMap.find? (ofRows rows) category =
      if category ∈ categories rows then some (rows.filter (·.category = category)) else none := by
  induction rows using List.reverseRecOn with
  | nil => rfl
  | append_singleton rows row ih =>
    rw [ofRows_concat, add, NameMap.find?_put]
    have member : category ∈ categories (rows ++ [row]) ↔
        category ∈ categories rows ∨ row.category = category := by
      simp [mem_categories, or_and_right, exists_or]
    by_cases here : row.category = category
    · subst here
      rw [if_pos rfl, if_pos (member.mpr (.inr rfl)), List.filter_append, Groups.rows, ih]
      by_cases known : row.category ∈ categories rows
      · simp [known]
      · simp [known, filter_of_unknown known]
    · rw [if_neg here, ih]
      simp [member, here, List.filter_append]

/-- A map that gives each name of a list what belongs to it. -/
theorem find?_map_self {α : Type} (value : String → α) (names : List String) (name : String) :
    NameMap.find? (names.map fun name => (name, value name)) name =
      if name ∈ names then some (value name) else none := by
  induction names with
  | nil => rfl
  | cons first rest ih =>
    rw [List.map_cons, NameMap.find?_cons, ih]
    by_cases here : first = name
    · simp [here]
    · simp [here, Ne.symm here]

/-- The groups are the rows filed under each of their categories. -/
theorem Groups.ofRows_eq (rows : List HelpRow) :
    ofRows rows = (categories rows).map fun category =>
      (category, rows.filter (·.category = category)) := by
  have ordered : NameMap.Ordered ((categories rows).map fun category =>
      (category, rows.filter (·.category = category))) := by
    rw [NameMap.Ordered, List.map_map]
    exact (List.map_id _).symm ▸ pairwise_categories rows
  apply (ordered_ofRows rows).ext ordered
  intro category
  rw [find?_ofRows, find?_map_self fun category => rows.filter (·.category = category)]

/-! ### Groups in any order -/

theorem Groups.names_ofRows (rows : List HelpRow) :
    NameMap.names (ofRows rows) = categories rows := by
  rw [ofRows_eq, NameMap.names, List.map_map]
  exact List.map_id _

theorem Groups.rows_of_perm (listed : groups.Perm (ofRows rows)) (category : String) :
    groups.rows category = rows.filter (·.category = category) := by
  have found : NameMap.find? groups category = NameMap.find? (ofRows rows) category :=
    (NameMap.find?_of_perm listed.symm (ordered_ofRows rows).nodup_names category).symm
  rw [Groups.rows, found, find?_ofRows]
  by_cases known : category ∈ categories rows
  · rw [if_pos known, Option.getD_some]
  · rw [if_neg known, Option.getD_none, filter_of_unknown known]

theorem Groups.size_eq (groups : Groups) : groups.size = (groups.flatMap Prod.snd).length := by
  induction groups with
  | nil => rfl
  | cons entry rest ih =>
    rw [List.flatMap_cons, List.length_append, ← ih]
    rfl

theorem Groups.size_of_perm (listed : groups.Perm (ofRows rows)) : groups.size = rows.length := by
  have covered : ∀ row ∈ rows, row.category ∈ categories rows :=
    fun row filed => mem_categories.mpr ⟨row, filed, rfl⟩
  rw [size_eq, (listed.flatMap_right Prod.snd).length_eq, ofRows_eq, List.flatMap_map]
  exact (filed_perm (nodup_categories rows) covered).length_eq

/-- The categories of groups are sorted into one order. -/
theorem Groups.names_mergeSort_of_perm (listed : groups.Perm (ofRows rows)) :
    (NameMap.names groups).mergeSort = categories rows := by
  have names : (NameMap.names groups).Perm (categories rows) := by
    rw [← names_ofRows]
    exact listed.map _
  have sorted : (categories rows).Pairwise fun first second =>
      decide (first ≤ second) = true := by
    apply (pairwise_categories rows).imp
    intro first second before
    exact decide_eq_true (Std.le_of_lt before)
  rw [mergeSort_eq_of_perm names, List.mergeSort_of_pairwise sorted]

/-- Taking a group out leaves the others as they are. -/
theorem Groups.taken_eq {categories : List String} (distinct : categories.Nodup)
    (groups : Groups) :
    groups.taken categories = categories.flatMap fun category =>
      HelpSection.lines ⟨category, sortRows (groups.rows category)⟩ := by
  induction categories generalizing groups with
  | nil => rfl
  | cons category others ih =>
    obtain ⟨fresh, distinct⟩ := List.nodup_cons.mp distinct
    have kept : ∀ other ∈ others,
        HelpSection.lines ⟨other, sortRows (Groups.rows (NameMap.remove groups category) other)⟩ =
          HelpSection.lines ⟨other, sortRows (groups.rows other)⟩ := by
      intro other later
      have different : category ≠ other := by
        rintro rfl
        exact fresh later
      rw [rows, NameMap.find?_remove, if_neg different, rows]
    rw [taken, ih distinct, List.flatMap_cons, List.flatMap_congr kept]

/-- Grouped row by row the overview is the same, in whatever order the map of the groups lists
them. -/
theorem Groups.overview_of_perm (listed : groups.Perm (ofRows table.helpRows)) :
    groups.overview = table.overview := by
  have sections : groups.taken (categories table.helpRows) =
      table.sections.flatMap HelpSection.lines := by
    rw [taken_eq (nodup_categories _), CommandTable.sections, List.flatMap_map]
    simp only [rows_of_perm listed, sectionOf]
  rw [overview_eq, printed, (rows_sections_perm table).length_eq, overview, size_of_perm listed,
    names_mergeSort_of_perm listed, sections]

/-- So the help may go through the commands in any order and through the groups in any order. -/
theorem Groups.overview_in_any_order (keyed : table.Keyed) (same : table.SameEntries other)
    (listed : groups.Perm (ofRows table.helpRows)) : groups.overview = other.overview :=
  (overview_of_perm listed).trans (same.overview_eq keyed)

end StoryShell.CommandTable
