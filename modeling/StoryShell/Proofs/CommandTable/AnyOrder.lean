/-
# The order of registration does not show

Commands whose names differ in more than case, and programs with different names, may
be registered in any order: what runs, what is listed, what the help tells and what
completes a word are the same. Nor does it matter in which order the maps of a table
list their entries, as long as they hold the same ones: every view sorts what it
shows. A command under the name of the help is no exception, because the row of the
help itself always goes before it.
-/

import StoryShell.Proofs.CommandTable.Overview

namespace StoryShell

namespace CommandTable

/-- The maps of two tables hold the same entries, in whatever order they list them. -/
structure SameEntries (table other : CommandTable) : Prop where
  commands : table.commands.Perm other.commands
  programs : table.programs.Perm other.programs

/-- Each command is kept under its name in lower case, and no key occurs twice in a map. -/
structure Keyed (table : CommandTable) : Prop where
  keys : ∀ entry ∈ table.commands, entry.1 = Text.asciiLower entry.2.name
  commands : (NameMap.names table.commands).Nodup
  programs : (NameMap.names table.programs).Nodup

variable {table other : CommandTable} {registrations others : List Registration}
  {rows shuffled : List HelpRow}

/-! ### Tables in any order -/

/-- Registrations under different names lead to one table in any order. -/
theorem ofRegistrations_eq_of_perm (same : registrations.Perm others)
    (distinct : ((Registration.commands registrations).map fun command =>
      Text.asciiLower command.name).Nodup)
    (distinctPrograms : ((Registration.programs registrations).map (·.name)).Nodup) :
    ofRegistrations registrations = ofRegistrations others := by
  rw [ofRegistrations_eq, ofRegistrations_eq, CommandTable.mk.injEq]
  constructor
  · apply NameMap.ofEntries_eq_of_perm ((same.filterMap _).map _)
    rwa [List.map_map]
  · apply NameMap.ofEntries_eq_of_perm ((same.filterMap _).map _)
    rwa [List.map_map]

theorem keyed_ofRegistrations (registrations : List Registration) :
    (ofRegistrations registrations).Keyed where
  keys := fun _ held => key_of_mem held
  commands := (ordered_ofRegistrations registrations).nodup_names
  programs := by
    rw [ofRegistrations_eq]
    exact NameMap.Ordered.nodup_names (NameMap.ordered_ofEntries _)

/-! ### Rows in any order -/

theorem categories_eq_of_perm (same : rows.Perm shuffled) :
    categories rows = categories shuffled := by
  apply List.Perm.eq_of_pairwise _ (pairwise_categories rows) (pairwise_categories shuffled)
  · rw [List.perm_ext_iff_of_nodup (nodup_categories rows) (nodup_categories shuffled)]
    intro category
    rw [mem_categories, mem_categories]
    exact exists_congr fun row => and_congr_left fun _ => same.mem_iff
  · intro first second _ _ less greater
    exact absurd (String.lt_trans less greater) (String.lt_irrefl first)

/-- Rows with different names are sorted into one order. -/
theorem sortRows_eq_of_perm (same : rows.Perm shuffled) (distinct : (rows.map (·.name)).Nodup) :
    sortRows rows = sortRows shuffled := by
  have sorted : (sortRows rows).Perm (sortRows shuffled) :=
    (sortRows_perm rows).trans (same.trans (sortRows_perm shuffled).symm)
  apply sorted.eq_of_pairwise _ (pairwise_sortRows rows) (pairwise_sortRows shuffled)
  intro first second hfirst hsecond before after
  have member := (sortRows_perm rows).mem_iff.mp hfirst
  have memberToo := (sortRows_perm rows).mem_iff.mp (sorted.mem_iff.mpr hsecond)
  exact List.inj_on_of_nodup_map distinct member memberToo (String.le_antisymm before after)

/-- A row that stands before all others is sorted in before those that have its name. -/
theorem sortRows_cons (row : HelpRow) (rows : List HelpRow) :
    sortRows (row :: rows) =
      (sortRows rows).takeWhile (fun other => !decide (row.name ≤ other.name)) ++
        row :: (sortRows rows).dropWhile (fun other => !decide (row.name ≤ other.name)) := by
  obtain ⟨before, after, whole, rest, less⟩ :=
    List.mergeSort_cons byName_trans byName_total row rows
  have sorted := pairwise_sortRows (row :: rows)
  rw [sortRows] at sorted ⊢
  rw [whole] at sorted ⊢
  rw [sortRows, rest, List.takeWhile_append_of_pos less, List.dropWhile_append_of_pos less]
  -- No row after the new one has a smaller name.
  cases after with
  | nil => simp
  | cons next later =>
    have notLess : row.name ≤ next.name :=
      List.rel_of_pairwise_cons (List.pairwise_append.mp sorted).2.1 List.mem_cons_self
    simp [notLess]

/-! ### Tables with the same entries -/

/-- The rows of the registered commands, without that of the help. -/
def commandRows (table : CommandTable) : List HelpRow :=
  table.commands.map fun entry => HelpRow.ofCommand entry.2

theorem SameEntries.symm (same : table.SameEntries other) : other.SameEntries table :=
  ⟨same.commands.symm, same.programs.symm⟩

theorem SameEntries.trans {third : CommandTable} (same : table.SameEntries other)
    (sameToo : other.SameEntries third) : table.SameEntries third :=
  ⟨same.commands.trans sameToo.commands, same.programs.trans sameToo.programs⟩

theorem Keyed.of_sameEntries (keyed : other.Keyed) (same : table.SameEntries other) :
    table.Keyed where
  keys entry held := keyed.keys entry (same.commands.mem_iff.mp held)
  commands := (same.commands.map _).nodup_iff.mpr keyed.commands
  programs := (same.programs.map _).nodup_iff.mpr keyed.programs

/-- Commands under different keys have different names. -/
theorem Keyed.nodup_names (keyed : table.Keyed) : (table.commandRows.map (·.name)).Nodup := by
  have keys : (table.commandRows.map (·.name)).map Text.asciiLower =
      NameMap.names table.commands := by
    rw [commandRows, List.map_map, List.map_map, NameMap.names]
    apply List.map_congr_left
    intro entry held
    exact (keyed.keys entry held).symm
  apply List.Nodup.of_map Text.asciiLower
  rw [keys]
  exact keyed.commands

theorem SameEntries.commandRows_perm (same : table.SameEntries other) :
    table.commandRows.Perm other.commandRows :=
  same.commands.map _

section Views

variable (keyed : table.Keyed) (same : table.SameEntries other)
include keyed same

theorem SameEntries.find?_eq (name : String) : table.find? name = other.find? name :=
  NameMap.find?_of_perm same.commands keyed.commands _

theorem SameEntries.listing_eq : table.listing = other.listing := by
  have sorted := sortRows_eq_of_perm same.commandRows_perm keyed.nodup_names
  exact congrArg (List.map fun row => (row.name, row.description)) sorted

/-- The sections hold the same rows in the same order, that of the help before any other of its
name. -/
theorem SameEntries.sectionOf_eq (category : String) :
    sectionOf table.helpRows category = sectionOf other.helpRows category := by
  have filed : sortRows (table.commandRows.filter (·.category = category)) =
      sortRows (other.commandRows.filter (·.category = category)) := by
    apply sortRows_eq_of_perm (same.commandRows_perm.filter _)
    exact keyed.nodup_names.sublist (List.filter_sublist.map _)
  have rows (table : CommandTable) : table.helpRows = helpRow :: table.commandRows := rfl
  rw [sectionOf, sectionOf, rows, rows, List.filter_cons, List.filter_cons]
  split
  · rw [sortRows_cons, sortRows_cons, filed]
  · rw [filed]

theorem SameEntries.overview_eq : table.overview = other.overview := by
  have rows : table.helpRows.Perm other.helpRows := same.commandRows_perm.cons helpRow
  have sections : table.sections = other.sections := by
    rw [sections, sections, categories_eq_of_perm rows]
    exact List.map_congr_left fun category _ => same.sectionOf_eq keyed category
  rw [CommandTable.overview_eq, CommandTable.overview_eq, sections]

theorem SameEntries.help_eq (arguments : List String) :
    table.help arguments = other.help arguments := by
  cases arguments with
  | nil => rw [help, help, same.overview_eq keyed]
  | cons name rest => rw [help, help, same.find?_eq keyed]

theorem SameEntries.dispatch_eq (name : String) (arguments : List String) (view : View) :
    table.dispatch name arguments view = other.dispatch name arguments view := by
  rw [dispatch, dispatch, same.help_eq keyed, same.find?_eq keyed]

theorem SameEntries.programAt_eq (token : String) (view : View) :
    table.programAt token view = other.programAt token view := by
  have found (entry : String) :
      NameMap.find? table.programs entry = NameMap.find? other.programs entry :=
    NameMap.find?_of_perm same.programs keyed.programs entry
  simp only [programAt, found]

end Views

/-- Names are sorted into one order, even if some are equal. -/
theorem mergeSort_eq_of_perm {names shuffled : List String} (same : names.Perm shuffled) :
    names.mergeSort = shuffled.mergeSort := by
  have sorted : names.mergeSort.Perm shuffled.mergeSort :=
    (List.mergeSort_perm ..).trans (same.trans (List.mergeSort_perm ..).symm)
  apply sorted.eq_of_pairwise _ (pairwise_mergeSort _) (pairwise_mergeSort _)
  exact fun first second _ _ => String.le_antisymm

theorem SameEntries.completions_eq (same : table.SameEntries other) (start : String) :
    table.completions start = other.completions start := by
  apply mergeSort_eq_of_perm
  apply List.Perm.filter
  exact (same.commands.map _).append_right _

/-- Commands whose names differ in more than case and programs with different names are registered
in two orders, and the maps of the two tables are listed in any order. Then both tables list the
same commands, complete every beginning and give every help alike, run the same under every name,
and find the same program behind every path. -/
theorem registration_order_does_not_show (same : registrations.Perm others)
    (distinct : ((Registration.commands registrations).map fun command =>
      Text.asciiLower command.name).Nodup)
    (distinctPrograms : ((Registration.programs registrations).map (·.name)).Nodup)
    (listed : table.SameEntries (ofRegistrations registrations))
    (listedToo : other.SameEntries (ofRegistrations others)) :
    table.listing = other.listing ∧
      (∀ start, table.completions start = other.completions start) ∧
      (∀ arguments, table.help arguments = other.help arguments) ∧
      (∀ name arguments view,
        table.dispatch name arguments view = other.dispatch name arguments view) ∧
      ∀ token view, table.programAt token view = other.programAt token view := by
  have keyed : table.Keyed := (keyed_ofRegistrations registrations).of_sameEntries listed
  rw [← ofRegistrations_eq_of_perm same distinct distinctPrograms] at listedToo
  have entries : table.SameEntries other := listed.trans listedToo.symm
  exact ⟨entries.listing_eq keyed, entries.completions_eq, entries.help_eq keyed,
    entries.dispatch_eq keyed, entries.programAt_eq keyed⟩

/-- Three commands, one of them under the name of the help, and a program. -/
def kiosk : List Registration :=
  [.command { name := "help", description := "Ask the clerk", behaviour := .builtin .echo },
   .command { name := "Buy", category := "shop", behaviour := .builtin .pwd },
   .program { name := "map", behaviour := .builtin .audit },
   .command { name := "ask", behaviour := .builtin .echo }]

/-- Registered the other way round and listed the other way round, the kiosk shows the same. -/
theorem registration_order_does_not_show_at_kiosk :
    let table : CommandTable :=
      { commands := (ofRegistrations kiosk).commands.reverse
        programs := (ofRegistrations kiosk).programs.reverse }
    let other := ofRegistrations kiosk.reverse
    NameMap.names table.commands = ["help", "buy", "ask"] ∧
      NameMap.names other.commands = ["ask", "buy", "help"] ∧
      table.listing = other.listing ∧ table.completions "" = other.completions "" ∧
      table.help [] = other.help [] ∧
      table.dispatch "BUY" [] ⟨{}, {}, {}⟩ = other.dispatch "BUY" [] ⟨{}, {}, {}⟩ := by
  intro table other
  have listed : table.SameEntries (ofRegistrations kiosk) :=
    ⟨List.reverse_perm _, List.reverse_perm _⟩
  obtain ⟨listing, completions, help, dispatch, -⟩ :=
    registration_order_does_not_show (List.reverse_perm kiosk).symm (by decide) (by decide)
      listed ⟨.refl _, .refl _⟩
  exact ⟨by decide, by decide, listing, completions "", help [], dispatch "BUY" [] _⟩

end CommandTable

end StoryShell
