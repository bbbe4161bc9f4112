/-
# Maps are their look-ups

Two maps in name order that agree on every look-up are the same list. So an
equality of maps may be shown name by name, whatever operations built them and in
whatever order.
-/

import Mathlib.Data.List.Induction
import StoryShell.NameMap

namespace StoryShell.NameMap

variable {α : Type _} {m other : NameMap α}

/-- A name before all names of a map is not in it. -/
theorem find?_eq_none_of_before {name : String} (before : ∀ entry ∈ m, name < entry.1) :
    find? m name = none := by
  induction m with
  | nil => rfl
  | cons entry rest ih =>
    have first := before entry List.mem_cons_self
    have different : entry.1 ≠ name := by
      intro same
      exact String.lt_irrefl name (same ▸ first)
    rw [find?_cons, if_neg different]
    apply ih
    intro later hlater
    exact before later (List.mem_cons_of_mem _ hlater)

/-- The names of a map are those that a look-up finds something under. -/
theorem mem_names_iff {name : String} : name ∈ names m ↔ find? m name ≠ none := by
  induction m with
  | nil => simp [names]
  | cons entry rest ih =>
    obtain ⟨key, value⟩ := entry
    rw [names, List.map_cons, List.mem_cons, find?_cons]
    by_cases here : key = name
    · simp [here]
    · rw [if_neg here, ← ih]
      simp [Ne.symm here, names]

theorem Ordered.nodup_names (ordered : Ordered m) : (names m).Nodup := by
  apply List.Pairwise.imp _ ordered
  intro first second before same
  exact String.lt_irrefl first (same ▸ before)

/-- If no name occurs twice, looking a name up finds the entry with this name. -/
theorem find?_eq_some (distinct : (names m).Nodup) {name : String} {value : α} :
    find? m name = some value ↔ (name, value) ∈ m := by
  refine ⟨mem_of_find?, fun member => ?_⟩
  induction m with
  | nil => cases member
  | cons entry rest ih =>
    obtain ⟨key, first⟩ := entry
    rw [names, List.map_cons, List.nodup_cons] at distinct
    rcases List.mem_cons.mp member with same | member
    · cases same
      rw [find?_cons, if_pos rfl]
    · have different : key ≠ name := by
        rintro rfl
        exact distinct.1 (List.mem_map.mpr ⟨_, member, rfl⟩)
      rw [find?_cons, if_neg different]
      exact ih distinct.2 member

/-- In a map in order, looking up the name of an entry finds the entry. -/
theorem Ordered.find?_of_mem (ordered : Ordered m) {name : String} {value : α}
    (member : (name, value) ∈ m) : find? m name = some value :=
  (find?_eq_some ordered.nodup_names).mpr member

/-- If no name occurs twice, a look-up does not depend on the order of the entries. -/
theorem find?_of_perm (same : m.Perm other) (distinct : (names m).Nodup) (name : String) :
    find? m name = find? other name := by
  have distinctToo : (names other).Nodup := (same.map _).nodup_iff.mp distinct
  apply Option.ext
  intro value
  rw [find?_eq_some distinct, find?_eq_some distinctToo, same.mem_iff]

/-- The first name of a map in order is the least one that the map and an equal one hold. -/
theorem Ordered.first_le {key name : String} {value found : α} {rest : NameMap α}
    (ordered : Ordered ((key, value) :: rest))
    (held : find? ((key, value) :: rest) name = some found) : ¬ name < key := by
  intro before
  have none : find? ((key, value) :: rest) name = none := find?_eq_none_of_before <| by
    intro entry hentry
    rcases List.mem_cons.mp hentry with rfl | hentry
    · exact before
    · exact String.lt_trans before ((ordered_cons.mp ordered).1 entry hentry)
  rw [held] at none
  cases none

/-- Maps in order with equal look-ups are equal. -/
theorem Ordered.ext (hm : Ordered m) (hother : Ordered other)
    (same : ∀ name, find? m name = find? other name) : m = other := by
  induction m generalizing other with
  | nil =>
    cases other with
    | nil => rfl
    | cons entry rest =>
      have first := same entry.1
      rw [find?_cons, if_pos rfl] at first
      cases first
  | cons entry rest ih =>
    obtain ⟨key, value⟩ := entry
    have first : find? other key = some value := by
      rw [← same, find?_cons, if_pos rfl]
    cases other with
    | nil => cases first
    | cons entry' rest' =>
      obtain ⟨key', value'⟩ := entry'
      have first' : find? ((key, value) :: rest) key' = some value' := by
        rw [same, find?_cons, if_pos rfl]
      have keys : key = key' := by
        have notBefore := hm.first_le first'
        have notAfter := hother.first_le first
        grind
      subst keys
      rw [find?_cons, if_pos rfl, Option.some.injEq] at first
      subst first
      obtain ⟨below, hrest⟩ := ordered_cons.mp hm
      obtain ⟨below', hrest'⟩ := ordered_cons.mp hother
      -- The rests agree on the first name too: it comes before all of theirs.
      have rests : ∀ name, find? rest name = find? rest' name := by
        intro name
        have whole := same name
        rw [find?_cons, find?_cons] at whole
        by_cases here : key = name
        · subst here
          rw [find?_eq_none_of_before below, find?_eq_none_of_before below']
        · rwa [if_neg here, if_neg here] at whole
      rw [ih hrest hrest' rests]

theorem find?_put_self (m : NameMap α) (name : String) (value : α) :
    find? (put m name value) name = some value := by
  rw [find?_put, if_pos rfl]

theorem find?_put_of_ne {name sought : String} (different : name ≠ sought) (m : NameMap α)
    (value : α) : find? (put m name value) sought = find? m sought := by
  rw [find?_put, if_neg different]

/-! ### Maps that come out equal -/

/-- Of two values put under one name the later counts. -/
theorem put_put (m : NameMap α) (name : String) (old new : α) :
    put (put m name old) name new = put m name new := by
  induction m with
  | nil => simp [put]
  | cons entry rest ih =>
    obtain ⟨key, value⟩ := entry
    by_cases before : name < key
    · simp [put, before]
    · by_cases here : key = name
      · simp [put, here]
      · simp [put, before, here, ih]

/-- Values put under different names may be put in either order. -/
theorem Ordered.put_comm (ordered : Ordered m) {first second : String} (different : first ≠ second)
    (x y : α) : NameMap.put (NameMap.put m first x) second y =
      NameMap.put (NameMap.put m second y) first x := by
  apply ((ordered.put ..).put ..).ext ((ordered.put ..).put ..)
  intro name
  simp only [find?_put]
  by_cases here : first = name
  · subst here
    simp [Ne.symm different]
  · simp [here]

/-- Putting a value where it is already changes nothing. -/
theorem Ordered.put_of_find? (ordered : Ordered m) {name : String} {value : α}
    (held : find? m name = some value) : NameMap.put m name value = m := by
  apply (ordered.put ..).ext ordered
  intro sought
  rw [find?_put]
  by_cases here : name = sought
  · rw [if_pos here, ← here, held]
  · rw [if_neg here]

/-- Removing a new name undoes putting it. -/
theorem Ordered.remove_put (ordered : Ordered m) {name : String} (absent : find? m name = none)
    (value : α) : NameMap.remove (NameMap.put m name value) name = m := by
  apply ((ordered.put ..).remove ..).ext ordered
  intro sought
  rw [find?_remove, find?_put]
  by_cases here : name = sought
  · rw [if_pos here, ← here, absent]
  · rw [if_neg here, if_neg here]

/-- Putting what a name mapped to undoes removing the name. -/
theorem Ordered.put_remove (ordered : Ordered m) {name : String} {value : α}
    (held : find? m name = some value) : NameMap.put (NameMap.remove m name) name value = m := by
  apply ((ordered.remove ..).put ..).ext ordered
  intro sought
  rw [find?_put, find?_remove]
  by_cases here : name = sought
  · rw [if_pos here, ← here, held]
  · rw [if_neg here, if_neg here]

/-! ### Maps of lists of entries -/

theorem ofEntries_concat (entries : List (String × α)) (name : String) (value : α) :
    ofEntries (entries ++ [(name, value)]) = put (ofEntries entries) name value :=
  List.foldl_append

theorem mem_names_ofEntries {entries : List (String × α)} {name : String} :
    name ∈ names (ofEntries entries) ↔ name ∈ entries.map Prod.fst := by
  induction entries using List.reverseRecOn with
  | nil => simp [ofEntries, names]
  | append_singleton entries entry ih =>
    obtain ⟨key, value⟩ := entry
    rw [mem_names_iff] at ih
    rw [mem_names_iff, ofEntries_concat, find?_put]
    by_cases here : key = name
    · simp [here]
    · simp [here, Ne.symm here, ih]

/-- If no name occurs twice, every entry counts. -/
theorem find?_ofEntries_eq_some {entries : List (String × α)}
    (distinct : (entries.map Prod.fst).Nodup) {name : String} {value : α} :
    find? (ofEntries entries) name = some value ↔ (name, value) ∈ entries := by
  induction entries using List.reverseRecOn with
  | nil => simp [ofEntries]
  | append_singleton entries entry ih =>
    obtain ⟨key, last⟩ := entry
    rw [List.map_append, List.nodup_append] at distinct
    obtain ⟨earlier, -, apart⟩ := distinct
    rw [ofEntries_concat, find?_put]
    by_cases here : key = name
    · subst here
      have absent : (key, value) ∉ entries := by
        intro member
        exact apart key (List.mem_map_of_mem member) key (by simp) rfl
      simp [absent, eq_comm]
    · simp [here, Ne.symm here, ih earlier]

/-- Entries with different names may be put in any order. -/
theorem ofEntries_eq_of_perm {entries others : List (String × α)} (same : entries.Perm others)
    (distinct : (entries.map Prod.fst).Nodup) : ofEntries entries = ofEntries others := by
  apply (ordered_ofEntries _).ext (ordered_ofEntries _)
  intro name
  have distinctToo : (others.map Prod.fst).Nodup := (same.map _).nodup_iff.mp distinct
  apply Option.ext
  intro value
  rw [find?_ofEntries_eq_some distinct, find?_ofEntries_eq_some distinctToo, same.mem_iff]

/-! ### Conditional insertion -/

/-- The map with an entry put under a condition. -/
def putIf (condition : Bool) (m : NameMap α) (name : String) (value : α) : NameMap α :=
  if condition then put m name value else m

theorem find?_putIf (condition : Bool) (m : NameMap α) (name : String) (value : α)
    (sought : String) :
    find? (putIf condition m name value) sought =
      if condition = true ∧ name = sought then some value else find? m sought := by
  cases condition with
  | true => simp only [putIf, if_true, find?_put, true_and]
  | false => simp [putIf]

theorem Ordered.putIf (h : Ordered m) (condition : Bool) (name : String) (value : α) :
    Ordered (NameMap.putIf condition m name value) := by
  cases condition with
  | true => exact h.put name value
  | false => exact h

end StoryShell.NameMap
