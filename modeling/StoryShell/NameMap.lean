/-
# Maps from names, in name order

A finite map from names is kept as a list of pairs whose names increase in code
point order, so equal maps are equal lists and listing a map needs no sorting.
Every operation keeps the order.
-/

namespace StoryShell

/-- A finite map from names. -/
abbrev NameMap (α : Type _) := List (String × α)

namespace NameMap

variable {α : Type _}

/-- The names increase strictly, so no name occurs twice. -/
def Ordered (m : NameMap α) : Prop :=
  (m.map Prod.fst).Pairwise (· < ·)

/-- The names of a map, in order. -/
def names (m : NameMap α) : List String :=
  m.map Prod.fst

/-- What a name maps to. -/
def find? : NameMap α → String → Option α
  | [], _ => none
  | (key, value) :: rest, name => if key = name then some value else find? rest name

/-- The map with `name` mapped to `value`, in place of what it was mapped to before. -/
def put : NameMap α → String → α → NameMap α
  | [], name, value => [(name, value)]
  | (key, old) :: rest, name, value =>
    if name < key then (name, value) :: (key, old) :: rest
    else if key = name then (name, value) :: rest
    else (key, old) :: put rest name value

/-- The map without `name`. -/
def remove (m : NameMap α) (name : String) : NameMap α :=
  m.filter fun entry => entry.1 ≠ name

/-- The map of a list of entries, of which the last one for a name counts. -/
def ofEntries (entries : List (String × α)) : NameMap α :=
  entries.foldl (fun m entry => put m entry.1 entry.2) []

/-! ### What the operations do to a look-up -/

@[simp]
theorem find?_nil (name : String) : find? ([] : NameMap α) name = none :=
  rfl

theorem find?_cons (key : String) (value : α) (rest : NameMap α) (name : String) :
    find? ((key, value) :: rest) name = if key = name then some value else find? rest name :=
  rfl

/-- After `put` a name maps to the new value and every other name to what it did before. -/
theorem find?_put (m : NameMap α) (name : String) (value : α) (other : String) :
    find? (put m name value) other = if name = other then some value else find? m other := by
  induction m with
  | nil => rfl
  | cons entry rest ih =>
    obtain ⟨key, old⟩ := entry
    rw [put]
    split
    · rfl
    · split
      · rename_i hkey
        subst hkey
        simp only [find?_cons]
        split <;> rfl
      · rename_i hlt hne
        simp only [find?_cons, ih]
        by_cases hkey : key = other
        · subst hkey
          simp [Ne.symm hne]
        · simp [hkey]

/-- After `remove` a name maps to nothing and every other name to what it did before. -/
theorem find?_remove (m : NameMap α) (name other : String) :
    find? (remove m name) other = if name = other then none else find? m other := by
  induction m with
  | nil => simp [remove]
  | cons entry rest ih =>
    obtain ⟨key, value⟩ := entry
    by_cases hkey : key = name
    · subst hkey
      have hdrop : remove ((key, value) :: rest) key = remove rest key := by simp [remove]
      rw [hdrop, ih, find?_cons]
      split <;> rfl
    · have hkeep : remove ((key, value) :: rest) name = (key, value) :: remove rest name := by
        simp [remove, hkey]
      rw [hkeep, find?_cons, find?_cons, ih]
      by_cases hother : key = other
      · subst hother
        simp [Ne.symm hkey]
      · simp [hother]

/-- Looking a name up finds an entry of the map. -/
theorem mem_of_find? {m : NameMap α} {name : String} {value : α}
    (h : find? m name = some value) : (name, value) ∈ m := by
  induction m with
  | nil => simp at h
  | cons entry rest ih =>
    obtain ⟨key, old⟩ := entry
    rw [find?_cons] at h
    split at h
    · rename_i hkey
      simp_all
    · exact List.mem_cons_of_mem _ (ih h)

/-! ### Every operation keeps the order -/

@[simp]
theorem ordered_nil : Ordered ([] : NameMap α) :=
  List.Pairwise.nil

theorem ordered_cons {key : String} {value : α} {rest : NameMap α} :
    Ordered ((key, value) :: rest) ↔ (∀ entry ∈ rest, key < entry.1) ∧ Ordered rest := by
  simp [Ordered]

/-- The names after `put` are the new one and those that were there before. -/
theorem mem_put {m : NameMap α} {name : String} {value : α} {entry : String × α}
    (h : entry ∈ put m name value) : entry = (name, value) ∨ entry ∈ m := by
  induction m with
  | nil => simpa [put] using h
  | cons first rest ih =>
    obtain ⟨key, old⟩ := first
    rw [put] at h
    split at h
    · simpa using h
    · split at h
      · rcases List.mem_cons.mp h with h | h
        · exact .inl h
        · exact .inr (List.mem_cons_of_mem _ h)
      · rcases List.mem_cons.mp h with h | h
        · exact .inr (h ▸ List.mem_cons_self)
        · exact (ih h).imp_right (List.mem_cons_of_mem _)

theorem Ordered.put {m : NameMap α} (h : Ordered m) (name : String) (value : α) :
    Ordered (put m name value) := by
  induction m with
  | nil => simp [NameMap.put, Ordered]
  | cons first rest ih =>
    obtain ⟨key, old⟩ := first
    obtain ⟨hfirst, hrest⟩ := ordered_cons.mp h
    rw [NameMap.put]
    split
    · rename_i hlt
      refine ordered_cons.mpr ⟨fun entry hmem => ?_, h⟩
      rcases List.mem_cons.mp hmem with rfl | hmem
      · exact hlt
      · exact String.lt_trans hlt (hfirst entry hmem)
    · rename_i hlt
      split
      · rename_i hkey
        subst hkey
        exact ordered_cons.mpr ⟨hfirst, hrest⟩
      · rename_i hne
        refine ordered_cons.mpr ⟨fun entry hmem => ?_, ih hrest⟩
        rcases mem_put hmem with rfl | hmem
        · grind
        · exact hfirst entry hmem

theorem Ordered.remove {m : NameMap α} (h : Ordered m) (name : String) :
    Ordered (remove m name) := by
  rw [Ordered, List.pairwise_map] at h ⊢
  exact h.filter _

theorem ordered_ofEntries (entries : List (String × α)) : Ordered (ofEntries entries) := by
  have hfold : ∀ (entries : List (String × α)) (m : NameMap α), Ordered m →
      Ordered (entries.foldl (fun m entry => put m entry.1 entry.2) m) := by
    intro entries
    induction entries with
    | nil => exact fun m h => h
    | cons entry rest ih => exact fun m h => ih _ (h.put entry.1 entry.2)
  exact hfold entries [] ordered_nil

end NameMap

end StoryShell
