import Mathlib.Algebra.GroupWithZero.Nat
import Mathlib.Data.List.Nodup

/-!
# Insertion-ordered dictionaries

A table is a finite list of key-value entries with pairwise distinct keys.
Assigning a present key replaces its value in place; assigning a new key
appends an entry.  This is the behaviour of an object used as a dictionary,
and, with the order ignored, of a hash map.
-/

namespace LociTerm

/-- A finite dictionary whose entries have pairwise distinct keys. -/
structure Table (κ α : Type) where
  /-- The entries, oldest key first. -/
  entries : List (κ × α)
  /-- No key occurs twice. -/
  nodup : (entries.map Prod.fst).Nodup
  deriving DecidableEq

namespace Table

variable {κ α β : Type} [DecidableEq κ]

/-- The dictionary without entries. -/
def empty : Table κ α := ⟨[], by simp⟩

/-- The keys, oldest first. -/
def keys (table : Table κ α) : List κ := table.entries.map Prod.fst

/-- The value stored under a key. -/
def get? (table : Table κ α) (key : κ) : Option α :=
  table.entries.lookup key

/-- Replace the value of a present key in place, or append a new entry. -/
def setEntry (key : κ) (value : α) : List (κ × α) → List (κ × α)
  | [] => [(key, value)]
  | entry :: rest =>
      if entry.1 = key then (key, value) :: rest
      else entry :: setEntry key value rest

omit [DecidableEq κ] in
theorem nodup_of_sublist
    {entries smaller : List (κ × α)}
    (sublist : smaller.Sublist entries)
    (nodup : (entries.map Prod.fst).Nodup) :
    (smaller.map Prod.fst).Nodup :=
  (sublist.map Prod.fst).nodup nodup

theorem mem_keys_setEntry
    (key other : κ)
    (value : α)
    (entries : List (κ × α)) :
    other ∈ (setEntry key value entries).map Prod.fst ↔
      other = key ∨ other ∈ entries.map Prod.fst := by
  induction entries with
  | nil => simp [setEntry]
  | cons entry rest inductionHypothesis =>
      by_cases same : entry.1 = key
      · simp [setEntry, same]
      · simp only [setEntry, if_neg same, List.map_cons, List.mem_cons,
          inductionHypothesis]
        tauto

theorem nodup_setEntry
    (key : κ)
    (value : α)
    (entries : List (κ × α))
    (nodup : (entries.map Prod.fst).Nodup) :
    ((setEntry key value entries).map Prod.fst).Nodup := by
  induction entries with
  | nil => simp [setEntry]
  | cons entry rest inductionHypothesis =>
      simp only [List.map_cons, List.nodup_cons] at nodup
      by_cases same : entry.1 = key
      · subst same
        simpa [setEntry] using nodup
      · simp only [setEntry, if_neg same, List.map_cons, List.nodup_cons,
          mem_keys_setEntry, not_or]
        exact ⟨⟨same, nodup.1⟩, inductionHypothesis nodup.2⟩

/-- Assign a value to a key. -/
def set (table : Table κ α) (key : κ) (value : α) : Table κ α :=
  ⟨setEntry key value table.entries,
    nodup_setEntry key value table.entries table.nodup⟩

/-- Delete a key. -/
def erase (table : Table κ α) (key : κ) : Table κ α :=
  ⟨table.entries.filter fun entry => entry.1 ≠ key,
    nodup_of_sublist List.filter_sublist table.nodup⟩

/-- Apply a function to every value, knowing its key. -/
def mapWithKey (table : Table κ α) (f : κ → α → β) : Table κ β :=
  ⟨table.entries.map fun entry => (entry.1, f entry.1 entry.2), by
    simpa [List.map_map, Function.comp_def] using table.nodup⟩

/-- Apply a function to the value of one key, when it is present. -/
def modify (table : Table κ α) (key : κ) (f : α → α) : Table κ α :=
  table.mapWithKey fun other value => if other = key then f value else value

/-! ## Lookups -/

@[simp] theorem get?_empty (key : κ) :
    (empty : Table κ α).get? key = none := rfl

omit [DecidableEq κ] in
theorem lookup_cons_eq [DecidableEq κ]
    (entry : κ × α)
    (rest : List (κ × α))
    (key : κ) :
    (entry :: rest).lookup key =
      if entry.1 = key then some entry.2 else rest.lookup key := by
  obtain ⟨entryKey, value⟩ := entry
  by_cases same : entryKey = key
  · simp [same]
  · have different : (key == entryKey) = false := by
      simpa using fun equal => same equal.symm
    simp [List.lookup_cons, same, different]

theorem lookup_setEntry
    (key other : κ)
    (value : α)
    (entries : List (κ × α)) :
    (setEntry key value entries).lookup other =
      if key = other then some value else entries.lookup other := by
  induction entries with
  | nil => simp [setEntry, lookup_cons_eq]
  | cons entry rest inductionHypothesis =>
      by_cases same : entry.1 = key
      · subst same
        by_cases found : entry.1 = other <;>
          simp [setEntry, lookup_cons_eq, found]
      · by_cases found : entry.1 = other
        · have different : key ≠ other := fun equal =>
            same (found.trans equal.symm)
          rw [setEntry, if_neg same]
          simp [lookup_cons_eq, found, different]
        · simp [setEntry, lookup_cons_eq, same, found, inductionHypothesis]

theorem get?_set
    (table : Table κ α)
    (key other : κ)
    (value : α) :
    (table.set key value).get? other =
      if key = other then some value else table.get? other :=
  lookup_setEntry key other value table.entries

@[simp] theorem get?_set_self (table : Table κ α) (key : κ) (value : α) :
    (table.set key value).get? key = some value := by
  simp [get?_set]

theorem get?_set_of_ne
    (table : Table κ α)
    {key other : κ}
    (value : α)
    (different : key ≠ other) :
    (table.set key value).get? other = table.get? other := by
  simp [get?_set, different]

theorem get?_erase
    (table : Table κ α)
    (key other : κ) :
    (table.erase key).get? other =
      if key = other then none else table.get? other := by
  change (table.entries.filter fun entry => entry.1 ≠ key).lookup other =
    if key = other then none else table.entries.lookup other
  induction table.entries with
  | nil => simp
  | cons entry rest inductionHypothesis =>
      by_cases dropped : entry.1 = key
      · subst dropped
        rw [List.filter_cons_of_neg (by simp), inductionHypothesis,
          lookup_cons_eq]
        split <;> rfl
      · rw [List.filter_cons_of_pos (by simpa using dropped), lookup_cons_eq,
          lookup_cons_eq, inductionHypothesis]
        by_cases found : entry.1 = other
        · have different : key ≠ other := fun equal =>
            dropped (found.trans equal.symm)
          simp [found, different]
        · simp [found]

@[simp] theorem get?_erase_self (table : Table κ α) (key : κ) :
    (table.erase key).get? key = none := by
  simp [get?_erase]

theorem get?_erase_of_ne
    (table : Table κ α)
    {key other : κ}
    (different : key ≠ other) :
    (table.erase key).get? other = table.get? other := by
  simp [get?_erase, different]

@[simp] theorem get?_mapWithKey
    (table : Table κ α)
    (f : κ → α → β)
    (key : κ) :
    (table.mapWithKey f).get? key = (table.get? key).map (f key) := by
  change (table.entries.map fun entry => (entry.1, f entry.1 entry.2)).lookup
      key = (table.entries.lookup key).map (f key)
  induction table.entries with
  | nil => simp
  | cons entry rest inductionHypothesis =>
      simp only [List.map_cons, lookup_cons_eq]
      by_cases found : entry.1 = key
      · subst found
        simp
      · simp [found, inductionHypothesis]

omit [DecidableEq κ] in
@[simp] theorem keys_mapWithKey (table : Table κ α) (f : κ → α → β) :
    (table.mapWithKey f).keys = table.keys := by
  simp [keys, mapWithKey, List.map_map, Function.comp_def]

theorem get?_modify
    (table : Table κ α)
    (key other : κ)
    (f : α → α) :
    (table.modify key f).get? other =
      if other = key then (table.get? other).map f else table.get? other := by
  rw [modify, get?_mapWithKey]
  by_cases same : other = key <;> simp [same]

/-! ## Entries and lookups -/

theorem mem_entries_iff
    (table : Table κ α)
    (key : κ)
    (value : α) :
    (key, value) ∈ table.entries ↔ table.get? key = some value := by
  obtain ⟨entries, nodup⟩ := table
  unfold get?
  induction entries with
  | nil => simp
  | cons entry rest inductionHypothesis =>
      simp only [List.map_cons, List.nodup_cons] at nodup
      simp only [List.mem_cons, lookup_cons_eq]
      by_cases found : entry.1 = key
      · subst found
        have absent : (entry.1, value) ∉ rest := fun member =>
          nodup.1 (List.mem_map.mpr ⟨(entry.1, value), member, rfl⟩)
        simp only [absent, or_false, if_true, Option.some.injEq]
        constructor
        · intro equal
          rw [← equal]
        · rintro rfl
          rfl
      · have different : (key, value) ≠ entry := fun equal =>
          found (by rw [← equal])
        simp only [different, false_or, found, if_false]
        exact inductionHypothesis nodup.2

theorem get?_eq_none_iff (table : Table κ α) (key : κ) :
    table.get? key = none ↔ key ∉ table.keys := by
  constructor
  · intro absent member
    obtain ⟨⟨_, value⟩, entryMember, rfl⟩ := List.mem_map.mp member
    rw [(table.mem_entries_iff _ value).mp entryMember] at absent
    cases absent
  · intro absent
    cases found : table.get? key with
    | none => rfl
    | some value =>
        have entryMember := (table.mem_entries_iff key value).mpr found
        exact False.elim
          (absent (List.mem_map.mpr ⟨(key, value), entryMember, rfl⟩))

theorem mem_keys_iff (table : Table κ α) (key : κ) :
    key ∈ table.keys ↔ (table.get? key).isSome = true := by
  rw [Option.isSome_iff_ne_none, ne_eq, get?_eq_none_iff, not_not]

/-! ## Assignments that change nothing -/

theorem setEntry_eq_self_iff
    (key : κ)
    (value : α)
    (entries : List (κ × α)) :
    setEntry key value entries = entries ↔
      entries.lookup key = some value := by
  induction entries with
  | nil => simp [setEntry]
  | cons entry rest inductionHypothesis =>
      by_cases same : entry.1 = key
      · subst same
        simp only [setEntry, if_true, lookup_cons_eq, List.cons.injEq,
          and_true, Option.some.injEq]
        constructor
        · intro equal
          rw [← equal]
        · intro equal
          rw [← equal]
      · simp [setEntry, lookup_cons_eq, same, inductionHypothesis]

/-- Assigning a key leaves the dictionary as it is exactly when the key
already had that value. -/
theorem set_eq_self_iff (table : Table κ α) (key : κ) (value : α) :
    table.set key value = table ↔ table.get? key = some value := by
  obtain ⟨entries, nodup⟩ := table
  simpa [set, get?] using setEntry_eq_self_iff key value entries

/-- Deleting a key leaves the dictionary as it is exactly when the key was
absent. -/
theorem erase_eq_self_iff (table : Table κ α) (key : κ) :
    table.erase key = table ↔ table.get? key = none := by
  rw [get?_eq_none_iff]
  obtain ⟨entries, nodup⟩ := table
  simp only [erase, keys, mk.injEq, List.filter_eq_self, decide_eq_true_eq,
    List.mem_map, not_exists, not_and]

/-! ## Entries up to their order -/

omit [DecidableEq κ] in
theorem nodup_entries (table : Table κ α) : table.entries.Nodup :=
  List.Nodup.of_map _ table.nodup

/-- The entries of one key and of all others. -/
theorem perm_of_get?
    {table : Table κ α}
    {key : κ}
    {value : α}
    (found : table.get? key = some value) :
    table.entries.Perm ((key, value) :: (table.erase key).entries) := by
  have apart : (key, value) ∉ (table.erase key).entries := by
    simp [mem_entries_iff]
  apply (List.perm_ext_iff_of_nodup table.nodup_entries
    (List.nodup_cons.mpr ⟨apart, nodup_entries _⟩)).mpr
  rintro ⟨other, stored⟩
  rw [mem_entries_iff, List.mem_cons, mem_entries_iff, get?_erase]
  by_cases same : key = other
  · subst same
    simp [found, eq_comm]
  · simp [same, Ne.symm same]

theorem filter_setEntry
    (key : κ)
    (value : α)
    (entries : List (κ × α)) :
    (setEntry key value entries).filter (fun entry => entry.1 ≠ key) =
      entries.filter fun entry => entry.1 ≠ key := by
  induction entries with
  | nil => simp [setEntry]
  | cons entry rest inductionHypothesis =>
      unfold setEntry
      by_cases same : entry.1 = key
      · simp [same]
      · rw [if_neg same, List.filter_cons_of_pos (by simpa using same),
          List.filter_cons_of_pos (by simpa using same), inductionHypothesis]

theorem perm_set (table : Table κ α) (key : κ) (value : α) :
    (table.set key value).entries.Perm
      ((key, value) :: (table.erase key).entries) := by
  have found := perm_of_get? (table.get?_set_self key value)
  have same : (table.set key value).erase key = table.erase key := by
    rw [erase, erase, mk.injEq]
    exact filter_setEntry key value table.entries
  rwa [same] at found

/-- A key that is absent adds its entry. -/
theorem perm_set_of_none
    {table : Table κ α}
    {key : κ}
    (value : α)
    (absent : table.get? key = none) :
    (table.set key value).entries.Perm ((key, value) :: table.entries) := by
  have added := table.perm_set key value
  rwa [(table.erase_eq_self_iff key).mpr absent] at added

/-! ## Changes one after the other -/

omit [DecidableEq κ] in
@[simp] theorem mapWithKey_mapWithKey
    {γ : Type}
    (table : Table κ α)
    (f : κ → α → β)
    (g : κ → β → γ) :
    (table.mapWithKey f).mapWithKey g =
      table.mapWithKey fun key value => g key (f key value) := by
  simp [mapWithKey, Function.comp_def]

theorem erase_mapWithKey
    (table : Table κ α)
    (f : κ → α → β)
    (key : κ) :
    (table.mapWithKey f).erase key = (table.erase key).mapWithKey f := by
  simp [mapWithKey, erase, List.filter_map, Function.comp_def]

theorem erase_comm (table : Table κ α) (key other : κ) :
    (table.erase key).erase other = (table.erase other).erase key := by
  simp [erase, List.filter_filter, Bool.and_comm]

theorem setEntry_eq_map
    {key : κ}
    {f : α → α}
    {old : α}
    {entries : List (κ × α)}
    (nodup : (entries.map Prod.fst).Nodup)
    (found : entries.lookup key = some old) :
    setEntry key (f old) entries =
      entries.map fun entry =>
        (entry.1, if entry.1 = key then f entry.2 else entry.2) := by
  induction entries with
  | nil => cases found
  | cons entry rest inductionHypothesis =>
      rw [List.map_cons, List.nodup_cons] at nodup
      rw [lookup_cons_eq] at found
      rw [setEntry, List.map_cons]
      split at found
      · next same =>
          cases found
          have others : rest.map (fun later =>
              (later.1, if later.1 = key then f later.2 else later.2)) =
                rest := by
            rw [List.map_congr_left (g := id), List.map_id]
            intro later member
            have different : later.1 ≠ key := by
              rintro rfl
              apply nodup.1
              rw [same]
              exact List.mem_map_of_mem member
            rw [if_neg different]
            rfl
          rw [if_pos same, others, if_pos same, same]
      · next different =>
          rw [if_neg different, if_neg different,
            inductionHypothesis nodup.2 found]

/-- Assigning a present key modifies its value. -/
theorem set_eq_modify
    {table : Table κ α}
    {key : κ}
    {f : α → α}
    {old : α}
    (found : table.get? key = some old) :
    table.set key (f old) = table.modify key f := by
  obtain ⟨entries, nodup⟩ := table
  simp only [set, modify, mapWithKey, mk.injEq]
  exact setEntry_eq_map nodup found

/-- Modifying the value of an absent key changes nothing. -/
theorem modify_of_fixed
    {table : Table κ α}
    {key : κ}
    {f : α → α}
    (fixed : ∀ value, table.get? key = some value → f value = value) :
    table.modify key f = table := by
  have same : table.entries.map (fun entry =>
      (entry.1, if entry.1 = key then f entry.2 else entry.2)) =
        table.entries := by
    rw [List.map_congr_left (g := id), List.map_id]
    rintro ⟨other, value⟩ member
    have found := (table.mem_entries_iff other value).mp member
    by_cases this : other = key
    · subst this
      simp [fixed value found]
    · simp [this]
  obtain ⟨entries, nodup⟩ := table
  simp only [modify, mapWithKey, mk.injEq]
  exact same

/-! ## Sums over the values -/

/-- The sum of a measure over all values. -/
def total (measure : α → Nat) (table : Table κ α) : Nat :=
  (table.entries.map fun entry => measure entry.2).sum

theorem sum_setEntry
    {measure : α → Nat}
    {key : κ}
    {old : α}
    (new : α)
    {entries : List (κ × α)}
    (found : entries.lookup key = some old) :
    ((setEntry key new entries).map fun entry => measure entry.2).sum +
        measure old =
      (entries.map fun entry => measure entry.2).sum + measure new := by
  induction entries with
  | nil => cases found
  | cons entry rest inductionHypothesis =>
      rw [lookup_cons_eq] at found
      unfold setEntry
      split at found
      · rename_i same
        cases found
        rw [if_pos same]
        simp only [List.map_cons, List.sum_cons]
        omega
      · rename_i different
        have later := inductionHypothesis found
        rw [if_neg different]
        simp only [List.map_cons, List.sum_cons]
        omega

/-- Assigning a present key changes the sum by the measure of its value. -/
theorem total_set
    {measure : α → Nat}
    {table : Table κ α}
    {key : κ}
    {old : α}
    (new : α)
    (found : table.get? key = some old) :
    (table.set key new).total measure + measure old =
      table.total measure + measure new :=
  sum_setEntry new found

theorem keys_setEntry
    {key : κ}
    {old : α}
    (new : α)
    {entries : List (κ × α)}
    (found : entries.lookup key = some old) :
    (setEntry key new entries).map Prod.fst = entries.map Prod.fst := by
  induction entries with
  | nil => cases found
  | cons entry rest inductionHypothesis =>
      rw [lookup_cons_eq] at found
      unfold setEntry
      split at found
      · rename_i same
        rw [if_pos same]
        simp [same]
      · rename_i different
        rw [if_neg different, List.map_cons, List.map_cons,
          inductionHypothesis found]

/-- Assigning a present key keeps the keys. -/
theorem keys_set
    {table : Table κ α}
    {key : κ}
    {old : α}
    (new : α)
    (found : table.get? key = some old) :
    (table.set key new).keys = table.keys :=
  keys_setEntry new found

end Table

end LociTerm
