/-
Tables with a primary key. An upsert replaces the row of a key that is taken; an insertion
that ignores conflicts leaves it.
-/

import Mathlib.Data.List.AList

namespace CrossCodex.Library

open List

variable {Key Row : Type*} [DecidableEq Key]

abbrev Table (Key Row : Type*) := AList fun _ : Key => Row

variable (table : Table Key Row)

/-- `ON CONFLICT DO UPDATE`, for each row of the batch. -/
def upsertAll (batch : List (Key × Row)) : Table Key Row :=
  batch.foldl (fun table entry => table.insert entry.1 entry.2) table

/-- `ON CONFLICT DO NOTHING`, for each row of the batch. -/
def insertNew (batch : List (Key × Row)) : Table Key Row :=
  batch.foldl
    (fun table entry => if entry.1 ∈ table then table else table.insert entry.1 entry.2) table

def firstRow (batch : List (Key × Row)) (key : Key) : Option Row :=
  (batch.find? fun entry => entry.1 = key).map Prod.snd

def lastRow (batch : List (Key × Row)) (key : Key) : Option Row :=
  firstRow batch.reverse key

theorem firstRow_cons (entry : Key × Row) (rest : List (Key × Row)) (key : Key) :
    firstRow (entry :: rest) key =
      if entry.1 = key then some entry.2 else firstRow rest key := by
  by_cases same : entry.1 = key <;> simp [firstRow, same]

variable {batch : List (Key × Row)} {key : Key}

theorem firstRow_eq_none : firstRow batch key = none ↔ key ∉ batch.map Prod.fst := by
  induction batch with
  | nil => simp [firstRow]
  | cons entry rest ih =>
    rw [firstRow_cons, map_cons, mem_cons, not_or]
    by_cases same : entry.1 = key
    · simp [same]
    · simp [same, Ne.symm same, ih]

theorem mem_of_firstRow {row : Row} (found : firstRow batch key = some row) :
    (key, row) ∈ batch := by
  obtain ⟨entry, first, rfl⟩ := Option.map_eq_some_iff.mp found
  have matched := find?_some first
  have same : entry.1 = key := of_decide_eq_true matched
  exact same ▸ mem_of_find?_eq_some first

theorem firstRow_of_mem (nodup : (batch.map Prod.fst).Nodup) {row : Row}
    (mem : (key, row) ∈ batch) : firstRow batch key = some row := by
  induction batch with
  | nil => cases mem
  | cons entry rest ih =>
    rw [map_cons, nodup_cons] at nodup
    rw [firstRow_cons]
    rcases mem_cons.mp mem with rfl | later
    · exact if_pos rfl
    · have other : entry.1 ≠ key :=
        fun same => nodup.1 (same ▸ mem_map_of_mem later)
      rw [if_neg other]
      exact ih nodup.2 later

theorem lastRow_cons (entry : Key × Row) (rest : List (Key × Row)) (key : Key) :
    lastRow (entry :: rest) key =
      (lastRow rest key).or (if entry.1 = key then some entry.2 else none) := by
  have split : lastRow (entry :: rest) key =
      (lastRow rest key).or (firstRow [entry] key) := by
    simp only [lastRow, firstRow, reverse_cons, find?_append]
    cases List.find? (fun entry => decide (entry.1 = key)) rest.reverse <;> simp
  rw [split, firstRow_cons]
  rfl

theorem lastRow_eq_none : lastRow batch key = none ↔ key ∉ batch.map Prod.fst := by
  simp [lastRow, firstRow_eq_none]

theorem mem_of_lastRow {row : Row} (found : lastRow batch key = some row) : (key, row) ∈ batch :=
  mem_reverse.mp (mem_of_firstRow found)

theorem lastRow_eq_firstRow (nodup : (batch.map Prod.fst).Nodup) (key : Key) :
    lastRow batch key = firstRow batch key := by
  induction batch with
  | nil => rfl
  | cons entry rest ih =>
    rw [map_cons, nodup_cons] at nodup
    rw [lastRow_cons, firstRow_cons, ih nodup.2]
    by_cases same : entry.1 = key
    · subst key
      rw [firstRow_eq_none.mpr nodup.1]
      simp
    · simp [same]

theorem find?_key_iff {Item : Type*} (key : Item → Key) {items : List Item}
    (nodup : (items.map key).Nodup) {wanted : Key} {item : Item} :
    items.find? (fun item => key item = wanted) = some item ↔ item ∈ items ∧ key item = wanted := by
  constructor
  · intro found
    have matched := find?_some found
    exact ⟨mem_of_find?_eq_some found, of_decide_eq_true matched⟩
  · intro held
    obtain ⟨mem, rfl⟩ := held
    cases search : items.find? fun other => key other = key item with
    | none => exact absurd (decide_eq_true rfl) (find?_eq_none.mp search item mem)
    | some found =>
      have matched := find?_some search
      have same : key found = key item := of_decide_eq_true matched
      rw [inj_on_of_nodup_map nodup (mem_of_find?_eq_some search) mem same]

theorem firstRow_map {Item Name : Type*} [DecidableEq Name] (items : List Item)
    (name : Item → Name) {key : Name → Key} (injective : Function.Injective key)
    (row : Item → Row) (wanted : Name) :
    firstRow (items.map fun item => (key (name item), row item)) (key wanted) =
      (items.find? fun item => name item = wanted).map row := by
  induction items with
  | nil => rfl
  | cons item rest ih =>
    rw [map_cons, firstRow_cons, ih, find?_cons]
    by_cases same : name item = wanted
    · simp [same]
    · simp [same, injective.ne same]

theorem lookup_insert_eq (key other : Key) (row : Row) :
    (table.insert key row).lookup other = if key = other then some row else table.lookup other := by
  by_cases same : key = other
  · subst other
    rw [AList.lookup_insert, if_pos rfl]
  · rw [AList.lookup_insert_ne (Ne.symm same), if_neg same]

theorem dlookup_filter (keep : Key → Row → Bool) (key : Key) :
    List.dlookup key (table.entries.filter fun entry => keep entry.1 entry.2) =
      (table.lookup key).filter (keep key) := by
  have nodup : (table.entries.filter fun entry => keep entry.1 entry.2).NodupKeys :=
    List.NodupKeys.sublist filter_sublist table.nodupKeys
  ext row
  rw [← Option.mem_def, mem_dlookup_iff nodup, mem_filter,
    ← AList.mem_lookup_iff, Option.filter_eq_some_iff, Option.mem_def]

theorem dlookup_filter_keys (keep : Key → Bool) (kept : keep key = true) :
    List.dlookup key (table.entries.filter fun entry => keep entry.1) = table.lookup key := by
  rw [dlookup_filter table (fun name _ => keep name) key]
  cases table.lookup key with
  | none => rfl
  | some row => exact Option.filter_eq_some_iff.mpr ⟨rfl, kept⟩

def mapEntry (change : Row → Row) (entry : Sigma fun _ : Key => Row) : Sigma fun _ : Key => Row :=
  ⟨entry.1, change entry.2⟩

theorem dlookup_mapEntry (entries : List (Sigma fun _ : Key => Row)) (change : Row → Row)
    (key : Key) :
    List.dlookup key (entries.map (mapEntry change)) =
      (List.dlookup key entries).map change := by
  induction entries with
  | nil => rfl
  | cons entry rest ih =>
    obtain ⟨name, row⟩ := entry
    by_cases same : key = name
    · subst same
      simp [mapEntry, dlookup_cons_eq]
    · rw [map_cons, dlookup_cons_ne _ _ same, ih, dlookup_cons_ne _ _ same]

/-- One `UPDATE` of the whole table that leaves the keys as they are. -/
def mapRows (change : Row → Row) (table : Table Key Row) : Table Key Row where
  entries := table.entries.map (mapEntry change)
  nodupKeys := by
    rw [List.NodupKeys, List.keys, map_map]
    exact table.nodupKeys

theorem lookup_mapRows (change : Row → Row) (table : Table Key Row) (key : Key) :
    (mapRows change table).lookup key = (table.lookup key).map change :=
  dlookup_mapEntry table.entries change key

/-- A table with the same keys and rows computed from the entries. -/
def mapEntries {Other : Type*} (change : Key → Row → Other) (table : Table Key Row) :
    Table Key Other where
  entries := table.entries.map fun entry => ⟨entry.1, change entry.1 entry.2⟩
  nodupKeys := by
    rw [List.NodupKeys, List.keys, map_map]
    exact table.nodupKeys

omit [DecidableEq Key] in
theorem keys_mapEntries {Other : Type*} (change : Key → Row → Other) (table : Table Key Row) :
    (mapEntries change table).keys = table.keys := by
  change (table.entries.map _).map Sigma.fst = table.entries.map Sigma.fst
  rw [map_map]
  rfl

theorem lookup_mapEntries {Other : Type*} (change : Key → Row → Other) (table : Table Key Row)
    (key : Key) : (mapEntries change table).lookup key = (table.lookup key).map (change key) := by
  change List.dlookup key (table.entries.map _) = (List.dlookup key table.entries).map _
  induction table.entries with
  | nil => rfl
  | cons entry rest ih =>
    obtain ⟨name, row⟩ := entry
    rw [map_cons]
    by_cases same : key = name
    · subst same
      rw [dlookup_cons_eq, dlookup_cons_eq, Option.map_some]
    · rw [dlookup_cons_ne _ _ same, dlookup_cons_ne _ _ same, ih]

def restrict (keep : Key → Bool) (table : Table Key Row) : Table Key Row where
  entries := table.entries.filter fun entry => keep entry.1
  nodupKeys := List.NodupKeys.sublist filter_sublist table.nodupKeys

omit [DecidableEq Key] in
theorem keys_restrict (keep : Key → Bool) (table : Table Key Row) :
    (restrict keep table).keys = table.keys.filter keep :=
  (filter_map).symm

omit [DecidableEq Key] in
theorem mem_restrict {keep : Key → Bool} {table : Table Key Row} :
    key ∈ restrict keep table ↔ key ∈ table ∧ keep key = true := by
  rw [AList.mem_keys, keys_restrict, mem_filter, AList.mem_keys]

theorem lookup_restrict {keep : Key → Bool} (table : Table Key Row) (kept : keep key = true) :
    (restrict keep table).lookup key = table.lookup key :=
  dlookup_filter_keys table keep kept

theorem lookup_upsertAll (batch : List (Key × Row)) (key : Key) :
    (upsertAll table batch).lookup key = (lastRow batch key).or (table.lookup key) := by
  induction batch generalizing table with
  | nil => rfl
  | cons entry rest ih =>
    change (upsertAll (table.insert entry.1 entry.2) rest).lookup key = _
    rw [ih, lastRow_cons, lookup_insert_eq]
    by_cases same : entry.1 = key <;> simp [same]

theorem mem_upsertAll {table : Table Key Row} :
    key ∈ upsertAll table batch ↔ key ∈ batch.map Prod.fst ∨ key ∈ table := by
  rw [← AList.lookup_isSome, lookup_upsertAll, Option.isSome_or, Bool.or_eq_true,
    AList.lookup_isSome, Option.isSome_iff_ne_none, Ne, lastRow_eq_none, not_not]

theorem length_upsertAll_le (batch : List (Key × Row)) :
    (upsertAll table batch).entries.length ≤ table.entries.length + batch.length := by
  induction batch generalizing table with
  | nil => exact Nat.le_refl _
  | cons entry rest ih =>
    have inserted : (table.insert entry.1 entry.2).entries.length ≤
        table.entries.length + 1 := by
      rw [AList.entries_insert, length_cons]
      exact Nat.succ_le_succ (kerase_sublist _ _).length_le
    have later := ih (table.insert entry.1 entry.2)
    change (upsertAll (table.insert entry.1 entry.2) rest).entries.length ≤ _
    rw [length_cons]
    omega

theorem lookup_insertNew (batch : List (Key × Row)) (key : Key) :
    (insertNew table batch).lookup key = (table.lookup key).or (firstRow batch key) := by
  induction batch generalizing table with
  | nil => simp [insertNew, firstRow]
  | cons entry rest ih =>
    change (insertNew (if entry.1 ∈ table then table
      else table.insert entry.1 entry.2) rest).lookup key = _
    rw [ih, firstRow_cons]
    by_cases taken : entry.1 ∈ table
    · rw [if_pos taken]
      by_cases same : entry.1 = key
      · subst same
        obtain ⟨row, present⟩ := Option.isSome_iff_exists.mp (AList.lookup_isSome.mpr taken)
        simp [present]
      · rw [if_neg same]
    · rw [if_neg taken, lookup_insert_eq]
      by_cases same : entry.1 = key
      · subst same
        rw [AList.lookup_eq_none.mpr taken]
        simp
      · simp [same]

/-- What each item of a history adds to the state and nothing takes away holds at its end
exactly when it held before or some item added it. -/
theorem foldl_iff_exists {State Item : Type*} {apply : State → Item → State}
    (holds : State → Prop) (adds : Item → Prop)
    (each : ∀ state item, holds (apply state item) ↔ adds item ∨ holds state)
    (history : List Item) (state : State) :
    holds (history.foldl apply state) ↔ (∃ item ∈ history, adds item) ∨ holds state := by
  induction history generalizing state with
  | nil => simp
  | cons item rest ih =>
    rw [foldl_cons, ih, each]
    simp only [mem_cons, exists_eq_or_imp, or_assoc]
    rw [or_left_comm]

end CrossCodex.Library
