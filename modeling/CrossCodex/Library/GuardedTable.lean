/-
Changes to a keyed table that a guard admits row by row. A row that is not seen is passed
over; a change the guard refuses fails.
-/

import CrossCodex.Library.Run
import CrossCodex.Library.Upsert

namespace CrossCodex.Library

open List

structure Guard (Key Row : Type*) where
  visible : Key → Row → Bool
  admits : Key → Row → Bool
  updatable : Key → Row → Bool
  deletable : Key → Row → Bool

inductive Change (Key Row : Type*) where
  | insert (key : Key) (row : Row)
  | update (key newKey : Key) (row : Row)
  | delete (key : Key)
deriving DecidableEq

variable {Key Row : Type*} [DecidableEq Key]

def Guard.change (guard : Guard Key Row) (table : Table Key Row) :
    Change Key Row → Option (Table Key Row)
  | .insert key row =>
    if key ∉ table ∧ guard.admits key row then some (table.insert key row) else none
  | .update key newKey row =>
    match table.lookup key with
    | none => some table
    | some old =>
      if guard.visible key old then
        if guard.updatable key old ∧ guard.admits newKey row ∧
            (newKey = key ∨ newKey ∉ table) then
          some ((table.erase key).insert newKey row)
        else none
      else some table
  | .delete key =>
    match table.lookup key with
    | none => some table
    | some old =>
      if guard.visible key old then
        if guard.deletable key old then some (table.erase key) else none
      else some table

/-- The row a change is about, if it is about one that is there. -/
def Change.source : Change Key Row → Option Key
  | .insert _ _ => none
  | .update key _ _ => some key
  | .delete key => some key

/-- The change brings a row to the key that was not there before. -/
def Change.Lands (key : Key) : Change Key Row → Prop
  | .insert written _ => written = key
  | .update source written _ => written = key ∧ source ≠ key
  | .delete _ => False

variable {guard : Guard Key Row} {table next : Table Key Row} {key : Key}
  {changes : List (Change Key Row)}

theorem lookup_erase_eq (table : Table Key Row) (key other : Key) :
    (table.erase key).lookup other = if key = other then none else table.lookup other := by
  by_cases same : key = other
  · subst other
    rw [AList.lookup_erase, if_pos rfl]
  · rw [AList.lookup_erase_ne (Ne.symm same), if_neg same]

/-- What one change does to a key: nothing, or it deletes a visible row the guard lets go, or
it rewrites or moves away a visible row the guard lets change, or it lands on a free key. -/
theorem Guard.change_cases {change : Change Key Row}
    (changed : guard.change table change = some next) (key : Key) :
    next.lookup key = table.lookup key ∨
      (change = .delete key ∧ next.lookup key = none ∧
        ∃ old, table.lookup key = some old ∧ guard.visible key old = true ∧
          guard.deletable key old = true) ∨
      (∃ written row, change = .update key written row ∧
        ∃ old, table.lookup key = some old ∧ guard.visible key old = true ∧
          guard.updatable key old = true) ∨
      (table.lookup key = none ∧ change.Lands key) := by
  cases change with
  | insert written row =>
    simp only [Guard.change] at changed
    split at changed
    · next admitted =>
      cases changed
      by_cases same : written = key
      · subst written
        have absent := AList.lookup_eq_none.mpr admitted.1
        exact Or.inr (Or.inr (Or.inr ⟨absent, rfl⟩))
      · left
        rw [lookup_insert_eq, if_neg same]
    · cases changed
  | update source written row =>
    simp only [Guard.change] at changed
    split at changed
    · cases changed
      exact Or.inl rfl
    · next old held =>
      split at changed
      · next seen =>
        split at changed
        · next allowed =>
          cases changed
          by_cases own : source = key
          · subst source
            exact Or.inr (Or.inr (Or.inl ⟨written, row, rfl, old, held, seen, allowed.1⟩))
          · by_cases same : written = key
            · subst written
              -- the new key is another row's, so it has to be free
              have free := allowed.2.2.resolve_left fun equal => own equal.symm
              exact Or.inr (Or.inr (Or.inr ⟨AList.lookup_eq_none.mpr free, rfl, own⟩))
            · left
              rw [lookup_insert_eq, if_neg same, lookup_erase_eq, if_neg own]
        · cases changed
      · cases changed
        exact Or.inl rfl
  | delete source =>
    simp only [Guard.change] at changed
    split at changed
    · cases changed
      exact Or.inl rfl
    · next old held =>
      split at changed
      · next seen =>
        split at changed
        · next allowed =>
          cases changed
          by_cases same : source = key
          · subst source
            right; left
            exact ⟨rfl, AList.lookup_erase _ _, old, held, seen, allowed⟩
          · left
            rw [lookup_erase_eq, if_neg same]
        · cases changed
      · cases changed
        exact Or.inl rfl

/-- The guard does not let go of the row, if it shows it at all. -/
def Guard.Locks (guard : Guard Key Row) (key : Key) (row : Row) : Prop :=
  guard.visible key row = true → guard.updatable key row = false ∧ guard.deletable key row = false

theorem Guard.run_locked {row : Row} (locks : guard.Locks key row)
    (held : table.lookup key = some row) (ran : run guard.change table changes = some next) :
    next.lookup key = some row := by
  have kept : ∀ (state : Table Key Row) (change : Change Key Row) (after : Table Key Row),
      state.lookup key = some row → guard.change state change = some after →
        after.lookup key = some row := by
    intro state change after here changed
    rcases guard.change_cases changed key with same | ⟨_, _, old, found, seen, deletable⟩ |
      ⟨_, _, _, old, found, seen, updatable⟩ | ⟨absent, _⟩
    · exact same.trans here
    · cases found.symm.trans here
      rw [(locks seen).2] at deletable
      cases deletable
    · cases found.symm.trans here
      rw [(locks seen).1] at updatable
      cases updatable
    · cases absent.symm.trans here
  exact run_invariant kept held ran

/-- Where no change lands on a key and none that updates its row is let through, the key
keeps its row or the row is deleted by one of the changes. -/
theorem Guard.run_unlanded (fixed : ∀ written new, Change.update key written new ∈ changes →
      ∀ row, table.lookup key = some row → guard.visible key row = true →
        guard.updatable key row = false) (unlanded : ∀ change ∈ changes, ¬change.Lands key)
    (ran : run guard.change table changes = some next) :
    next.lookup key = table.lookup key ∨
      (next.lookup key = none ∧ Change.delete key ∈ changes ∧
        ∃ row, table.lookup key = some row ∧ guard.visible key row = true ∧
          guard.deletable key row = true) := by
  induction changes generalizing table with
  | nil =>
    cases ran
    exact Or.inl rfl
  | cons change rest ih =>
    obtain ⟨middle, changed, remaining⟩ := run_cons_eq_some.mp ran
    rw [forall_mem_cons] at unlanded
    have later : ∀ written new, Change.update key written new ∈ rest →
        ∀ row, table.lookup key = some row → guard.visible key row = true →
          guard.updatable key row = false :=
      fun written new mem => fixed written new (mem_cons_of_mem _ mem)
    rcases guard.change_cases changed key with same | ⟨isDelete, gone, removed⟩ |
      ⟨written, new, isUpdate, old, held, seen, updatable⟩ | ⟨_, lands⟩
    · rw [← same] at later ⊢
      rcases ih later unlanded.2 remaining with kept | ⟨absent, deleted, found⟩
      · exact Or.inl kept
      · exact Or.inr ⟨absent, mem_cons_of_mem _ deleted, found⟩
    · right
      have nothing : ∀ written new, Change.update key written new ∈ rest →
          ∀ row, middle.lookup key = some row → guard.visible key row = true →
            guard.updatable key row = false := by
        intro _ _ _ row held
        rw [gone] at held
        cases held
      have absent : next.lookup key = none := by
        rcases ih nothing unlanded.2 remaining with kept | ⟨absent, _⟩
        · exact kept.trans gone
        · exact absent
      exact ⟨absent, isDelete ▸ mem_cons_self, removed⟩
    · rw [fixed written new (isUpdate ▸ mem_cons_self) old held seen] at updatable
      cases updatable
    · exact absurd lands unlanded.1

end CrossCodex.Library
