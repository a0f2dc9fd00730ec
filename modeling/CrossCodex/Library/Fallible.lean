/-
Fallible computations and the loop that gathers the outputs of one producer over
a list of items. The first failing item ends the loop with its error. Gathered
outputs are distinct exactly when no two items share one.
-/

import Mathlib.Data.List.Nodup
import Mathlib.Data.List.Lattice

namespace CrossCodex.Library

open List

universe u

variable {Item Output View Error : Type*} {Result Value : Type u}

theorem ok_bind (value : Value) (continuation : Value → Except Error Result) :
    (Except.ok value >>= continuation) = continuation value := rfl

theorem error_bind (cause : Error) (continuation : Value → Except Error Result) :
    (Except.error cause >>= continuation) = .error cause := rfl

theorem bind_eq_ok {source : Except Error Value} {continuation : Value → Except Error Result}
    {result : Result} :
    (source >>= continuation) = .ok result ↔
      ∃ value, source = .ok value ∧ continuation value = .ok result := by
  cases source with
  | error cause => simp [bind, Except.bind]
  | ok value => simp [bind, Except.bind]

def gatherEach (produce : Item → Except Error (List Output)) :
    List Item → Except Error (List Output)
  | [] => .ok []
  | item :: rest =>
    match produce item with
    | .error cause => .error cause
    | .ok outputs =>
      match gatherEach produce rest with
      | .error cause => .error cause
      | .ok later => .ok (outputs ++ later)

variable {produce : Item → Except Error (List Output)} {all : List Output}

theorem gatherEach_cons_ok {item : Item} {rest : List Item} :
    gatherEach produce (item :: rest) = .ok all ↔
      ∃ outputs later, produce item = .ok outputs ∧
        gatherEach produce rest = .ok later ∧ all = outputs ++ later := by
  cases produced : produce item with
  | error cause => simp [gatherEach, produced]
  | ok outputs =>
    cases gathered : gatherEach produce rest with
    | error cause => simp [gatherEach, produced, gathered]
    | ok later => simp [gatherEach, produced, gathered, eq_comm]

variable {items : List Item}

theorem gatherEach_view {view : Output → View} {expected : Item → List View}
    (each : ∀ item outputs, produce item = .ok outputs → outputs.map view = expected item)
    (gathered : gatherEach produce items = .ok all) : all.map view = items.flatMap expected := by
  induction items generalizing all with
  | nil =>
    cases gathered
    rfl
  | cons item rest ih =>
    obtain ⟨outputs, later, produced, remaining, rfl⟩ := gatherEach_cons_ok.mp gathered
    rw [map_append, flatMap_cons, each item outputs produced, ih remaining]

theorem mem_gatherEach {output : Output} (gathered : gatherEach produce items = .ok all) :
    output ∈ all ↔ ∃ item ∈ items, ∃ outputs, produce item = .ok outputs ∧ output ∈ outputs := by
  induction items generalizing all with
  | nil =>
    cases gathered
    simp
  | cons item rest ih =>
    obtain ⟨outputs, later, produced, remaining, rfl⟩ := gatherEach_cons_ok.mp gathered
    simp [ih remaining, produced]

theorem gatherEach_eq_map {output : Item → Output}
    (each : ∀ item ∈ items, produce item = .ok [output item]) :
    gatherEach produce items = .ok (items.map output) := by
  induction items with
  | nil => rfl
  | cons item rest ih =>
    rw [gatherEach_cons_ok]
    exact ⟨_, _, each item mem_cons_self,
      ih fun other inRest => each other (mem_cons_of_mem _ inRest), rfl⟩

theorem gatherEach_eq_error {cause : Error} (failed : gatherEach produce items = .error cause) :
    ∃ item ∈ items, produce item = .error cause := by
  induction items with
  | nil => cases failed
  | cons item rest ih =>
    unfold gatherEach at failed
    split at failed
    · rename_i produced
      cases failed
      exact ⟨item, mem_cons_self, produced⟩
    · split at failed
      · rename_i later
        cases failed
        obtain ⟨other, mem, produced⟩ := ih later
        exact ⟨other, mem_cons_of_mem _ mem, produced⟩
      · cases failed

theorem gatherEach_length_le
    (each : ∀ item outputs, produce item = .ok outputs → outputs.length ≤ 1)
    (gathered : gatherEach produce items = .ok all) : all.length ≤ items.length := by
  induction items generalizing all with
  | nil =>
    cases gathered
    exact Nat.le_refl 0
  | cons item rest ih =>
    obtain ⟨outputs, later, produced, remaining, rfl⟩ := gatherEach_cons_ok.mp gathered
    have here := each item outputs produced
    have there := ih remaining
    rw [length_append, length_cons]
    omega

theorem gatherEach_forall₂ {view : Item → View} {related : View → Output → Prop}
    (each : ∀ item ∈ items, ∃ output, produce item = .ok [output] ∧ related (view item) output) :
    ∃ all, gatherEach produce items = .ok all ∧
      List.Forall₂ related (items.map view) all := by
  induction items with
  | nil => exact ⟨[], rfl, .nil⟩
  | cons item rest ih =>
    obtain ⟨output, produced, here⟩ := each item mem_cons_self
    obtain ⟨later, gathered, there⟩ := ih fun other inRest =>
      each other (mem_cons_of_mem _ inRest)
    exact ⟨output :: later, gatherEach_cons_ok.mpr ⟨[output], later, produced, gathered, rfl⟩,
      .cons here there⟩

theorem flatMap_nodup_iff_pairwise {Key : Type*} {key : Item → Key} {outputs : Item → List Output}
    (separate : Item → Item → Prop) (nodup : (items.map key).Nodup)
    (each : ∀ item ∈ items, (outputs item).Nodup) (apart : ∀ left right, key left ≠ key right →
      ((outputs left).Disjoint (outputs right) ↔ separate left right)) :
    (items.flatMap outputs).Nodup ↔ items.Pairwise separate := by
  have keys : items.Pairwise fun left right => key left ≠ key right :=
    pairwise_map.mp nodup
  rw [nodup_flatMap]
  constructor
  · intro parts
    apply (keys.and parts.2).imp
    intro left right both
    exact (apart left right both.1).mp both.2
  · intro separated
    refine ⟨each, (keys.and separated).imp ?_⟩
    intro left right both
    exact (apart left right both.1).mpr both.2

end CrossCodex.Library
