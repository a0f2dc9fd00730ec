/-
Finite runs of partial transition functions. Labels carry every choice of the environment,
so a list of labels is one interleaving.
-/

import Mathlib.Data.List.Basic

namespace CrossCodex.Library

variable {State : Type*} {Event : Type*}

def run (step : State → Event → Option State) : State → List Event → Option State
  | state, [] => some state
  | state, event :: rest =>
    match step state event with
    | none => none
    | some next => run step next rest

/-- The condition holds of every event the run takes, in the state before it. -/
def Along (step : State → Event → Option State) (condition : State → Event → Prop) :
    State → List Event → Prop
  | _, [] => True
  | state, event :: rest =>
    condition state event ∧
      match step state event with
      | none => True
      | some next => Along step condition next rest

instance Along.decidable (step : State → Event → Option State) (condition : State → Event → Prop)
    [∀ state event, Decidable (condition state event)] :
    ∀ state events, Decidable (Along step condition state events)
  | _, [] => isTrue trivial
  | state, event :: rest =>
    match branch : step state event with
    | none =>
      decidable_of_iff (condition state event) (by simp [Along, branch])
    | some next =>
      haveI := Along.decidable step condition next rest
      decidable_of_iff (condition state event ∧ Along step condition next rest)
        (by simp [Along, branch])

section Rules

variable {step : State → Event → Option State} {condition : State → Event → Prop}

@[simp] theorem run_nil (state : State) : run step state [] = some state := rfl

theorem run_cons_eq_some {state final : State} {event : Event} {rest : List Event} :
    run step state (event :: rest) = some final ↔
      ∃ next, step state event = some next ∧ run step next rest = some final := by
  cases taken : step state event <;> simp [run, taken]

theorem along_cons {state : State} {event : Event} {rest : List Event} :
    Along step condition state (event :: rest) ↔
      condition state event ∧
        ∀ next, step state event = some next → Along step condition next rest := by
  cases taken : step state event <;> simp [Along, taken]

theorem run_invariant_along {invariant : State → Prop}
    (kept : ∀ state event next, invariant state → condition state event →
      step state event = some next → invariant next)
    {state final : State} {events : List Event}
    (start : invariant state) (meets : Along step condition state events)
    (ran : run step state events = some final) : invariant final := by
  induction events generalizing state with
  | nil =>
    rw [run_nil, Option.some.injEq] at ran
    exact ran ▸ start
  | cons event rest ih =>
    obtain ⟨next, taken, remaining⟩ := run_cons_eq_some.mp ran
    obtain ⟨here, later⟩ := along_cons.mp meets
    exact ih (kept state event next start here taken) (later next taken) remaining

theorem run_invariant_mem {invariant : State → Prop} {events : List Event}
    (kept : ∀ event ∈ events, ∀ state next, invariant state →
      step state event = some next → invariant next)
    {state final : State} (start : invariant state) (ran : run step state events = some final) :
    invariant final := by
  induction events generalizing state with
  | nil =>
    rw [run_nil, Option.some.injEq] at ran
    exact ran ▸ start
  | cons event rest ih =>
    obtain ⟨next, taken, remaining⟩ := run_cons_eq_some.mp ran
    rw [List.forall_mem_cons] at kept
    exact ih kept.2 (kept.1 state next start taken) remaining

theorem run_invariant {invariant : State → Prop} (kept : ∀ state event next, invariant state →
      step state event = some next → invariant next)
    {state final : State} {events : List Event}
    (start : invariant state) (ran : run step state events = some final) :
    invariant final :=
  run_invariant_mem (fun event _ state next => kept state event next) start ran

/-- A value that every step keeps or removes, the latter only at certain events, is at the
end of a run what it was or has been removed at such an event. -/
theorem run_kept_or_removed {Value : Type*} (invariant : State → Prop)
    (view : State → Option Value) (removes : Event → Prop) {events : List Event}
    (each : ∀ event ∈ events, ∀ state next, invariant state → step state event = some next →
      invariant next ∧ (view next = view state ∨ (view next = none ∧ removes event)))
    {state final : State} (start : invariant state) (ran : run step state events = some final) :
    view final = view state ∨ (view final = none ∧ ∃ event ∈ events, removes event) := by
  induction events generalizing state with
  | nil =>
    rw [run_nil, Option.some.injEq] at ran
    exact Or.inl (ran ▸ rfl)
  | cons event rest ih =>
    obtain ⟨next, taken, remaining⟩ := run_cons_eq_some.mp ran
    rw [List.forall_mem_cons] at each
    obtain ⟨kept, here⟩ := each.1 state next start taken
    rcases ih each.2 kept remaining with same | ⟨absent, later, mem, removed⟩
    · rcases here with unchanged | ⟨absent, removed⟩
      · exact Or.inl (same.trans unchanged)
      · exact Or.inr ⟨same.trans absent, event, List.mem_cons_self, removed⟩
    · exact Or.inr ⟨absent, later, List.mem_cons_of_mem _ mem, removed⟩

end Rules

end CrossCodex.Library
