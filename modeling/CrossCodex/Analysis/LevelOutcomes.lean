/-
Engine.Execute (internal/analysis/engine.go) from the plan on. Analyzers of a level run in
goroutines that take the mutex of the result, so every read of Completed and every append is
an event. The records of levels begun and analyzers started are not the engine's.
The dependencies of an analyzer begun have returned before it, so what decides whether it is
skipped no longer changes. A run cancelled between levels appends all remaining analyzers to
Skipped, those of CompletedOutputs among them.
-/

import CrossCodex.Analyzer.DagSubset
import CrossCodex.Library.Run

namespace CrossCodex.Analysis

open Analyzer (DAG declared)

variable {Name Registered : Type} [LinearOrder Name]

/-- Where the goroutine of an analyzer is: before its first read, with dependencies left to
read, executing, or returned. -/
inductive AnalyzerPhase (Name : Type) where
  | idle
  | entered
  | gating (left : List Name)
  | executing
  | finished
deriving DecidableEq

inductive EnginePosition where
  | between
  | inside
  | returned
deriving DecidableEq

structure LevelRun (Name : Type) where
  completed : List Name
  failed : List Name
  skipped : List Name
  phase : Name → AnalyzerPhase Name
  position : EnginePosition
  begun : List (List Name)
  rest : List (List Name)
  cancelled : Bool
  started : List (Name × List Name)
  /-- The analyzers of levels begun after the context was cancelled. -/
  late : List Name

namespace LevelRun

def initial (dag : DAG Name Registered) (seeds : List Name) : LevelRun Name where
  completed := seeds
  failed := []
  skipped := []
  phase _ := .idle
  position := .between
  begun := []
  rest := dag.levels
  cancelled := false
  started := []
  late := []

def setPhase (state : LevelRun Name) (name : Name) (phase : AnalyzerPhase Name) : LevelRun Name :=
  { state with phase := Function.update state.phase name phase }

inductive Event (Name : Type) where
  | cancel
  /-- Begin the next level, or return after the last. -/
  | begin
  | isCompleted (name : Name)
  | gate (name : Name)
  | finish (name : Name) (succeeds : Bool)
  /-- The wait for the level's goroutines, and the look at the context after it. -/
  | join
deriving DecidableEq

def level (state : LevelRun Name) : List Name := state.begun.getLast?.getD []

attribute [local instance] Analyzer.namesLawfulBEq

/-- The read of Completed for one dependency; after the last one the analyzer starts. -/
def gate (state : LevelRun Name) (name : Name) : List Name → LevelRun Name
  | [] =>
    { state.setPhase name .executing with
      started := state.started ++ [(name, state.completed)] }
  | dependency :: left =>
    if dependency ∈ state.completed then state.setPhase name (.gating left)
    else { state.setPhase name .finished with skipped := state.skipped ++ [name] }

def step (dependsOn : Registered → List Name) (dag : DAG Name Registered)
    (state : LevelRun Name) : Event Name → Option (LevelRun Name)
  | .cancel => some { state with cancelled := true }
  | .begin =>
    match state.position, state.rest with
    | .between, [] => some { state with position := .returned }
    | .between, level :: rest =>
      some { state with
        position := .inside
        begun := state.begun ++ [level]
        rest
        phase := fun name => if name ∈ level then .entered else state.phase name
        late := if state.cancelled then state.late ++ level else state.late }
    | _, _ => none
  | .isCompleted name =>
    if state.phase name = .entered then
      if name ∈ state.completed then some (state.setPhase name .finished)
      else
        match dag.nodes.lookup name with
        | none => some { state.setPhase name .finished with failed := state.failed ++ [name] }
        | some analyzer => some (state.setPhase name (.gating (dependsOn analyzer)))
    else none
  | .gate name =>
    match state.phase name with
    | .gating left => some (state.gate name left)
    | _ => none
  | .finish name succeeds =>
    if state.phase name = .executing then
      if succeeds then
        some { state.setPhase name .finished with completed := state.completed ++ [name] }
      else some { state.setPhase name .finished with failed := state.failed ++ [name] }
    else none
  | .join =>
    if state.position = .inside ∧ ∀ name ∈ state.level, state.phase name = .finished then
      if state.cancelled then
        some { state with position := .returned, skipped := state.skipped ++ state.rest.flatten }
      else some { state with position := .between }
    else none

end LevelRun

open List Function

variable {dependsOn : Registered → List Name} {dag : DAG Name Registered} {seeds : List Name}
  {level : List Name} {rest : List (List Name)} {dep : Name}

theorem Planned.dependency_before (planned : dag.Planned dependsOn) {begun : List (List Name)}
    (split : dag.levels = begun ++ level :: rest) {name : Name} (mem : name ∈ level)
    (direct : dep ∈ declared dependsOn dag.nodes name) : dep ∈ begun.flatten := by
  obtain ⟨registered, _⟩ := Analyzer.buildDAG_ok planned
  have plan := planned.levels_plan.1
  have place : dag.levels[begun.length]? = some level := by
    rw [split, getElem?_append_right (Nat.le_refl _), Nat.sub_self]
    rfl
  have high := (plan name begun.length).mp ⟨level, place, mem⟩
  obtain ⟨lower, below, found⟩ := high.2.lower direct
  have known := registered name high.1 dep direct
  obtain ⟨group, earlier, listed⟩ := (plan dep lower).mpr ⟨known, found⟩
  rw [split, getElem?_append_left below] at earlier
  exact mem_flatten.mpr ⟨group, mem_of_getElem? earlier, listed⟩

theorem Planned.nodup_levels (planned : dag.Planned dependsOn) : dag.levels.flatten.Nodup :=
  planned.levels_plan.2.nodup_iff.mpr dag.nodes.keys_nodup

theorem Planned.mem_levels (planned : dag.Planned dependsOn) {name : Name} :
    name ∈ dag.levels.flatten ↔ name ∈ dag.nodes := by
  rw [planned.levels_plan.2.mem_iff, AList.mem_keys]

namespace LevelRun

variable {state next : LevelRun Name} {name other : Name} {event : Event Name} {Entry : Type}
  {entry : Entry}

section

variable (dependsOn dag seeds state name)

/-- Nothing is listed of an analyzer before it returns, except that one of CompletedOutputs is
completed. -/
def Pending : Prop :=
  state.completed.count name = seeds.count name ∧ state.failed.count name = 0 ∧
    state.skipped.count name = 0

def Blocked : Prop :=
  ∃ dependency ∈ declared dependsOn dag.nodes name, dependency ∉ state.completed

def Fits : AnalyzerPhase Name → Prop
  | .idle | .entered => Pending seeds state name ∧ name ∉ state.started.map Prod.fst
  | .gating left =>
    Pending seeds state name ∧ name ∉ state.started.map Prod.fst ∧ name ∉ seeds ∧
      ∃ read, declared dependsOn dag.nodes name = read ++ left ∧ read ⊆ state.completed
  | .executing =>
    Pending seeds state name ∧ name ∉ seeds ∧
      declared dependsOn dag.nodes name ⊆ state.completed
  | .finished =>
    state.completed.count name + state.failed.count name + state.skipped.count name = 1 ∧
      (name ∉ seeds → (name ∈ state.skipped ↔ Blocked dependsOn dag state name))

structure Track : Prop where
  begun : state.phase name = .idle ↔ name ∉ state.begun.flatten
  settled : name ∈ state.begun.flatten →
    state.phase name = .finished ∨ state.position = .inside ∧ name ∈ state.level
  /-- What an analyzer begun depends on has returned. -/
  ground : name ∈ state.begun.flatten → ∀ dependency ∈ declared dependsOn dag.nodes name,
    state.phase dependency = .finished
  seeded : name ∈ seeds → name ∈ state.completed
  starts : ∀ entry ∈ state.started, entry.1 = name →
    name ∉ seeds ∧ declared dependsOn dag.nodes name ⊆ entry.2
  once : (state.started.map Prod.fst).count name ≤ 1
  fits : Fits dependsOn dag seeds state name (state.phase name)

structure Steady : Prop where
  levels : dag.levels = state.begun ++ state.rest
  tracks : ∀ name, Track dependsOn dag seeds state name

theorem Steady.initial : Steady dependsOn dag seeds (initial dag seeds) where
  levels := rfl
  tracks name :=
    { begun := by simp [LevelRun.initial]
      settled := nofun
      ground := nofun
      seeded := id
      starts := nofun
      once := Nat.zero_le 1
      fits := ⟨⟨rfl, rfl, rfl⟩, not_mem_nil⟩ }

end

def Appends {Entry : Type} (entry : Entry) (old new : List Entry) : Prop :=
  new = old ∨ new = old ++ [entry]

omit [LinearOrder Name] in
theorem Appends.mem_iff {item : Entry} {old new : List Entry} (appends : Appends entry old new)
    (ne : item ≠ entry) : item ∈ new ↔ item ∈ old := by
  rcases appends with rfl | rfl
  · rfl
  · simp [ne]

theorem Appends.count_eq {old new : List Name} (appends : Appends name old new)
    (ne : other ≠ name) : new.count other = old.count other := by
  rcases appends with rfl | rfl
  · rfl
  · simp [count_append, ne.symm]

theorem Appends.subset {old new : List Entry} (appends : Appends entry old new) : old ⊆ new := by
  rcases appends with rfl | rfl
  · exact List.Subset.refl _
  · exact subset_append_left _ _

variable (dependsOn dag seeds state next name) in
/-- The goroutine of `name` takes a step; if it starts, its dependencies have completed. -/
structure Moves : Prop where
  plan : next.begun = state.begun ∧ next.rest = state.rest ∧ next.position = state.position
  phase : ∀ other ≠ name, next.phase other = state.phase other
  active : state.phase name ≠ .idle ∧ next.phase name ≠ .idle
  unfinished : state.phase name ≠ .finished
  completed : Appends name state.completed next.completed
  failed : Appends name state.failed next.failed
  skipped : Appends name state.skipped next.skipped
  started : Appends (name, state.completed) state.started next.started
  starting : next.started ≠ state.started → name ∉ state.started.map Prod.fst ∧
    name ∉ seeds ∧ declared dependsOn dag.nodes name ⊆ state.completed

section

variable (moves : Moves dependsOn dag seeds state next name)
include moves

variable (track : Track dependsOn dag seeds state other)
include track

theorem Moves.starts :
    (∀ entry ∈ next.started, entry.1 = other →
      other ∉ seeds ∧ declared dependsOn dag.nodes other ⊆ entry.2) ∧
      (next.started.map Prod.fst).count other ≤ 1 := by
  by_cases same : next.started = state.started
  · rw [same]
    exact ⟨track.starts, track.once⟩
  · obtain ⟨unstarted, fresh, ready⟩ := moves.starting same
    rw [moves.started.resolve_left same]
    constructor
    · intro entry mem about
      rcases mem_append.mp mem with old | new
      · exact track.starts entry old about
      · rw [mem_singleton.mp new] at about ⊢
        exact about ▸ ⟨fresh, ready⟩
    · rw [map_append, count_append]
      by_cases here : other = name
      · rw [here, count_eq_zero_of_not_mem unstarted]
        simp
      · simpa [Ne.symm here] using track.once

theorem Moves.ground (begun : other ∈ state.begun.flatten)
    (direct : dep ∈ declared dependsOn dag.nodes other) :
    dep ≠ name ∧ next.phase dep = .finished := by
  have done := track.ground begun dep direct
  have ne : dep ≠ name := by
    rintro rfl
    exact moves.unfinished done
  exact ⟨ne, (moves.phase dep ne).trans done⟩

theorem Moves.fits (ne : other ≠ name) :
    Fits dependsOn dag seeds next other (state.phase other) := by
  have fits := track.fits
  have completed := moves.completed.count_eq ne
  have failed := moves.failed.count_eq ne
  have skipped := moves.skipped.count_eq ne
  have pending : Pending seeds state other → Pending seeds next other := by
    unfold Pending
    rw [completed, failed, skipped]
    exact id
  have unstarted : other ∉ state.started.map Prod.fst → other ∉ next.started.map Prod.fst := by
    intro absent mem
    obtain ⟨entry, listed, rfl⟩ := mem_map.mp mem
    refine absent (mem_map_of_mem ((moves.started.mem_iff ?_).mp listed))
    intro same
    exact ne (congrArg Prod.fst same)
  cases at_ : state.phase other with
  | idle | entered =>
    rw [at_] at fits
    exact ⟨pending fits.1, unstarted fits.2⟩
  | gating left =>
    rw [at_] at fits
    obtain ⟨open_, fresh, unseeded, read, split, done⟩ := fits
    exact ⟨pending open_, unstarted fresh, unseeded, read, split,
      List.Subset.trans done moves.completed.subset⟩
  | executing =>
    rw [at_] at fits
    exact ⟨pending fits.1, fits.2.1, List.Subset.trans fits.2.2 moves.completed.subset⟩
  | finished =>
    rw [at_] at fits
    have begun : other ∈ state.begun.flatten := by
      by_contra absent
      cases at_.symm.trans (track.begun.mpr absent)
    refine ⟨by rw [completed, failed, skipped]; exact fits.1, fun fresh => ?_⟩
    rw [moves.skipped.mem_iff ne, fits.2 fresh]
    apply exists_congr
    intro dep
    apply and_congr_right
    intro direct
    rw [moves.completed.mem_iff (moves.ground track begun direct).1]

end

theorem Track.finished (track : Track dependsOn dag seeds state name)
    (begun : name ∈ state.begun.flatten)
    (waited : state.position = .inside → name ∈ state.level → state.phase name = .finished) :
    state.phase name = .finished := by
  rcases track.settled begun with finished | ⟨inside, current⟩
  · exact finished
  · exact waited inside current

theorem Steady.move (steady : Steady dependsOn dag seeds state)
    (moves : Moves dependsOn dag seeds state next name)
    (fits : Fits dependsOn dag seeds next name (next.phase name)) :
    Steady dependsOn dag seeds next where
  levels := by rw [moves.plan.1, moves.plan.2.1, steady.levels]
  tracks other := by
    have track := steady.tracks other
    obtain ⟨starts, once⟩ := moves.starts track
    refine ⟨?_, ?_, ?_, fun seed => moves.completed.subset (track.seeded seed), starts, once, ?_⟩
    · rw [moves.plan.1]
      by_cases same : other = name
      · subst same
        exact iff_of_false moves.active.2 fun absent => moves.active.1 (track.begun.mpr absent)
      · rw [moves.phase other same, track.begun]
    · rw [LevelRun.level, moves.plan.1, moves.plan.2.2]
      intro begun
      by_cases same : other = name
      · subst same
        exact Or.inr ((track.settled begun).resolve_left moves.unfinished)
      · rw [moves.phase other same]
        exact track.settled begun
    · rw [moves.plan.1]
      intro begun dep direct
      exact (moves.ground track begun direct).2
    · by_cases same : other = name
      · exact same ▸ fits
      · rw [moves.phase other same]
        exact moves.fits track same

section SetPhase

variable (phase : AnalyzerPhase Name) (active : state.phase name ≠ .idle)
  (unfinished : state.phase name ≠ .finished) (notIdle : phase ≠ .idle)
  {completed failed skipped : List Name} (completes : Appends name state.completed completed)
  (fails : Appends name state.failed failed) (skips : Appends name state.skipped skipped)
include active unfinished notIdle completes fails skips

theorem moves_setPhase : Moves dependsOn dag seeds state
      { state.setPhase name phase with completed, failed, skipped } name where
  plan := ⟨rfl, rfl, rfl⟩
  phase other ne := update_of_ne ne _ _
  active := ⟨active, by simpa [LevelRun.setPhase] using notIdle⟩
  unfinished := unfinished
  completed := completes
  failed := fails
  skipped := skips
  started := Or.inl rfl
  starting changed := absurd rfl changed

theorem Steady.setPhase (steady : Steady dependsOn dag seeds state)
    (fits : Fits dependsOn dag seeds { state with completed, failed, skipped } name phase) :
    Steady dependsOn dag seeds { state.setPhase name phase with completed, failed, skipped } := by
  apply steady.move (moves_setPhase phase active unfinished notIdle completes fails skips)
  change Fits _ _ _ _ name (update state.phase name phase name)
  rw [update_self]
  exact fits

end SetPhase

section

variable (steady : Steady dependsOn dag seeds state)
include steady

theorem Steady.isCompleted (planned : dag.Planned dependsOn) (nodup : seeds.Nodup)
    (entered : state.phase name = .entered) (taken : step dependsOn dag state (.isCompleted name) = some next) :
    Steady dependsOn dag seeds next ∧ next.position = state.position := by
  have active : state.phase name ≠ .idle := by rw [entered]; nofun
  have unfinished : state.phase name ≠ .finished := by rw [entered]; nofun
  have track := steady.tracks name
  have fits := track.fits
  rw [entered] at fits
  obtain ⟨⟨listed, failed, skipped⟩, unstarted⟩ := fits
  simp only [step, if_pos entered] at taken
  by_cases completed : name ∈ state.completed
  · rw [if_pos completed] at taken
    cases taken
    refine ⟨steady.setPhase .finished active unfinished nofun (Or.inl rfl) (Or.inl rfl)
      (Or.inl rfl) ?_, rfl⟩
    have seed : name ∈ seeds := by
      rw [← count_pos_iff, ← listed]
      exact count_pos_iff.mpr completed
    have only := count_eq_one_of_mem nodup seed
    exact ⟨by simp only; omega, fun fresh => absurd seed fresh⟩
  · rw [if_neg completed] at taken
    have begun : name ∈ state.begun.flatten := by
      by_contra absent
      exact active (track.begun.mpr absent)
    have known : name ∈ dag.nodes := by
      apply (Planned.mem_levels planned).mp
      rw [steady.levels, flatten_append]
      exact mem_append_left _ begun
    obtain ⟨analyzer, found⟩ := Option.isSome_iff_exists.mp (AList.lookup_isSome.mpr known)
    rw [found] at taken
    cases taken
    refine ⟨steady.setPhase (.gating _) active unfinished nofun (Or.inl rfl) (Or.inl rfl)
      (Or.inl rfl) ?_, rfl⟩
    refine ⟨⟨listed, failed, skipped⟩, unstarted, fun seed => completed (track.seeded seed), [],
      ?_, nil_subset _⟩
    rw [declared, found]
    rfl

theorem Steady.gate {left : List Name} (gates : state.phase name = .gating left) :
    Steady dependsOn dag seeds (state.gate name left) := by
  have active : state.phase name ≠ .idle := by rw [gates]; nofun
  have unfinished : state.phase name ≠ .finished := by rw [gates]; nofun
  have fits := (steady.tracks name).fits
  rw [gates] at fits
  obtain ⟨pending, unstarted, fresh, read, split, done⟩ := fits
  cases left with
  | nil =>
    rw [append_nil] at split
    have moves : Moves dependsOn dag seeds state (state.gate name []) name :=
      { (moves_setPhase .executing active unfinished nofun (Or.inl rfl) (Or.inl rfl)
          (Or.inl rfl) : Moves dependsOn dag seeds _ _ _) with
        started := Or.inr rfl
        starting := fun _ => ⟨unstarted, fresh, split ▸ done⟩ }
    apply steady.move moves
    simp only [LevelRun.gate, LevelRun.setPhase, update_self, Fits]
    exact ⟨pending, fresh, split ▸ done⟩
  | cons dep left =>
    rw [LevelRun.gate]
    by_cases completed : dep ∈ state.completed
    · rw [if_pos completed]
      apply steady.setPhase (.gating left) active unfinished nofun (Or.inl rfl) (Or.inl rfl)
        (Or.inl rfl)
      refine ⟨pending, unstarted, fresh, read ++ [dep], by rw [split]; simp, ?_⟩
      exact append_subset.mpr ⟨done, by simpa using completed⟩
    · rw [if_neg completed]
      apply steady.setPhase .finished active unfinished nofun (Or.inl rfl) (Or.inl rfl)
        (Or.inr rfl)
      obtain ⟨listed, failed, skipped⟩ := pending
      have unseeded := count_eq_zero_of_not_mem fresh
      simp only [Fits, count_append, count_singleton_self]
      refine ⟨by omega, fun _ => iff_of_true (mem_append_right _ mem_cons_self) ?_⟩
      exact ⟨dep, by rw [split]; simp, completed⟩

theorem Steady.finish (runs : state.phase name = .executing) (succeeds : Bool)
    (taken : step dependsOn dag state (.finish name succeeds) = some next) :
    Steady dependsOn dag seeds next ∧ next.position = state.position := by
  have active : state.phase name ≠ .idle := by rw [runs]; nofun
  have unfinished : state.phase name ≠ .finished := by rw [runs]; nofun
  have fits := (steady.tracks name).fits
  rw [runs] at fits
  obtain ⟨⟨listed, failed, skipped⟩, fresh, ready⟩ := fits
  have unseeded := count_eq_zero_of_not_mem fresh
  have unskipped : name ∉ state.skipped := count_eq_zero.mp skipped
  simp only [step, if_pos runs] at taken
  cases succeeds with
  | true =>
    cases taken
    refine ⟨steady.setPhase .finished active unfinished nofun (Or.inr rfl) (Or.inl rfl)
      (Or.inl rfl) ?_, rfl⟩
    simp only [Fits, LevelRun.setPhase, count_append, count_singleton_self]
    refine ⟨by omega, fun _ => iff_of_false unskipped ?_⟩
    rintro ⟨dep, direct, missing⟩
    exact missing (mem_append_left _ (ready direct))
  | false =>
    cases taken
    refine ⟨steady.setPhase .finished active unfinished nofun (Or.inl rfl) (Or.inr rfl)
      (Or.inl rfl) ?_, rfl⟩
    simp only [Fits, LevelRun.setPhase, count_append, count_singleton_self]
    refine ⟨by omega, fun _ => iff_of_false unskipped ?_⟩
    rintro ⟨dep, direct, missing⟩
    exact missing (ready direct)

theorem Steady.begin (planned : dag.Planned dependsOn) (between : state.position = .between)
    (following : state.rest = level :: rest) {phase : Name → AnalyzerPhase Name}
    (entered : ∀ name ∈ level, phase name = .entered)
    (outside : ∀ name ∉ level, phase name = state.phase name) (late : List Name) :
    Steady dependsOn dag seeds { state with
      position := .inside
      begun := state.begun ++ [level]
      rest
      phase
      late } := by
  have split : dag.levels = state.begun ++ level :: rest := by rw [steady.levels, following]
  have flat : (state.begun ++ [level]).flatten = state.begun.flatten ++ level := by simp
  have idle : ∀ name ∈ level, state.phase name = .idle := by
    intro name mem
    have nodup := Planned.nodup_levels planned
    rw [split, flatten_append, flatten_cons] at nodup
    apply (steady.tracks name).begun.mpr
    intro begun
    exact (nodup_append.mp nodup).2.2 name begun name
      (mem_append_left _ mem) rfl
  have settled : ∀ name ∈ state.begun.flatten, state.phase name = .finished := by
    intro name begun
    apply (steady.tracks name).finished begun
    rw [between]
    nofun
  have kept : ∀ name, state.phase name = .finished → phase name = .finished := by
    intro name finished
    rw [outside name, finished]
    intro mem
    cases finished.symm.trans (idle name mem)
  refine ⟨by simp [split], fun name => ?_⟩
  have track := steady.tracks name
  refine { track with begun := ?_, settled := ?_, ground := ?_, fits := ?_ }
  · change phase name = .idle ↔ name ∉ (state.begun ++ [level]).flatten
    rw [flat, mem_append, not_or]
    by_cases mem : name ∈ level
    · simp [mem, entered name mem]
    · simp [mem, outside name mem, track.begun]
  · intro mem
    rw [flat, mem_append] at mem
    rcases mem with begun | current
    · exact Or.inl (kept name (settled name begun))
    · exact Or.inr ⟨rfl, by simpa [LevelRun.level] using current⟩
  · intro mem dep direct
    rw [flat, mem_append] at mem
    apply kept dep
    rcases mem with begun | current
    · exact track.ground begun dep direct
    · exact settled dep (Planned.dependency_before planned split current direct)
  · have fits := track.fits
    change Fits _ _ _ _ name (phase name)
    by_cases mem : name ∈ level
    · rw [idle name mem] at fits
      rw [entered name mem]
      exact fits
    · rw [outside name mem]
      exact fits

theorem Steady.join (waited : ∀ name ∈ state.level, state.phase name = .finished) :
    Steady dependsOn dag seeds { state with position := .between } where
  levels := steady.levels
  tracks name :=
    { steady.tracks name with
      settled := fun begun => Or.inl ((steady.tracks name).finished begun fun _ => waited name)
      fits := (steady.tracks name).fits }

end

section

variable (dependsOn dag seeds)

/-- The result handed out: the lists of the last steady state, with what was left of the plan
among the skipped ones; something was left only if the run was cancelled. -/
structure Returned (before final : LevelRun Name) : Prop where
  steady : Steady dependsOn dag seeds before
  finished : ∀ name ∈ before.begun.flatten, before.phase name = .finished
  completed : final.completed = before.completed
  failed : final.failed = before.failed
  skipped : final.skipped = before.skipped ++ before.rest.flatten
  phase : final.phase = before.phase
  begun : final.begun = before.begun
  started : final.started = before.started
  whole : before.rest = [] ∨ final.cancelled = true

def Sound (state : LevelRun Name) : Prop :=
  match state.position with
  | .returned => ∃ before, Returned dependsOn dag seeds before state
  | _ => Steady dependsOn dag seeds state

end

theorem sound_of_steady (steady : Steady dependsOn dag seeds state)
    (running : state.position ≠ .returned) : Sound dependsOn dag seeds state := by
  unfold Sound
  split
  · next done => exact absurd done running
  · exact steady

theorem Returned.phases {before final : LevelRun Name}
    (returned : Returned dependsOn dag seeds before final) (name : Name) :
    final.phase name = .idle ∨ final.phase name = .finished := by
  rw [returned.phase]
  by_cases begun : name ∈ before.begun.flatten
  · exact Or.inr (returned.finished name begun)
  · exact Or.inl ((returned.steady.tracks name).begun.mpr begun)

theorem gate_position (state : LevelRun Name) (name : Name) (left : List Name) :
    (state.gate name left).position = state.position := by
  cases left with
  | nil => rfl
  | cons dep left =>
    rw [LevelRun.gate]
    split <;> rfl

theorem Steady.sound_step (planned : dag.Planned dependsOn) (nodup : seeds.Nodup)
    (steady : Steady dependsOn dag seeds state) (running : state.position ≠ .returned)
    (taken : LevelRun.step dependsOn dag state event = some next) :
    Sound dependsOn dag seeds next := by
  cases event with
  | cancel =>
    cases taken
    refine sound_of_steady ⟨steady.levels, fun name => ?_⟩ running
    exact { steady.tracks name with fits := (steady.tracks name).fits }
  | begin =>
    simp only [LevelRun.step] at taken
    split at taken
    · next between ended =>
      cases taken
      refine ⟨state, ⟨steady, ?_, rfl, rfl, ?_, rfl, rfl, rfl, Or.inl ended⟩⟩
      · intro name begun
        apply (steady.tracks name).finished begun
        rw [between]
        nofun
      · change state.skipped = state.skipped ++ state.rest.flatten
        rw [ended, flatten_nil, append_nil]
    · next level rest between ended =>
      cases taken
      refine sound_of_steady (steady.begin planned between ended ?_ ?_ _) nofun
      · intro name mem
        exact if_pos mem
      · intro name absent
        exact if_neg absent
    · cases taken
  | isCompleted name =>
    by_cases entered : state.phase name = .entered
    · obtain ⟨kept, same⟩ := steady.isCompleted planned nodup entered taken
      exact sound_of_steady kept (same ▸ running)
    · simp only [LevelRun.step, if_neg entered] at taken
      cases taken
  | gate name =>
    simp only [LevelRun.step] at taken
    split at taken
    · next left gates =>
      cases taken
      exact sound_of_steady (steady.gate gates) ((gate_position state name left).symm ▸ running)
    · cases taken
  | finish name succeeds =>
    by_cases runs : state.phase name = .executing
    · obtain ⟨kept, same⟩ := steady.finish runs succeeds taken
      exact sound_of_steady kept (same ▸ running)
    · simp only [LevelRun.step, if_neg runs] at taken
      cases taken
  | join =>
    simp only [LevelRun.step] at taken
    split at taken
    · next waits =>
      split at taken
      · next cancelled =>
        cases taken
        exact ⟨state, ⟨steady, fun name begun => (steady.tracks name).finished begun fun _ => waits.2 name, rfl, rfl, rfl, rfl, rfl, rfl,
          Or.inr cancelled⟩⟩
      · cases taken
        exact sound_of_steady (steady.join waits.2) nofun
    · cases taken

theorem Sound.step (planned : dag.Planned dependsOn) (nodup : seeds.Nodup)
    (sound : Sound dependsOn dag seeds state)
    (taken : LevelRun.step dependsOn dag state event = some next) :
    Sound dependsOn dag seeds next := by
  by_cases at_ : state.position = .returned
  · rw [Sound, at_] at sound
    obtain ⟨before, returned⟩ := sound
    cases event with
    | cancel =>
      cases taken
      rw [Sound, at_]
      exact ⟨before, { returned with whole := Or.inr rfl }⟩
    | begin => simp [LevelRun.step, at_] at taken
    | isCompleted name =>
      rcases returned.phases name with phase | phase <;> simp [LevelRun.step, phase] at taken
    | gate name =>
      rcases returned.phases name with phase | phase <;> simp [LevelRun.step, phase] at taken
    | finish name succeeds =>
      rcases returned.phases name with phase | phase <;> simp [LevelRun.step, phase] at taken
    | join => simp [LevelRun.step, at_] at taken
  · have steady : Steady dependsOn dag seeds state := by
      unfold Sound at sound
      split at sound
      · next done => exact absurd done at_
      · exact sound
    exact steady.sound_step planned nodup at_ taken

theorem run_sound (planned : dag.Planned dependsOn) (nodup : seeds.Nodup)
    {events : List (Event Name)} {final : LevelRun Name}
    (ran : Library.run (LevelRun.step dependsOn dag) (LevelRun.initial dag seeds) events =
      some final) : Sound dependsOn dag seeds final := by
  have start : Sound dependsOn dag seeds (LevelRun.initial dag seeds) :=
    sound_of_steady (Steady.initial dependsOn dag seeds) nofun
  exact Library.run_invariant (fun _ _ _ sound taken => Sound.step planned nodup sound taken) start ran

/-- The analyzers whose level began only after the run had been cancelled, or never. -/
def CancelledBefore (final : LevelRun Name) (name : Name) : Prop :=
  name ∈ final.late ∨ final.cancelled = true ∧ name ∉ final.begun.flatten

variable {before final : LevelRun Name}

variable (planned : dag.Planned dependsOn)
include planned

section

variable (returned : Returned dependsOn dag seeds before final)
include returned

theorem Returned.mem_begun_or_rest :
    name ∈ dag.nodes ↔ name ∈ before.begun.flatten ∨ name ∈ before.rest.flatten := by
  rw [← Planned.mem_levels planned, returned.steady.levels, flatten_append, mem_append]

theorem Returned.apart :
    before.rest.flatten.Nodup ∧ (name ∈ before.begun.flatten → name ∉ before.rest.flatten) := by
  have nodup := Planned.nodup_levels planned
  rw [returned.steady.levels, flatten_append] at nodup
  obtain ⟨_, once, apart⟩ := nodup_append.mp nodup
  exact ⟨once, fun begun left => apart name begun name left rfl⟩

theorem Returned.listed_once (nodup : seeds.Nodup) (known : name ∈ dag.nodes ∨ name ∈ seeds)
    (began : name ∈ seeds → name ∈ dag.nodes → name ∈ final.begun.flatten) :
    final.completed.count name + final.failed.count name + final.skipped.count name = 1 := by
  rw [returned.begun] at began
  rw [returned.completed, returned.failed, returned.skipped, count_append]
  have track := returned.steady.tracks name
  have fits := track.fits
  obtain ⟨once, apart⟩ := returned.apart planned
  by_cases begun : name ∈ before.begun.flatten
  · rw [returned.finished name begun] at fits
    have one := fits.1
    have unrested := count_eq_zero_of_not_mem (apart begun)
    omega
  · rw [track.begun.mpr begun] at fits
    obtain ⟨⟨completed, failed, skipped⟩, _⟩ := fits
    by_cases left : name ∈ before.rest.flatten
    · have inPlan := (returned.mem_begun_or_rest planned).mpr (Or.inr left)
      have unseeded := count_eq_zero_of_not_mem fun seed => begun (began seed inPlan)
      have one := count_eq_one_of_mem once left
      omega
    · have outside : name ∉ dag.nodes := by
        rw [returned.mem_begun_or_rest planned]
        exact not_or.mpr ⟨begun, left⟩
      have one := count_eq_one_of_mem nodup (known.resolve_left outside)
      have unrested := count_eq_zero_of_not_mem left
      omega

theorem Returned.skipped_iff
    (known : name ∈ dag.nodes) (fresh : name ∉ seeds) (onTime : name ∉ final.late) :
    name ∈ final.skipped ↔
      (∃ dep ∈ declared dependsOn dag.nodes name, dep ∉ final.completed) ∨
        CancelledBefore final name := by
  rw [CancelledBefore, or_iff_right onTime, returned.skipped, returned.completed, returned.begun,
    mem_append]
  by_cases begun : name ∈ before.begun.flatten
  · rw [or_iff_left ((returned.apart planned).2 begun),
      or_iff_left fun cancelled => cancelled.2 begun]
    have fits := (returned.steady.tracks name).fits
    rw [returned.finished name begun] at fits
    exact fits.2 fresh
  · have left := ((returned.mem_begun_or_rest planned).mp known).resolve_left begun
    apply iff_of_true (Or.inr left)
    refine Or.inr ⟨returned.whole.resolve_left ?_, begun⟩
    intro ended
    rw [ended] at left
    cases left

end

end LevelRun

open LevelRun in
/-- Of every result, whatever the interleaving, failures and cancellation: each analyzer is in
one list, once, unless it is one of CompletedOutputs in a level that never began; those of
CompletedOutputs are completed and not executed, every other one is executed at most once and
after its dependencies completed, and is skipped exactly when one of them did not complete or
the run was cancelled before its level, unless the level began all the same. -/
theorem execution_follows_dependencies (built : DAG.Built dependsOn dag)
    (distinct : seeds.Nodup) {events : List (Event Name)} {final : LevelRun Name}
    (ran : Library.run (LevelRun.step dependsOn dag) (LevelRun.initial dag seeds) events =
      some final) (returned : final.position = .returned) :
    (∀ name, name ∈ dag.nodes ∨ name ∈ seeds →
      (name ∈ seeds → name ∈ dag.nodes → name ∈ final.begun.flatten) →
        final.completed.count name + final.failed.count name + final.skipped.count name = 1) ∧
    (∀ name ∈ seeds, name ∈ final.completed ∧ name ∉ final.started.map Prod.fst) ∧
    (final.started.map Prod.fst).Nodup ∧
    (∀ entry ∈ final.started, declared dependsOn dag.nodes entry.1 ⊆ entry.2) ∧
    (∀ name ∈ dag.nodes, name ∉ seeds → name ∉ final.late →
      (name ∈ final.skipped ↔
        (∃ dependency ∈ declared dependsOn dag.nodes name, dependency ∉ final.completed) ∨
          CancelledBefore final name)) := by
  have planned := built.planned
  have sound := run_sound planned distinct ran
  rw [Sound, returned] at sound
  obtain ⟨before, result⟩ := sound
  refine ⟨?_, ?_, ?_, ?_, ?_⟩
  · intro name known began
    exact result.listed_once planned distinct known began
  · intro name seed
    rw [result.completed, result.started]
    refine ⟨(result.steady.tracks name).seeded seed, ?_⟩
    intro started
    obtain ⟨entry, mem, rfl⟩ := mem_map.mp started
    exact ((result.steady.tracks entry.1).starts entry mem rfl).1 seed
  · rw [result.started]
    exact nodup_iff_count_le_one.mpr fun name => (result.steady.tracks name).once
  · intro entry mem
    rw [result.started] at mem
    exact ((result.steady.tracks entry.1).starts entry mem rfl).2
  · intro name known fresh onTime
    exact result.skipped_iff planned known fresh onTime

/-- 2 depends on 1 and 3 on 2; 4 is alone. -/
def chainedAnalyzers : Library.Table Nat (List Nat) :=
  Library.upsertAll ∅ [(1, []), (2, [1]), (3, [2]), (4, [])]

def chainedPlan : DAG Nat (List Nat) where
  levels := [[1, 4], [2], [3]]
  order := [1, 4, 2, 3]
  edges := Library.mapEntries (fun _ => id) chainedAnalyzers
  nodes := chainedAnalyzers

/-- 1 and 2 were completed before; 4 fails, and 3 completes. -/
def uncancelledEvents : List (LevelRun.Event Nat) :=
  [.begin, .isCompleted 4, .gate 4, .isCompleted 1, .finish 4 false, .join, .begin,
    .isCompleted 2, .join, .begin, .isCompleted 3, .gate 3, .gate 3, .finish 3 true, .join, .begin]

theorem execution_follows_dependencies_uncancelled :
    ∃ final, Library.run (LevelRun.step id chainedPlan) (LevelRun.initial chainedPlan [1, 2])
        uncancelledEvents = some final ∧
      final.completed = [1, 2, 3] ∧ final.failed = [4] ∧ final.skipped = [] ∧
      final.started = [(4, [1, 2]), (3, [1, 2])] ∧ (final.started.map Prod.fst).Nodup := by
  have built : DAG.Built id chainedPlan :=
    .build (rfl : Analyzer.buildDAG id chainedAnalyzers = .ok chainedPlan)
  have nodup : ([1, 2] : List Nat).Nodup := by decide
  refine ⟨_, rfl, rfl, rfl, rfl, rfl, ?_⟩
  exact (execution_follows_dependencies built nodup
    (rfl : Library.run _ _ uncancelledEvents = _) rfl).2.2.1

/-- Cancelled while 4 executes, so that the levels of 2 and 3 never begin. -/
def cancelledEvents : List (LevelRun.Event Nat) :=
  [.begin, .isCompleted 1, .isCompleted 4, .gate 4, .cancel, .finish 4 false, .join]

/-- Cancelled before the first level, whose analyzers execute nevertheless. -/
def cancelledFirstEvents : List (LevelRun.Event Nat) :=
  [.cancel, .begin, .isCompleted 1, .isCompleted 4, .gate 1, .gate 4, .finish 1 false,
    .finish 4 false, .join]

/-- An analyzer completed before is listed as skipped too, and one whose level began after the
cancellation is executed instead of skipped. -/
theorem completed_also_skipped :
    Analyzer.buildDAG id chainedAnalyzers = .ok chainedPlan ∧
    (∃ final, Library.run (LevelRun.step id chainedPlan) (LevelRun.initial chainedPlan [1, 2])
        cancelledEvents = some final ∧ final.position = .returned ∧
      2 ∈ final.completed ∧ 2 ∈ final.skipped) ∧
    ∃ final, Library.run (LevelRun.step id chainedPlan) (LevelRun.initial chainedPlan [])
        cancelledFirstEvents = some final ∧ final.position = .returned ∧
      LevelRun.CancelledBefore final 1 ∧ final.skipped = [2, 3] ∧
      1 ∈ final.started.map Prod.fst := by
  refine ⟨rfl, ⟨_, rfl, rfl, ?_, ?_⟩, _, rfl, rfl, Or.inl ?_, rfl, ?_⟩ <;> decide

end CrossCodex.Analysis
