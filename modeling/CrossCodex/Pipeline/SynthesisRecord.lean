/-
The rows that synthesis keeps (internal/synthesis/service.go: Execute) and the viability
column of vote_summaries that records them (persistViability; internal/pipeline:
writeVoteSummaries). A run updates the rows it keeps and no others.
-/

import CrossCodex.Pipeline.SynthesisInputs
import CrossCodex.Pipeline.VoteSummaries

namespace CrossCodex.Pipeline

open Library Analyzer List

def Float64.atLeast (number : Float64) (bound : ℚ) : Bool :=
  match number with
  | .finite value => bound ≤ value
  | .nan => false
  | .infinite positive => positive

variable {Weight : Type}

structure SynthesisRow (Weight : Type) where
  sourceID : Text
  targetID : Text
  analyzer : Text
  confidenceFraction : Float64
  viabilityWeight : Weight

namespace SynthesisRow

variable (row : SynthesisRow Weight)

def key : SummaryKey :=
  { sourceID := row.sourceID, targetID := row.targetID, analyzerName := row.analyzer }

def entry : SummaryKey × Weight := (row.key, row.viabilityWeight)

end SynthesisRow

abbrev ofSource (rows : List (SynthesisRow Weight)) (source : Text) :
    List (SynthesisRow Weight) :=
  rows.filter fun row => row.sourceID = source

structure SynthesisConfig where
  confidenceThreshold : ℚ
  maxMappingsPerControl : Int

/-- A call of Execute. `weigh` is ComputeViabilityWeight under the call's classifications; of
a valid input it is never NaN. -/
structure SynthesisRun (Weight : Type) where
  cfg : SynthesisConfig
  inputs : List SynthesisInput
  weigh : SynthesisInput → Weight

abbrev Viabilities (Weight : Type) := Table SummaryKey Weight

/-- The column, and all rows that runs have kept so far; the program has no such list. -/
structure SynthesisRecord (Weight : Type) where
  viabilities : Viabilities Weight
  kept : List (SynthesisRow Weight)

/-- A run that fails changes nothing and is no event. -/
inductive SynthesisEvent (Weight : Type) where
  | writes (pairs : List VoteSummaryPair)
  | executes (run : SynthesisRun Weight)

def filterByConfidence (rows : List (SynthesisRow Weight)) (threshold : ℚ) :
    List (SynthesisRow Weight) :=
  rows.filter fun row => row.confidenceFraction.atLeast threshold

namespace SynthesisRun

variable (run : SynthesisRun Weight)

def row (input : SynthesisInput) : SynthesisRow Weight :=
  { sourceID := input.sourceID
    targetID := input.targetID
    analyzer := input.analyzer
    confidenceFraction := input.confidenceFraction
    viabilityWeight := run.weigh input }

def rank : List (SynthesisRow Weight) := run.inputs.map run.row

def meeting : List (SynthesisRow Weight) :=
  if 0 < run.cfg.confidenceThreshold then
    filterByConfidence run.rank run.cfg.confidenceThreshold
  else run.rank

end SynthesisRun

/-- The UPDATE, rolled back when it changes fewer rows of the table than it was given. -/
def persistViability (viabilities : Viabilities Weight) (rows : List (SynthesisRow Weight)) :
    Option (Viabilities Weight) :=
  if (viabilities.keys.filter (· ∈ rows.map SynthesisRow.key)).length < rows.length then none
  else some (mapEntries (fun key viability =>
    (firstRow (rows.map SynthesisRow.entry) key).getD viability) viabilities)

variable {viabilities next : Viabilities Weight} {rows : List (SynthesisRow Weight)}

/-- Every row given has a row of the table to itself, and the others stay as they are. -/
theorem lookup_persisted (persisted : persistViability viabilities rows = some next)
    {key : SummaryKey} {viability : Weight} : next.lookup key = some viability ↔
      (∃ row ∈ rows, row.key = key ∧ row.viabilityWeight = viability) ∨
        key ∉ rows.map SynthesisRow.key ∧ viabilities.lookup key = some viability := by
  unfold persistViability at persisted
  split_ifs at persisted with few
  cases persisted
  have nodup := viabilities.keys_nodup.filter (· ∈ rows.map SynthesisRow.key)
  have matched := (subperm_of_subset nodup fun key mem =>
    of_decide_eq_true (mem_filter.mp mem).2).perm_of_length_le (by simpa using few)
  have entries : ((rows.map SynthesisRow.entry).map Prod.fst).Nodup := by
    rw [map_map]
    exact matched.nodup_iff.mp nodup
  have own : ∀ row ∈ rows, firstRow (rows.map SynthesisRow.entry) row.key =
      some row.viabilityWeight := fun row mem => firstRow_of_mem entries (mem_map_of_mem mem)
  rw [lookup_mapEntries]
  by_cases given : key ∈ rows.map SynthesisRow.key
  · obtain ⟨row, mem, rfl⟩ := mem_map.mp given
    have stored := mem_of_mem_filter (matched.mem_iff.mpr given)
    obtain ⟨old, present⟩ := Option.isSome_iff_exists.mp
      (AList.lookup_isSome.mpr (AList.mem_keys.mpr stored))
    simp only [present, own row mem, Option.map_some, Option.getD_some, Option.some.injEq, given,
      not_true, false_and, or_false]
    constructor
    · exact fun same => ⟨row, mem, rfl, same⟩
    · rintro ⟨other, listed, same, rfl⟩
      exact Option.some.inj ((own row mem).symm.trans (same ▸ own other listed))
  · have none : firstRow (rows.map SynthesisRow.entry) key = none := by
      rw [firstRow_eq_none, map_map]
      exact given
    rw [none]
    simp only [Option.getD_none, Option.map_id_fun', id, given, not_false_eq_true, true_and]
    refine (or_iff_right ?_).symm
    rintro ⟨row, mem, rfl, _⟩
    exact given (mem_map_of_mem mem)

variable [LinearOrder Weight]

/-- `sort.Slice` by descending weight, in whatever order among equals. -/
structure RowSort (Weight : Type) [LinearOrder Weight] where
  slice : List (SynthesisRow Weight) → List (SynthesisRow Weight)
  perm : ∀ rows, (slice rows).Perm rows
  sorted : ∀ rows,
    (slice rows).Pairwise fun one other => other.viabilityWeight ≤ one.viabilityWeight

/-- Sources stand in the order of their first rows. -/
def capMappingsPerSource (sort : RowSort Weight) (rows : List (SynthesisRow Weight))
    (maxPerSource : Int) : List (SynthesisRow Weight) :=
  if maxPerSource ≤ 0 then rows
  else
    (rows.map SynthesisRow.sourceID).reverse.dedup.reverse.flatMap fun source =>
      if maxPerSource < (ofSource rows source).length then
        (sort.slice (ofSource rows source)).take maxPerSource.toNat
      else ofSource rows source

def SynthesisRun.select (run : SynthesisRun Weight) (sort : RowSort Weight) :
    List (SynthesisRow Weight) :=
  if 0 < run.cfg.maxMappingsPerControl then
    capMappingsPerSource sort run.meeting run.cfg.maxMappingsPerControl
  else run.meeting

def execute (sort : RowSort Weight) (run : SynthesisRun Weight)
    (viabilities : Viabilities Weight) : Option (Viabilities Weight) :=
  match validateInputs run.inputs with
  | .error _ => none
  | .ok _ => persistViability viabilities (run.select sort)

def SynthesisRecord.step [Zero Weight] (sort : RowSort Weight) (record : SynthesisRecord Weight) :
    SynthesisEvent Weight → Option (SynthesisRecord Weight)
  | .writes pairs => some { record with
      viabilities := insertNew record.viabilities (pairs.map fun pair => (pair.key, 0)) }
  | .executes run => (execute sort run record.viabilities).map fun viabilities =>
      { viabilities, kept := record.kept ++ run.select sort }

section

variable {run : SynthesisRun Weight} {sort : RowSort Weight}

def heaviest (sort : RowSort Weight) (cap : Int) (rows : List (SynthesisRow Weight)) :
    List (SynthesisRow Weight) :=
  if 0 < cap ∧ cap < rows.length then (sort.slice rows).take cap.toNat else rows

theorem ofSource_select (source : Text) : ofSource (run.select sort) source =
    heaviest sort run.cfg.maxMappingsPerControl (ofSource run.meeting source) := by
  unfold SynthesisRun.select heaviest
  split
  · rename_i capped
    rw [capMappingsPerSource, if_neg (not_le.mpr capped)]
    simp only [capped, true_and]
    refine (filter_flatMap_key SynthesisRow.sourceID (nodup_reverse.mpr (nodup_dedup _)) ?_
      source).trans ?_
    · intro source row mem
      split at mem
      · have listed := (sort.perm _).mem_iff.mp (mem_of_mem_take mem)
        exact of_decide_eq_true (mem_filter.mp listed).2
      · exact of_decide_eq_true (mem_filter.mp mem).2
    · split
      · rfl
      · rename_i absent
        have none : ofSource run.meeting source = [] := by
          apply filter_eq_nil_iff.mpr
          intro row mem same
          apply absent
          rw [mem_reverse, mem_dedup, mem_reverse, ← of_decide_eq_true same]
          exact mem_map_of_mem mem
        simp [none, Int.not_lt.mpr (Int.le_of_lt capped)]
  · rename_i uncapped
    rw [if_neg fun both => uncapped both.1]

/-- For each source the heaviest of the rows that meet the threshold, up to a positive cap. -/
structure SynthesisRun.Selects (run : SynthesisRun Weight) (rows : List (SynthesisRow Weight)) :
    Prop where
  inputs : ∀ row ∈ rows, ∃ input ∈ run.inputs, run.row input = row
  count : ∀ source, (ofSource rows source).length =
    if 0 < run.cfg.maxMappingsPerControl then
      min (ofSource run.meeting source).length run.cfg.maxMappingsPerControl.toNat
    else (ofSource run.meeting source).length
  heaviest : ∀ source, ∃ dropped, (ofSource rows source ++ dropped).Perm
      (ofSource run.meeting source) ∧
    ∀ row ∈ ofSource rows source, ∀ out ∈ dropped, out.viabilityWeight ≤ row.viabilityWeight

variable (sort) in
theorem heaviest_append (cap : Int) (rows : List (SynthesisRow Weight)) :
    ∃ dropped, (heaviest sort cap rows ++ dropped).Perm rows ∧
      ∀ row ∈ heaviest sort cap rows, ∀ out ∈ dropped, out.viabilityWeight ≤ row.viabilityWeight := by
  unfold heaviest
  split
  · refine ⟨(sort.slice rows).drop cap.toNat, ?_, ?_⟩
    · rw [take_append_drop]
      exact sort.perm rows
    · have sorted := sort.sorted rows
      rw [← take_append_drop cap.toNat (sort.slice rows)] at sorted
      exact (pairwise_append.mp sorted).2.2
  · exact ⟨[], by simp, by simp⟩

omit [LinearOrder Weight] in
theorem mem_rank_of_meeting {row : SynthesisRow Weight} (mem : row ∈ run.meeting) :
    row ∈ run.rank := by
  unfold SynthesisRun.meeting at mem
  split at mem
  · exact mem_of_mem_filter mem
  · exact mem

theorem select_selects : run.Selects (run.select sort) := by
  refine ⟨?_, ?_, ?_⟩
  · intro row mem
    have own : row ∈ ofSource (run.select sort) row.sourceID := mem_filter.mpr ⟨mem, by simp⟩
    rw [ofSource_select] at own
    obtain ⟨dropped, perm, _⟩ :=
      heaviest_append sort run.cfg.maxMappingsPerControl (ofSource run.meeting row.sourceID)
    have met := perm.mem_iff.mp (mem_append_left dropped own)
    exact mem_map.mp (mem_rank_of_meeting (mem_of_mem_filter met))
  · intro source
    rw [ofSource_select, heaviest]
    split_ifs with cut capped capped
    · rw [length_take, (sort.perm _).length_eq]
      omega
    · exact absurd cut.1 capped
    · omega
    · rfl
  · intro source
    rw [ofSource_select]
    exact heaviest_append sort _ _

end

/-! ### What the table records -/

section

variable [Zero Weight] {sort : RowSort Weight} {run : SynthesisRun Weight}
  {record later : SynthesisRecord Weight}

/-- A positive viability was written by a run for a row that it kept. -/
def SynthesisRecord.Traced (record : SynthesisRecord Weight) : Prop :=
  ∀ key viability, record.viabilities.lookup key = some viability → 0 < viability →
    ∃ row ∈ record.kept, row.key = key ∧ 0 < row.viabilityWeight

omit [Zero Weight] in
theorem persists_of_execute (executed : execute sort run viabilities = some next) :
    persistViability viabilities (run.select sort) = some next := by
  unfold execute at executed
  split at executed
  · cases executed
  · exact executed

theorem SynthesisRecord.Traced.step {event : SynthesisEvent Weight} (traced : record.Traced)
    (taken : record.step sort event = some later) : later.Traced := by
  intro key viability stored positive
  cases event with
  | writes pairs =>
    cases taken
    rw [lookup_insertNew, Option.or_eq_some_iff] at stored
    rcases stored with old | ⟨_, new⟩
    · exact traced key viability old positive
    · obtain ⟨pair, _, same⟩ := mem_map.mp (mem_of_firstRow new)
      cases same
      exact absurd positive (lt_irrefl _)
  | executes run =>
    obtain ⟨viabilities, executed, rfl⟩ := Option.map_eq_some_iff.mp taken
    rcases (lookup_persisted (persists_of_execute executed)).mp stored with
      ⟨row, mem, named, rfl⟩ | ⟨_, old⟩
    · exact ⟨row, mem_append_right _ mem, named, positive⟩
    · obtain ⟨row, mem, named⟩ := traced key viability old positive
      exact ⟨row, mem_append_left _ mem, named⟩

/-- Every run keeps what it should. Its record is exact when it keeps again every row that an
earlier run kept with a positive weight. -/
theorem synthesis_record {events : List (SynthesisEvent Weight)}
    (ran : Library.run (SynthesisRecord.step sort) ⟨∅, []⟩ events = some record)
    (executed : execute sort run record.viabilities = some next) :
    run.Selects (run.select sort) ∧
      ((∀ row ∈ record.kept, 0 < row.viabilityWeight →
        row.key ∈ (run.select sort).map SynthesisRow.key) →
      ∀ key viability, next.lookup key = some viability ∧ 0 < viability ↔
        ∃ row ∈ run.select sort, row.key = key ∧ row.viabilityWeight = viability ∧
          0 < viability) := by
  refine ⟨select_selects, fun again key viability => ?_⟩
  have traced : record.Traced := by
    refine run_invariant (fun _state _event _next holds taken => holds.step taken) ?_ ran
    intro key viability stored
    cases stored
  rw [lookup_persisted (persists_of_execute executed)]
  constructor
  · rintro ⟨⟨row, mem, named, weighed⟩ | ⟨unkept, old⟩, positive⟩
    · exact ⟨row, mem, named, weighed, positive⟩
    · -- Only an earlier run can have left a positive viability here.
      obtain ⟨row, mem, rfl, weighed⟩ := traced key viability old positive
      exact absurd (again row mem weighed) unkept
  · rintro ⟨row, mem, named, weighed, positive⟩
    exact ⟨.inl ⟨row, mem, named, weighed⟩, positive⟩

end

def mappingTo (target : Char) : RequiresResult :=
  { sourceID := ['s'], targetID := [target], confidence := 1, unanimous := true, validVotes := 1,
    totalVotes := 1, models := [] }

def summarized : SynthesisEvent ℚ :=
  .writes (['a', 'b'].map fun target => requiresPair (mappingTo target))

/-- One mapping for each control; the scores are the weights, 1/2 but for one target. -/
def cappedRun (heavy : Char) (score : ℚ) : SynthesisRun ℚ where
  cfg := { confidenceThreshold := 0, maxMappingsPerControl := 1 }
  inputs := ['a', 'b'].map fun target =>
    let similarity := if target = heavy then score else 1 / 2
    requiresInput (fun _ _ => ⟨similarity, similarity, 0, 1⟩) (mappingTo target)
  weigh input := if let .finite score := input.similarityScore then score else 0

def insertionRowSort : RowSort ℚ where
  slice rows := rows.insertionSort fun one other => other.viabilityWeight ≤ one.viabilityWeight
  perm rows := perm_insertionSort _ rows
  sorted rows := by
    have total : Std.Total fun one other : SynthesisRow ℚ =>
        other.viabilityWeight ≤ one.viabilityWeight := ⟨fun one other => le_total _ _⟩
    have trans : IsTrans (SynthesisRow ℚ) fun one other =>
        other.viabilityWeight ≤ one.viabilityWeight := ⟨fun _ _ _ left right => right.trans left⟩
    exact pairwise_insertionSort _ rows

def recordAfter (events : List (SynthesisEvent ℚ)) : Option (SynthesisRecord ℚ) :=
  Library.run (SynthesisRecord.step insertionRowSort) ⟨∅, []⟩ events

def firstRecord : SynthesisRecord ℚ :=
  (recordAfter [summarized, .executes (cappedRun 'a' 1)]).getD ⟨∅, []⟩

/-- The retry keeps the row of the first run, whose score has changed. -/
theorem synthesis_record_retried : ∃ next,
    recordAfter [summarized, .executes (cappedRun 'a' 1)] = some firstRecord ∧
    firstRecord.viabilities.lookup (requiresPair (mappingTo 'a')).key = some 1 ∧
    execute insertionRowSort (cappedRun 'a' (3 / 4)) firstRecord.viabilities = some next ∧
      next.lookup (requiresPair (mappingTo 'a')).key = some (3 / 4) := by
  have done : (recordAfter [summarized, .executes (cappedRun 'a' 1)]).isSome := by decide +kernel
  have ran : recordAfter [summarized, .executes (cappedRun 'a' 1)] = some firstRecord := by
    rw [firstRecord, ← Option.get_eq_getD (h := done), Option.some_get done]
  obtain ⟨next, executed⟩ := Option.isSome_iff_exists.mp (show (execute insertionRowSort
    (cappedRun 'a' (3 / 4)) firstRecord.viabilities).isSome = true by decide +kernel)
  have exactly := (synthesis_record ran executed).2 (by decide +kernel)
  refine ⟨next, ran, by decide +kernel, executed, ((exactly _ _).mpr ?_).1⟩
  decide +kernel

/-- The first run keeps one row, the retry the other, and both stay viable. -/
theorem retry_leaves_viability :
    ((recordAfter [summarized, .executes (cappedRun 'a' 1)]).bind fun record =>
      (execute insertionRowSort (cappedRun 'b' 1) record.viabilities).map fun viabilities =>
        viabilities.lookup (requiresPair (mappingTo 'a')).key) = some (some 1) ∧
      (requiresPair (mappingTo 'a')).key ∉
        ((cappedRun 'b' 1).select insertionRowSort).map SynthesisRow.key := by
  decide +kernel

end CrossCodex.Pipeline
