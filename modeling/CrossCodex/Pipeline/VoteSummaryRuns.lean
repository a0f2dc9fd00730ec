/-
When the vote summaries match the outputs: outputs are replaced when an analyzer runs again,
summaries are inserted once and kept.
-/

import CrossCodex.Pipeline.Gathering
import CrossCodex.Pipeline.VoteSummaries

namespace CrossCodex.Pipeline

open Library Analyzer Function Option List

variable {Data : Type} {pairs : List VoteSummaryPair} {write : Write}

theorem addPairs_ok {added result : List VoteSummaryPair} (ok : addPairs pairs added = .ok result)
    (nodup : (pairs.map VoteSummaryPair.key).Nodup) : (result.map VoteSummaryPair.key).Nodup := by
  induction added generalizing pairs with
  | nil =>
    cases ok
    exact nodup
  | cons pair rest ih =>
    unfold addPairs at ok
    split at ok
    · cases ok
    · apply ih ok
      rw [map_append, map_singleton]
      exact nodup_append.mpr ⟨nodup, nodup_singleton _, by
        rintro left present right inLast rfl
        rw [mem_singleton.mp inLast] at present
        exact absurd present ‹_›⟩

theorem buildVoteSummaryPairs_distinct {format : ResultFormat Data} {outputs : Text → Option Data}
    (built : buildVoteSummaryPairs format outputs = .ok pairs) :
    ((pairs.map VoteSummaryPair.entry).map Prod.fst).Nodup := by
  obtain ⟨requires, _, built⟩ := bind_eq_ok.mp built
  obtain ⟨first, added, built⟩ := bind_eq_ok.mp built
  obtain ⟨relationship, _, built⟩ := bind_eq_ok.mp built
  rw [List.map_map]
  exact addPairs_ok built (addPairs_ok added nodup_nil)

namespace ResultFormat

/-- What a run holds for an analyzer is what the database has for it, or what it was given
to store. -/
def Agrees (format : ResultFormat Data) (held stored : Option Data) : Prop :=
  held = stored ∨ ∃ data, held = some data ∧ stored = some (format.persisted data)

theorem Agrees.decoded {format : ResultFormat Data} {held stored : Option Data}
    (agrees : format.Agrees held stored) {Result : Type} {decode : Data → Option (List Result)}
    (jsonb : ∀ data, decode (format.jsonb data) = decode data)
    (null : decode format.null = some []) :
    format.decoded decode held = format.decoded decode stored := by
  rcases agrees with same | ⟨data, rfl, rfl⟩
  · rw [same]
  · simp only [ResultFormat.decoded, persisted, format.jsonb_nonempty, jsonb]
    by_cases empty : format.isEmpty data = true
    · simp [empty, null]
    · simp [empty]

end ResultFormat

theorem buildVoteSummaryPairs_congr {format : ResultFormat Data} {held stored : Text → Option Data}
    (agrees : ∀ name, format.Agrees (held name) (stored name)) :
    buildVoteSummaryPairs format held = buildVoteSummaryPairs format stored := by
  unfold buildVoteSummaryPairs
  rw [(agrees requiresAnalyzer).decoded format.requires_jsonb format.requires_null,
    (agrees relationshipAnalyzer).decoded format.relationship_jsonb format.relationship_null]

theorem lookup_writeVoteSummaries {summaries : VoteSummaries} (applied : write.applied = true)
    (nodup : ((pairs.map VoteSummaryPair.entry).map Prod.fst).Nodup)
    (repeated : ∀ key row, summaries.lookup key = some row →
      (key, row) ∈ pairs.map VoteSummaryPair.entry) (key : SummaryKey) :
    (writeVoteSummaries summaries pairs write).lookup key =
      firstRow (pairs.map VoteSummaryPair.entry) key := by
  rw [writeVoteSummaries, if_pos applied, lookup_insertNew]
  cases present : summaries.lookup key with
  | none => rfl
  | some row => exact (firstRow_of_mem nodup (repeated key row present)).symm

namespace AnalysisJob

def RowsRepeated (format : ResultFormat Data) (state : AnalysisJob Data) : Prop :=
  match buildVoteSummaryPairs format state.allOutputs with
  | .error _ => True
  | .ok pairs => ∀ row ∈ state.summaries.entries, (row.1, row.2) ∈ pairs.map VoteSummaryPair.entry

instance decidableRowsRepeated (format : ResultFormat Data) (state : AnalysisJob Data) :
    Decidable (state.RowsRepeated format) := by
  unfold RowsRepeated
  split <;> infer_instance

def KeepsSummaries (format : ResultFormat Data) (state : AnalysisJob Data) :
    AnalysisEvent Data → Prop
  | .pipeline .starts =>
    (∀ name ∈ state.job.registry.analyzers, name ∈ state.job.done) → state.summarized = true
  | .summarizes _ => state.RowsRepeated format
  | _ => True

instance decidableKeepsSummaries (format : ResultFormat Data) (state : AnalysisJob Data)
    (event : AnalysisEvent Data) : Decidable (state.KeepsSummaries format event) := by
  unfold KeepsSummaries
  split <;> infer_instance

structure Sound (format : ResultFormat Data) (registry : Registry) (state : AnalysisJob Data) :
    Prop where
  gathers : state.job.Gathers registry
  agrees : ∀ run, state.job.run = some run → ∀ name ∈ run.outputs,
    format.Agrees (state.allOutputs name) (state.results.lookup name)
  stored : ∀ name ∈ state.results, name ∈ registry.analyzers
  held : ∀ name, name ∉ registry.analyzers → state.allOutputs name = none
  due : state.summarizing = true → ∃ run, state.job.run = some run ∧ run.phase = .due .synthesis
  matched : state.summarized = true → state.SummariesMatch format
  succeeded : state.AnalysisSucceeded → state.summarized = true

variable {format : ResultFormat Data} {registry : Registry} {state next : AnalysisJob Data}
  {event : JobEvent}

theorem Sound.build_eq (sound : state.Sound format registry) {run : JobRun}
    (present : state.job.run = some run) (due : run.phase = .due .synthesis) :
    buildVoteSummaryPairs format state.allOutputs =
      buildVoteSummaryPairs format state.results.lookup := by
  apply buildVoteSummaryPairs_congr
  intro name
  by_cases analyzer : name ∈ registry.analyzers
  · have complete := (sound.gathers.gathered run present).complete
      (by rw [due]; decide) (by rw [due]; decide)
    exact sound.agrees run present name (complete name analyzer)
  · left
    rw [sound.held name analyzer]
    exact (AList.lookup_eq_none.mpr fun mem => analyzer (sound.stored name mem)).symm

theorem Sound.errs (sound : state.Sound format registry) {job : Job}
    (taken : state.job.step .errors = some job) (same : next = { state with
      job, summarizing := false, summaries := next.summaries, summarized := next.summarized })
    (matched : next.summarized = true → next.SummariesMatch format) :
    next.Sound format registry := by
  rw [same] at matched ⊢
  refine
    { sound with
      gathers := sound.gathers.step taken
      agrees := ?_
      due := fun writing => by cases writing
      matched
      succeeded := ?_ }
  · intro run present name produced
    obtain ⟨earlier, found, outputs⟩ := Job.step_outputs taken (by simp) (by simp) present
    exact sound.agrees earlier found name (outputs ▸ produced)
  · rintro ⟨_, run, present, due⟩
    rcases Job.due_synthesis_of_step taken present due with ended | ⟨started, _⟩
    · cases ended
    · cases started

theorem heldAfter_of_ne (starting : event ≠ .starts) :
    state.heldAfter event = state.allOutputs := by
  cases event <;> first | rfl | exact absurd rfl starting

section

variable (sound : state.Sound format registry)
include sound

theorem Sound.pipeline (kept : state.KeepsSummaries format (.pipeline event))
    (taken : state.pipeline event = some next) : next.Sound format registry := by
  have reporting : ∀ name attempt write, event ≠ .analyzerCompletes name attempt write := by
    rintro name attempt write rfl
    cases taken
  have stepped : ∃ job, state.job.step event = some job ∧
      next = { state with
        job, allOutputs := state.heldAfter event, summarizing := passed job event } := by
    unfold AnalysisJob.pipeline at taken
    split at taken
    · cases taken
    · split at taken
      · cases taken
      · obtain ⟨job, stepped, rfl⟩ := map_eq_some_iff.mp taken
        exact ⟨job, stepped, rfl⟩
  obtain ⟨job, stepped, rfl⟩ := stepped
  refine
    { sound with
      gathers := sound.gathers.step stepped
      agrees := ?_
      held := ?_
      due := ?_
      succeeded := ?_ }
  · intro run present name produced
    by_cases starting : event = .starts
    · subst starting
      left
      have listed : name ∈ state.job.registry.analyzers ∧ name ∈ state.job.done := by
        change state.job.starts = some job at stepped
        unfold Job.starts at stepped
        split at stepped
        · cases stepped
          cases present
          obtain ⟨analyzer, done⟩ := mem_filter.mp produced
          exact ⟨analyzer, of_decide_eq_true done⟩
        · cases stepped
      exact if_pos listed
    · obtain ⟨earlier, found, outputs⟩ := Job.step_outputs stepped starting reporting present
      rw [heldAfter_of_ne starting]
      exact sound.agrees earlier found name (outputs ▸ produced)
  · intro name unknown
    by_cases starting : event = .starts
    · subst starting
      exact if_neg fun known => unknown (sound.gathers.registered ▸ known.1)
    · rw [heldAfter_of_ne starting]
      exact sound.held name unknown
  · intro writing
    unfold passed at writing
    split at writing
    · rename_i run present
      exact ⟨run, present, of_decide_eq_true writing⟩
    · cases writing
  · rintro ⟨finished, run, present, due⟩
    rcases Job.due_synthesis_of_step stepped present due with rfl | ⟨rfl, complete⟩
    · change passed job .passEnds = false at finished
      have present : job.run = some run := present
      simp [passed, present, due] at finished
    · exact kept complete

theorem Sound.reports {name : Text} {attempt : Option Text} {output : Data}
    (taken : state.reports format name attempt output write = some next) :
    next.Sound format registry := by
  obtain ⟨job, stepped, rfl⟩ := map_eq_some_iff.mp taken
  obtain ⟨run, pass, present, phase, working, outputs⟩ := Job.step_analyzerCompletes stepped
  obtain ⟨analyzer, absent⟩ := (sound.gathers.gathered run present).working name working
  refine
    { gathers := sound.gathers.step stepped
      agrees := ?_
      stored := ?_
      held := ?_
      due := ?_
      matched := ?_
      succeeded := ?_ }
  · intro later found other produced
    rw [(outputs later found).2] at produced
    by_cases same : other = name
    · subst same
      by_cases stored : write = .stored
      · subst stored
        exact .inr ⟨output, by simp, by simp [Write.applied]⟩
      · rw [if_neg stored] at produced
        exact absurd produced absent
    · have earlier : other ∈ run.outputs := by
        split at produced
        · exact (mem_cons.mp produced).resolve_left same
        · exact produced
      have held : (if write = .stored then update state.allOutputs name (some output)
          else state.allOutputs) other = state.allOutputs other := by
        split
        · exact update_of_ne same _ _
        · rfl
      have stored : (if write.applied then state.results.insert name (format.persisted output)
          else state.results).lookup other = state.results.lookup other := by
        split
        · exact AList.lookup_insert_ne same
        · rfl
      change format.Agrees ((if _ then _ else _ : Text → Option Data) other) _
      rw [held, stored]
      exact sound.agrees run present other earlier
  · intro other mem
    split at mem
    · rcases AList.mem_insert _ |>.mp mem with rfl | earlier
      · exact analyzer
      · exact sound.stored other earlier
    · exact sound.stored other mem
  · intro other unknown
    have ne : other ≠ name := fun same => unknown (same ▸ analyzer)
    simp only
    split_ifs
    · rw [update_of_ne ne]
      exact sound.held other unknown
    · exact sound.held other unknown
  · intro writing
    obtain ⟨earlier, found, due⟩ := sound.due writing
    rw [present] at found
    cases found
    rw [phase] at due
    cases due
  · intro summarized
    rw [Bool.and_eq_true, Bool.not_eq_true'] at summarized
    obtain ⟨summarized, lost⟩ := summarized
    obtain ⟨pairs, built, rows⟩ := sound.matched summarized
    refine ⟨pairs, ?_, rows⟩
    rw [if_neg (by simp [lost])]
    exact built
  · rintro ⟨_, later, found, due⟩
    rcases Job.due_synthesis_of_step stepped found due with ended | ⟨started, _⟩
    · cases ended
    · cases started

theorem Sound.summarizes (repeated : state.RowsRepeated format)
    (taken : state.summarizes format write = some next) : next.Sound format registry := by
  unfold AnalysisJob.summarizes at taken
  split at taken
  case isFalse => cases taken
  rename_i writing
  obtain ⟨run, present, due⟩ := sound.due writing
  have same := sound.build_eq present due
  have rows : ∀ pairs, buildVoteSummaryPairs format state.allOutputs = .ok pairs →
      ∀ key row, state.summaries.lookup key = some row →
        (key, row) ∈ pairs.map VoteSummaryPair.entry := by
    intro pairs built key row found
    unfold RowsRepeated at repeated
    rw [built] at repeated
    exact repeated ⟨key, row⟩ (AList.mem_lookup_iff.mp found)
  split at taken
  · obtain ⟨job, stepped, rfl⟩ := map_eq_some_iff.mp taken
    exact sound.errs stepped rfl sound.matched
  · rename_i built
    cases taken
    have matched : SummariesMatch format { state with summarizing := false, summarized := true } := by
      refine ⟨[], same ▸ built, ?_⟩
      intro key
      cases found : state.summaries.lookup key with
      | none => rfl
      | some row => cases rows [] built key row found
    exact { sound with
      due := fun writing => by cases writing
      matched := fun _ => matched
      succeeded := fun _ => rfl }
  · rename_i pairs _ built
    have matched : ∀ job, (state.summarized || write.applied) = true →
        SummariesMatch format
          { state with
            job
            summaries := writeVoteSummaries state.summaries pairs write
            summarized := state.summarized || write.applied
            summarizing := false } := by
      intro job summarized
      by_cases applied : write.applied = true
      · exact ⟨pairs, same ▸ built, lookup_writeVoteSummaries applied
          (buildVoteSummaryPairs_distinct built) (rows pairs built)⟩
      · rw [Bool.not_eq_true] at applied
        rw [applied, Bool.or_false] at summarized
        obtain ⟨pairs, built, rows⟩ := sound.matched summarized
        refine ⟨pairs, built, ?_⟩
        rw [writeVoteSummaries, if_neg (by simp [applied])]
        exact rows
    split at taken
    · rename_i stored
      cases taken
      exact { sound with
        due := fun writing => by cases writing
        matched := matched state.job
        succeeded := fun _ => by simp [stored, Write.applied] }
    · obtain ⟨job, stepped, rfl⟩ := map_eq_some_iff.mp taken
      exact sound.errs stepped rfl (matched job)

theorem Sound.step {event : AnalysisEvent Data} (kept : state.KeepsSummaries format event)
    (taken : state.step format event = some next) : next.Sound format registry := by
  cases event with
  | pipeline event => exact sound.pipeline kept taken
  | reports name attempt output write => exact sound.reports taken
  | summarizes write => exact sound.summarizes kept taken

end

theorem created_sound (registry : Registry) (names : List Text) :
    (created registry names : AnalysisJob Data).Sound format registry where
  gathers := Job.created_gathers registry names
  agrees run present := by cases present
  stored name mem := absurd mem (AList.notMem_empty name)
  held _ _ := rfl
  due writing := by cases writing
  matched summarized := by cases summarized
  succeeded := by
    rintro ⟨_, run, present, _⟩
    cases present

/-- Over any history of runs that keeps the summaries, each time runAnalysis succeeds the
job's summaries are those of its persisted outputs. -/
theorem summaries_match_persisted_outputs (format : ResultFormat Data) (registry : Registry)
    (names : List Text) {events : List (AnalysisEvent Data)} {final : AnalysisJob Data}
    (keeps : Along (step format) (KeepsSummaries format) (created registry names) events)
    (ran : run (step format) (created registry names) events = some final)
    (succeeded : final.AnalysisSucceeded) : final.SummariesMatch format := by
  have sound : final.Sound format registry :=
    run_invariant_along (fun _ _ _ sound kept taken => sound.step kept taken)
      (created_sound registry names) keeps ran
  exact sound.matched (sound.succeeded succeeded)

section Reanalyzed

theorem acyclic_independent : WellFounded fun (dependency : Text) (_ : Text) =>
    dependency ∈ ([] : List Text) :=
  ⟨fun _ => ⟨_, fun _ edge => by cases edge⟩⟩

def relationshipOnly : Registry where
  analyzers := [relationshipAnalyzer]
  dependsOn := fun _ => []
  distinct := by decide
  registered := by decide
  acyclic := acyclic_independent
  unreserved := by
    intro stage
    cases stage <;> decide

def relationshipStages : List Text :=
  [PipelineStage.candidateGeneration.stageName, PipelineStage.graph.stageName,
    relationshipAnalyzer, PipelineStage.synthesis.stageName]

def matchesFormat : ResultFormat (Option (List SemanticMatchResult)) where
  isEmpty data := data.isNone
  null := some []
  jsonb data := some (data.getD [])
  requires _ := some []
  relationship data := some (data.getD [])
  jsonb_nonempty _ := rfl
  requires_jsonb _ := rfl
  relationship_jsonb _ := rfl
  requires_null := rfl
  relationship_null := rfl

def matchOfType (relationshipType : Text) (confidence : ℚ) : SemanticMatchResult :=
  { sourceID := ['a'], targetID := ['b'], relationshipType, confidence, properties := [] }

def matchKey : SummaryKey :=
  { sourceID := ['a'], targetID := ['b'], analyzerName := relationshipAnalyzer }

def answers (result : SemanticMatchResult) (write : Write) :
    List (AnalysisEvent (Option (List SemanticMatchResult))) :=
  [.pipeline (.attempts relationshipAnalyzer .stored),
    .reports relationshipAnalyzer none (some [result]) .stored, .pipeline .passEnds,
    .summarizes write]

def firstAnswer (result : SemanticMatchResult) (write : Write) :
    List (AnalysisEvent (Option (List SemanticMatchResult))) :=
  [.pipeline .starts, .pipeline .passEnds, .pipeline (.stageStarts .stored),
    .pipeline (.stageCompletes .stored)] ++ answers result write

/-- The graph stage fails, and the retry puts relationship back with it. -/
def reanalyzes (result : SemanticMatchResult) :
    List (AnalysisEvent (Option (List SemanticMatchResult))) :=
  [.pipeline (.stageStarts .stored), .pipeline (.stageCompletes .stored),
    .pipeline (.stageStarts .stored), .pipeline (.stageFails (some []) .stored),
    .pipeline (.ends [] .stored []), .pipeline (.retries .stored), .pipeline .starts,
    .pipeline .passEnds, .pipeline .stageSkipped] ++ answers result .stored

/-- Nothing is put back after the writing of the summaries failed. -/
def resumes : List (AnalysisEvent (Option (List SemanticMatchResult))) :=
  [.pipeline (.ends [] .stored []), .pipeline (.retries .stored), .pipeline .starts]

def equivalentMatch : SemanticMatchResult := matchOfType "EQUIVALENT".toList (9 / 10)

def subsetMatch : SemanticMatchResult := matchOfType "SUBSET_OF".toList (6 / 10)

/-- runAnalysis has succeeded, one result is stored, and the row of its pair is `row`. -/
def showsRow (result : SemanticMatchResult) (row : Option VoteSummary)
    (final : AnalysisJob (Option (List SemanticMatchResult))) : Bool :=
  final.summarizing = false ∧ final.job.run.map JobRun.phase = some (.due .synthesis) ∧
    buildVoteSummaryPairs matchesFormat final.results.lookup = .ok [relationshipPair result] ∧
    final.summaries.lookup matchKey = row

theorem not_summariesMatch_of_showsRow {result : SemanticMatchResult} {row : Option VoteSummary}
    {final : AnalysisJob (Option (List SemanticMatchResult))}
    (shows : showsRow result row final = true)
    (differs : row ≠ firstRow [(relationshipPair result).entry] matchKey) :
    final.AnalysisSucceeded ∧
      buildVoteSummaryPairs matchesFormat final.results.lookup = .ok [relationshipPair result] ∧
      final.summaries.lookup matchKey = row ∧ ¬final.SummariesMatch matchesFormat := by
  obtain ⟨finished, phase, built, found⟩ := of_decide_eq_true shows
  obtain ⟨run, present, due⟩ := map_eq_some_iff.mp phase
  refine ⟨⟨finished, run, present, due⟩, built, found, ?_⟩
  rintro ⟨pairs, builtPairs, rows⟩
  rw [built] at builtPairs
  cases builtPairs
  exact differs (found.symm.trans (rows matchKey))

/-- The retried analyzer answers differently, but its first answer stays summarized; and
with the first writing of the summaries lost, the resumed run succeeds without any. -/
theorem summaries_differ_from_persisted_outputs :
    (∃ final, run (step matchesFormat) (created relationshipOnly relationshipStages)
        (firstAnswer equivalentMatch .stored ++ reanalyzes subsetMatch) = some final ∧
      final.AnalysisSucceeded ∧
      buildVoteSummaryPairs matchesFormat final.results.lookup = .ok [relationshipPair subsetMatch] ∧
      final.summaries.lookup matchKey = some { consensus := "EQUIVALENT".toList, confidence := 9 / 10 } ∧
      ¬final.SummariesMatch matchesFormat) ∧
    ∃ final, run (step matchesFormat) (created relationshipOnly relationshipStages)
        (firstAnswer equivalentMatch .lost ++ resumes) = some final ∧
      final.AnalysisSucceeded ∧
      buildVoteSummaryPairs matchesFormat final.results.lookup = .ok [relationshipPair equivalentMatch] ∧
      final.summaries.lookup matchKey = none ∧ ¬final.SummariesMatch matchesFormat := by
  constructor
  · have shows : (run (step matchesFormat) (created relationshipOnly relationshipStages)
        (firstAnswer equivalentMatch .stored ++ reanalyzes subsetMatch)).any (showsRow subsetMatch
          (some { consensus := "EQUIVALENT".toList, confidence := 9 / 10 })) = true := by
      decide +kernel
    obtain ⟨final, ran, shows⟩ := (any_eq_true _ _).mp shows
    exact ⟨final, ran, not_summariesMatch_of_showsRow shows (by decide +kernel)⟩
  · have shows : (run (step matchesFormat) (created relationshipOnly relationshipStages)
        (firstAnswer equivalentMatch .lost ++ resumes)).any (showsRow equivalentMatch none) = true := by
      decide +kernel
    obtain ⟨final, ran, shows⟩ := (any_eq_true _ _).mp shows
    exact ⟨final, ran, not_summariesMatch_of_showsRow shows (by decide +kernel)⟩

theorem summaries_match_repeated_answer :
    ∃ final, run (step matchesFormat) (created relationshipOnly relationshipStages)
        (firstAnswer equivalentMatch .stored ++ reanalyzes equivalentMatch) = some final ∧
      final.SummariesMatch matchesFormat := by
  have shows : (run (step matchesFormat) (created relationshipOnly relationshipStages)
      (firstAnswer equivalentMatch .stored ++ reanalyzes equivalentMatch)).any (showsRow equivalentMatch
        (some { consensus := "EQUIVALENT".toList, confidence := 9 / 10 })) = true := by
    decide +kernel
  obtain ⟨final, ran, shows⟩ := (any_eq_true _ _).mp shows
  obtain ⟨finished, phase, _, _⟩ := of_decide_eq_true shows
  obtain ⟨last, present, due⟩ := map_eq_some_iff.mp phase
  exact ⟨final, ran, summaries_match_persisted_outputs matchesFormat relationshipOnly
    relationshipStages (by decide +kernel) ran ⟨finished, last, present, due⟩⟩

end Reanalyzed

end AnalysisJob

end CrossCodex.Pipeline
