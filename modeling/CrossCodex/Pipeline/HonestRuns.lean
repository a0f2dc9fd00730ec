/-
The state of a job whose history is honest, and the steps of its stages.
-/

import CrossCodex.Pipeline.HonestRecords
import CrossCodex.Pipeline.RunLinks

namespace CrossCodex.Pipeline

open Library ResultCache List Function

theorem subject_apart (identity : JobIdentity) (sha256 : Bytes → Text) :
    Digests.Apart (identity.subject sha256).uri := by
  intro name
  constructor
  · intro same
    apply getLast?_jobURI identity.canonical
    exact (congrArg List.getLast? same).trans (getLast?_outputURI name)
  · intro same
    apply getLast?_jobURI identity.canonical
    exact (congrArg List.getLast? same).trans (getLast?_cacheManifestURI name)

variable {name : Text}

theorem lookup_map_self {Value : Type} {names : List Text} {value : Text → Value}
    (mem : name ∈ names) :
    (names.map fun name => (name, value name)).lookup name = some (value name) := by
  induction names with
  | nil => cases mem
  | cons first rest ih =>
    rw [map_cons, lookup_cons]
    by_cases same : name = first
    · rw [same, beq_self_eq_true]
    · rw [beq_false_of_ne same]
      exact ih ((mem_cons.mp mem).resolve_left same)

namespace AttestedJob

variable {sha256 : Bytes → Text} {key : Text} {registry : Registry} {state next : AttestedJob}
  {execution : Execution} {run : JobRun} {step : Text} {record : Text → Text} {event : JobEvent}

def signedSynthesis (state : AttestedJob) : Text :=
  match state.stored.links synthesisStep with
  | some (.signed _ link) => (artifactDigest link.products (outputURI synthesisStep)).getD []
  | _ => []

def digests (sha256 : Bytes → Text) (state : AttestedJob) (record : Text → Text) : Digests where
  output name := resultDigest sha256 ((state.results name).getD [])
  record := record
  synthesis := state.signedSynthesis

theorem digests_congr (results : next.results = state.results)
    (links : next.stored.links synthesisStep = state.stored.links synthesisStep)
    (record : Text → Text) : next.digests sha256 record = state.digests sha256 record := by
  unfold digests signedSynthesis
  rw [results, links]

def StageKept (sha256 : Bytes → Text) (key : Text) (state : AttestedJob) (step : Text) : Prop :=
  ∀ record, state.stored.links step = some (.signed key
    ((state.digests sha256 record).link state.registry (state.subject sha256) step))

theorem StageKept.transport (kept : StageKept sha256 key state step)
    (identity : next.identity = state.identity) (registry : next.registry = state.registry)
    (results : next.results = state.results)
    (synthesis : next.stored.links synthesisStep = state.stored.links synthesisStep)
    (here : next.stored.links step = state.stored.links step) : StageKept sha256 key next step := by
  intro record
  unfold AttestedJob.subject
  rw [here, digests_congr results synthesis, registry, identity]
  exact kept record

structure Resumed (sha256 : Bytes → Text) (key : Text) (state : AttestedJob)
    (execution : Execution) (run : JobRun) : Prop where
  valid : execution.failure ≠ some .invalid
  chained : graphStep ∈ run.completed → synthesisStep ∈ run.completed
  analyzed : synthesisStep ∈ run.completed →
    ∀ name ∈ state.registry.analyzers, name ∈ run.completed
  recorded : ∀ name ∈ run.outputs, name ∈ run.completed ∨ name ∈ execution.cacheRuns.map Prod.fst
  unsigned : ∀ name ∈ state.registry.analyzers, name ∈ run.completed →
    state.pointer name = none → state.Unsigned name
  linking : execution.failure = none → ∃ record,
    Linking key state.registry (state.subject sha256) (state.digests sha256 record) execution run

structure Honest (registry : Registry) (sha256 : Bytes → Text) (key : Text) (state : AttestedJob) :
    Prop where
  sound : Sound registry sha256 state
  tracks : state.job.Tracks registry
  filed : Filed sha256 key state
  results : ∀ name ∈ state.registry.analyzers, name ∈ state.job.done → state.results name ≠ none
  kept : ∀ step ∈ linkedPipelineStages, step ∈ state.job.done → StageKept sha256 key state step
  live : ∀ execution run, state.execution = some execution → state.job.run = some run →
    Resumed sha256 key state execution run

/-- A run begins over completed stages whose inputs are completed, and over no analyzer
without a pointer whose completion was signed; and it finalizes before its layout expires. -/
def ResumesCoherently (state : AttestedJob) : AttestedEvent → Prop
  | .begins _ _ =>
    (graphStep ∈ state.job.done → synthesisStep ∈ state.job.done) ∧
      (synthesisStep ∈ state.job.done →
        ∀ name ∈ state.registry.analyzers, name ∈ state.job.done) ∧
      ∀ name ∈ state.registry.analyzers, name ∈ state.job.done → state.pointer name = none →
        state.Unsigned name
  | .finalizes now _ =>
    ∀ execution ∈ state.execution, ∀ layout ∈ execution.layout, now ≤ layout.expires
  | _ => True

/-- Only the execution and the stored layout, links and bundle may differ. -/
structure Frame (next state : AttestedJob) : Prop where
  job : next.job = state.job
  identity : next.identity = state.identity
  results : next.results = state.results
  tables : next.tables = state.tables
  seals : next.seals = state.seals
  checkpoints : next.stored.checkpoints = state.stored.checkpoints

theorem Frame.registered (frame : Frame next state) : next.registry = state.registry := by
  unfold AttestedJob.registry
  rw [frame.job]

theorem Resumed.frame (resumed : Resumed sha256 key state execution run) {later : Execution}
    (frame : Frame next state) (cacheRuns : later.cacheRuns = execution.cacheRuns)
    (valid : later.failure ≠ some .invalid) (linking : later.failure = none → ∃ record,
      Linking key next.registry (next.subject sha256) (next.digests sha256 record) later run) :
    Resumed sha256 key next later run where
  valid := valid
  chained := resumed.chained
  analyzed := by
    rw [frame.registered]
    exact resumed.analyzed
  recorded := by
    rw [cacheRuns]
    exact resumed.recorded
  unsigned := by
    unfold AttestedJob.pointer Unsigned
    rw [frame.registered, frame.job, frame.seals, frame.checkpoints, frame.identity]
    exact resumed.unsigned
  linking := linking

theorem storedLink_of_kept (kept : StageKept sha256 key state step) (record : Text → Text) :
    state.storedLink sha256 key step = .ok [(state.digests sha256 record).signedLink key
      state.registry (state.subject sha256) step] := by
  have present : state.subject sha256 ∈ ((state.digests sha256 record).link state.registry
      (state.subject sha256) step).materials :=
    Digests.subject_mem_link (subject_apart state.identity sha256) step
  have named : ((state.digests sha256 record).link state.registry (state.subject sha256) step).step =
    step := rfl
  unfold storedLink
  rw [kept record]
  simp only [Envelope.verify, if_true, named, present, and_self, Digests.link_products]
  rfl

theorem loadStoredLinks_of_kept {completed : List Text}
    (kept : ∀ step ∈ linkedPipelineStages, step ∈ completed → StageKept sha256 key state step)
    (record : Text → Text) : ∃ links,
      state.loadStoredLinks sha256 key completed = .ok links ∧
      links.map SignedLink.step = (linkedPipelineStages.filter fun step => step ∈ completed) ∧
      ∀ link ∈ links, IsHonest key state.registry (state.subject sha256)
        (state.digests sha256 record) link := by
  refine ⟨(linkedPipelineStages.filter fun step => step ∈ completed).map
    ((state.digests sha256 record).signedLink key state.registry (state.subject sha256)),
    gatherEach_eq_map fun step mem => ?_, ?_, ?_⟩
  · obtain ⟨stage, known⟩ := mem_filter.mp mem
    exact storedLink_of_kept (kept step stage (of_decide_eq_true known)) record
  · rw [map_map]
    exact map_id _
  · intro link mem
    obtain ⟨step, listed, rfl⟩ := mem_map.mp mem
    exact ⟨mem_append_right _ (mem_of_mem_filter listed), rfl, rfl⟩

section

variable (results : ∀ name ∈ state.registry.analyzers, state.results name ≠ none)
include results

theorem resultDigests_eq (record : Text → Text) :
    state.resultDigests sha256 = .ok (state.registry.analyzers.map fun name =>
      (name, (state.digests sha256 record).output name)) := by
  apply gatherEach_eq_map
  intro name analyzer
  cases stored : state.results name with
  | none => exact absurd stored (results name analyzer)
  | some data =>
    simp only [digests, stored]
    rfl

theorem analyzerLinks_eq_ok {links : List Link}
    (read : state.analyzerLinks sha256 execution = .ok links) : ∃ record,
      links.map Link.step = state.registry.analyzers ∧
      ∀ link ∈ links,
        link.materials = (state.digests sha256 record).materials state.registry link.step ∧
        link.products = (state.digests sha256 record).products link.step := by
  unfold analyzerLinks at read
  rw [resultDigests_eq results fun _ => []] at read
  simp only at read
  split at read
  · cases read
  rename_i records _
  cases read
  refine ⟨fun name => ((records.lookup name).map AnalyzerCacheRecord.digest).getD [], ?_, ?_⟩
  · rw [map_map]
    exact map_id _
  · intro link mem
    obtain ⟨name, analyzer, rfl⟩ := mem_map.mp mem
    have output : ∀ other ∈ state.registry.analyzers,
        (⟨outputURI other, ((state.registry.analyzers.map fun name =>
          (name, (state.digests sha256 fun _ => []).output name)).lookup other).getD []⟩ : Artifact) =
        (state.digests sha256 fun name =>
          ((records.lookup name).map AnalyzerCacheRecord.digest).getD []).outputOf other := by
      intro other known
      rw [lookup_map_self known]
      unfold Digests.outputOf
      rw [if_neg (state.registry.analyzer_ne_stage known).1]
      rfl
    obtain ⟨notSynthesis, notGraph⟩ := state.registry.analyzer_ne_stage analyzer
    simp only [analyzerLink, Digests.materials, Digests.products, if_neg notSynthesis,
      if_neg notGraph, output name analyzer, and_true]
    congr 1
    apply map_congr_left
    intro dep edge
    exact output dep (state.registry.registered name analyzer dep edge)

theorem analyzerLinks_ne_invalid (records : ∀ name ∈ state.registry.analyzers,
      state.recordOf sha256 execution name ≠ .error .invalid) :
    state.analyzerLinks sha256 execution ≠ .error .invalid := by
  intro refused
  unfold analyzerLinks at refused
  rw [resultDigests_eq results fun _ => []] at refused
  simp only at refused
  split at refused
  · rename_i failure outcome
    cases refused
    obtain ⟨name, analyzer, failed⟩ := gatherEach_eq_error outcome
    split at failed
    · rename_i cause recorded
      cases failed
      exact records name analyzer recorded
    · cases failed
  · cases refused

end

theorem verifyChain_of_linking {now : Nat} (attesting : Attesting sha256 state execution run)
    (signer : execution.key = key)
    (linking : Linking key state.registry (state.subject sha256) (state.digests sha256 record)
      execution run) (phase : run.phase = .finalizing)
    (unexpired : ∀ layout ∈ execution.layout, now ≤ layout.expires) :
    verifyChain execution.key now execution.layout (execution.links.map SignedLink.raw)
      (state.subject sha256) = .ok (state.subject sha256).digest := by
  obtain ⟨_, laid⟩ := linking.through (by rw [phase]; decide) (by rw [phase]; decide)
  obtain ⟨layout, present⟩ := Option.isSome_iff_exists.mp laid
  obtain ⟨_, layoutKey, layoutSteps⟩ := attesting.laid layout present
  have whole : layout = ⟨execution.key, state.registry.layoutSteps (state.subject sha256).uri,
      layout.expires⟩ := by
    cases layout
    simp only at layoutKey layoutSteps
    rw [layoutKey, layoutSteps]
  apply (verifyChain_eq_ok (subject_digest_ne_nil state.identity sha256)).mpr
  refine ⟨rfl, layout, execution.links.map fun link => (state.digests sha256 record).link
    state.registry (state.subject sha256) link.step, present, ?_, ?_⟩
  · rw [map_map]
    apply map_congr_left
    intro link mem
    rw [(linking.honest link mem).2.1, signer]
    rfl
  · rw [whole]
    apply Digests.chainHolds
    · exact subject_apart state.identity sha256
    · intro link mem
      obtain ⟨held, _, rfl⟩ := mem_map.mp mem
      rfl
    · intro empty
      cases empty
    · exact unexpired layout present
    · rw [map_map]
      exact linking.steps_perm phase (attesting.loaded_of_layout laid)

theorem stageKept_of_stored (stage : step ∈ linkedPipelineStages)
    (stored : state.stored.links step = some (.signed key
      ((state.digests sha256 record).link state.registry (state.subject sha256) step))) :
    StageKept sha256 key state step := by
  intro other
  obtain ⟨materials, products⟩ :=
    (state.digests sha256 record).stage_congr (state.digests sha256 other) rfl rfl stage
  unfold Digests.link at stored ⊢
  rw [materials, products]
  exact stored

theorem pointer_of_step (tracks : state.job.Tracks registry)
    (taken : state.job.step event = some next.job) (done : name ∈ next.job.done)
    (other : ∀ row, state.job.Completes event row → row.stageName ≠ name) :
    next.pointer name = state.pointer name := by
  obtain ⟨row, mem, completed, rfl⟩ := mem_completedStageSet.mp done
  rcases Job.step_completed_row taken mem completed with kept | completes
  · rw [pointer_eq (tracks.step taken) mem, pointer_eq tracks kept]
  · exact absurd rfl (other row completes)

variable (honest : Honest registry sha256 key state) {job : Job}
include honest

theorem Honest.stay (sound : Sound registry sha256 next) (filed : Filed sha256 key next)
    (job : next.job = state.job) (results : next.results = state.results)
    (kept : ∀ step ∈ linkedPipelineStages, step ∈ state.job.done → StageKept sha256 key next step)
    (live : ∀ later current, next.execution = some later → state.job.run = some current →
      Resumed sha256 key next later current) : Honest registry sha256 key next where
  sound := sound
  tracks := job ▸ honest.tracks
  filed := filed
  results := by
    unfold AttestedJob.registry
    rw [job, results]
    exact honest.results
  kept step stage done := kept step stage (job ▸ done)
  live later current present going := live later current present (job ▸ going)

section Acts

variable (live : state.execution = some execution) (present : state.job.run = some run)
  (admitted : execution.admits run.phase event = true) (taken : state.job.step event = some job)
include admitted

omit honest in
theorem not_analyzerCompletes (name : Text) (attempt : Option Text) (write : Write) :
    event ≠ .analyzerCompletes name attempt write := by
  rintro rfl
  cases admitted

omit honest in
/-- An analyzer is completed by the other event only. -/
theorem stageName_ne_of_completes (analyzer : name ∈ state.job.registry.analyzers) {row : StageRow}
    (completes : state.job.Completes event row) : row.stageName ≠ name := by
  intro named
  cases completes with
  | analyzer _ _ _ _ => exact not_analyzerCompletes admitted _ _ _ rfl
  | @stage _ stage _ _ _ _ _ at_ =>
    exact state.job.registry.unreserved stage (at_.symm.trans named ▸ analyzer)

include live present taken

theorem Honest.acts_kept (stage : step ∈ linkedPipelineStages) (done : step ∈ job.done) :
    StageKept sha256 key state step := by
  have resumed := honest.live execution run live present
  have tracked := honest.tracks.run run present
  rcases Job.step_done taken done with earlier | ⟨_, attempt, write, rfl, _⟩ |
    ⟨current, write, executing, rfl, found, phase, rfl⟩
  · exact honest.kept step stage earlier
  · exact absurd rfl (not_analyzerCompletes admitted _ _ _)
  · obtain rfl := Option.some.inj (present.symm.trans found)
    have linked : executing ≠ .candidateGeneration := by
      rintro rfl
      exact absurd stage (by decide)
    rw [phase] at admitted
    simp only [Execution.admits, Bool.and_eq_true, Bool.or_eq_true, decide_eq_true_eq,
      Option.isNone_iff_eq_none, JobPhase.executing.injEq, linked, false_or] at admitted
    obtain ⟨free, sent⟩ := admitted
    obtain ⟨record, linking⟩ := resumed.linking free
    have going : run.phase.rank < 9 := by
      rw [phase]
      cases executing <;> decide
    have listed := (linking.stages executing linked going).mpr
      (.inr ⟨tracked.executing executing phase, .inr ⟨phase, sent⟩⟩)
    obtain ⟨link, mem, named⟩ := mem_map.mp listed
    have stored := (honest.sound.attesting execution run live present).kept free link
      (lastLink_of_nodup linking.distinct mem)
    rw [(linking.honest link mem).2.1, named] at stored
    exact stageKept_of_stored stage stored

theorem Honest.acts_resumed {current : JobRun} (going : job.run = some current) :
    Resumed sha256 key { state with job, execution := some (execution.after event) }
      (execution.after event) current := by
  have resumed := honest.live execution run live present
  have same : job.registry = state.job.registry := Job.step_registry taken
  have starting : event ≠ .starts := by
    rintro rfl
    cases admitted
  obtain ⟨completed, moved⟩ := Job.step_phase taken present going
  obtain ⟨earlier, before, outputs⟩ :=
    Job.step_outputs taken starting (not_analyzerCompletes admitted) going
  obtain rfl := Option.some.inj (present.symm.trans before)
  have failure := (execution.continues_after event).failure
  have cacheRuns : (execution.after event).cacheRuns = execution.cacheRuns := by
    cases event <;> rfl
  refine ⟨?_, ?_, ?_, ?_, ?_, ?_⟩
  · rw [failure]
    exact resumed.valid
  · rw [completed]
    exact resumed.chained
  · rw [completed]
    change _ → ∀ name ∈ job.registry.analyzers, _
    rw [same]
    exact resumed.analyzed
  · rw [outputs, completed, cacheRuns]
    exact resumed.recorded
  · intro name analyzer known pointer
    change name ∈ job.registry.analyzers at analyzer
    rw [same] at analyzer
    have done := (honest.tracks.step taken).run current going |>.loaded name known
    rw [completed] at known
    rw [pointer_of_step honest.tracks taken done
      fun _ => stageName_ne_of_completes admitted analyzer] at pointer
    exact resumed.unsigned name analyzer known pointer
  · intro free
    rw [failure] at free
    obtain ⟨record, linking⟩ := resumed.linking free
    refine ⟨record, ?_⟩
    change Linking key job.registry _ _ _ _
    rw [same]
    exact linking.moves moved completed (honest.tracks.run run present).executing admitted

theorem Honest.acts
    (sound : Sound registry sha256 { state with
      job, execution := if job.run.isSome then some (execution.after event) else none }) :
    Honest registry sha256 key { state with
      job, execution := if job.run.isSome then some (execution.after event) else none } := by
  have same : job.registry = state.job.registry := Job.step_registry taken
  refine ⟨sound, honest.tracks.step taken, ?_, ?_, ?_, ?_⟩
  · refine honest.filed.frame rfl same rfl rfl rfl ?_ ?_
    · intro row mem completed analyzer
      rcases Job.step_completed_row taken mem completed with kept | completes
      · exact .inl kept
      · exact absurd rfl (stageName_ne_of_completes admitted analyzer completes)
    · intro later found
      split at found
      · cases found
        refine ⟨?_, fun entry mem => ⟨execution, live, ?_⟩⟩
        · exact (execution.continues_after event).key.trans (honest.filed.live execution live).1
        · cases event <;> exact mem
      · cases found
  · intro name analyzer done
    change name ∈ job.registry.analyzers at analyzer
    rw [same] at analyzer
    obtain ⟨row, mem, completed, rfl⟩ := mem_completedStageSet.mp done
    rcases Job.step_completed_row taken mem completed with kept | completes
    · exact honest.results _ analyzer (mem_completedStageSet.mpr ⟨row, kept, completed, rfl⟩)
    · exact absurd rfl (stageName_ne_of_completes admitted analyzer completes)
  · intro step stage done
    exact (honest.acts_kept live present admitted taken stage done).transport rfl same rfl rfl rfl
  · intro later current found going
    change job.run = some current at going
    simp only [going, Option.isSome_some, if_true, Option.some.injEq] at found
    subst found
    simp only [going, Option.isSome_some, if_true]
    exact honest.acts_resumed live present admitted taken going

end Acts

theorem Honest.begins {wired : Bool} (started : state.job.starts = some job)
    (coherent : state.ResumesCoherently (.begins key wired))
    (sound : Sound registry sha256 { state with
      job, execution := some (Execution.start key wired), runs := state.runs + 1 }) :
    Honest registry sha256 key { state with
      job, execution := some (Execution.start key wired), runs := state.runs + 1 } := by
  have taken : state.job.step .starts = some job := started
  obtain ⟨chained, analyzed, unsigned⟩ := coherent
  unfold Job.starts at started
  split_ifs at started with startable
  cases started
  refine ⟨sound, honest.tracks.step taken, ?_, honest.results, honest.kept, ?_⟩
  · refine honest.filed.frame rfl rfl rfl rfl rfl (fun _ mem _ _ => .inl mem) ?_
    intro later found
    cases found
    exact ⟨rfl, fun _ mem => by cases mem⟩
  · intro later current found going
    cases found
    cases going
    refine ⟨by simp [Execution.start], chained, analyzed, ?_, unsigned, ?_⟩
    · intro name mem
      exact .inl (of_decide_eq_true (mem_filter.mp mem).2)
    · intro _
      refine ⟨fun _ => [], Linking.start wired ?_⟩
      simp only
      split
      · exact .inl rfl
      · exact .inr (by decide)

theorem Honest.stages_open (live : state.execution = some execution)
    (present : state.job.run = some run) (working : name ∈ run.active) {pass : Pass}
    (phase : run.phase = .passing pass) :
    ∀ step ∈ linkedPipelineStages, step ∉ run.completed ∧ step ∉ state.job.done := by
  have resumed := honest.live execution run live present
  have tracked := honest.tracks.run run present
  have analyzer := (tracked.working name working).1
  have synthesis : synthesisStep ∉ run.completed := by
    intro completed
    exact (tracked.working name working).2
      (tracked.loaded name (resumed.analyzed completed name analyzer))
  have unknown : ∀ step ∈ linkedPipelineStages, step ∉ run.completed := by
    intro step stage
    rcases mem_pair.mp stage with rfl | rfl
    · exact synthesis
    · exact fun completed => synthesis (resumed.chained completed)
  intro step stage
  refine ⟨unknown step stage, fun done => ?_⟩
  have open_ := unknown step stage
  rcases mem_pair.mp stage with rfl | rfl
  · rcases tracked.ahead .synthesis done with loaded | passed
    · exact open_ loaded
    · rw [phase] at passed
      cases pass <;> exact absurd passed (by decide)
  · rcases tracked.ahead .graph done with loaded | passed
    · exact open_ loaded
    · rw [phase] at passed
      cases pass <;> exact absurd passed (by decide)

section AnalyzerCompletes

variable (live : state.execution = some execution) (present : state.job.run = some run)
  {cacheRun : AnalyzerCacheRun} {result : Bytes} {write : Write} {pass : Pass}
  (taken : state.job.step (.analyzerCompletes name cacheRun.attempt write) = some job)
  (phase : run.phase = .passing pass) (working : name ∈ run.active)

include taken in
theorem Honest.completes_results {other : Text} (known : other ∈ state.job.registry.analyzers)
    (done : other ∈ job.done) :
    (if write.applied then update state.results name (some result) else state.results) other ≠
      none := by
  rcases Job.step_done taken done with earlier | ⟨_, _, _, event, applied, _⟩ | ⟨_, _, _, event, _⟩
  · have stored := honest.results other known earlier
    split
    · by_cases again : other = name
      · rw [again, update_self]
        simp
      · rw [update_of_ne again]
        exact stored
    · exact stored
  · cases event
    rw [if_pos applied, update_self]
    simp
  · cases event

include live present working

include taken phase in
theorem Honest.completes_open (stage : step ∈ linkedPipelineStages) : step ∉ job.done := by
  intro done
  rcases Job.step_done taken done with earlier | ⟨_, _, _, event, _⟩ | ⟨_, _, _, event, _⟩
  · exact (honest.stages_open live present working phase step stage).2 earlier
  · cases event
    have analyzer := ((honest.tracks.run run present).working name working).1
    obtain ⟨notSynthesis, notGraph⟩ := state.job.registry.analyzer_ne_stage analyzer
    rcases mem_pair.mp stage with again | again
    · exact notSynthesis again
    · exact notGraph again
  · cases event

include phase in
theorem Honest.completes_linking (free : execution.failure = none) (digests : Digests) :
    Linking key state.registry (state.subject sha256) digests execution run := by
  have open_ := honest.stages_open live present working phase
  obtain ⟨record, linking⟩ := (honest.live execution run live present).linking free
  obtain ⟨none, unread⟩ := linking.no_links phase fun step stage => (open_ step stage).1
  apply linking.recast
  · rw [none]
    exact fun _ mem => by cases mem
  · rw [unread]
    exact fun _ found => by cases found

include taken

theorem Honest.completes_resumed {current : JobRun} (going : job.run = some current)
    (results : Text → Option Bytes) (completedIn : Text → Option Nat) {later : Execution}
    (step : later = { execution with
      cacheRuns := if write = .stored then (name, cacheRun) :: execution.cacheRuns
        else execution.cacheRuns }) :
    Resumed sha256 key
      { state with job, results, completedIn, execution := some later } later current := by
  subst step
  obtain ⟨_, pass, found, phase, _, outputs⟩ := Job.step_analyzerCompletes taken
  obtain rfl := Option.some.inj (present.symm.trans found)
  have resumed := honest.live execution run live present
  have same : job.registry = state.job.registry := Job.step_registry taken
  obtain ⟨completed, _⟩ := Job.step_phase taken present going
  obtain ⟨still, held⟩ := outputs current going
  refine ⟨resumed.valid, ?_, ?_, ?_, ?_, ?_⟩
  · rw [completed]
    exact resumed.chained
  · rw [completed]
    change _ → ∀ name ∈ job.registry.analyzers, _
    rw [same]
    exact resumed.analyzed
  · rw [held, completed]
    intro other mem
    by_cases stored : write = .stored
    · simp only [if_pos stored] at mem ⊢
      rcases mem_cons.mp mem with rfl | earlier
      · exact .inr mem_cons_self
      · exact (resumed.recorded other earlier).imp_right (mem_cons_of_mem _)
    · simp only [if_neg stored] at mem ⊢
      exact resumed.recorded other mem
  · intro other known loaded pointer
    change other ∈ job.registry.analyzers at known
    rw [same] at known
    have tracked := honest.tracks.run run present
    have done := (honest.tracks.step taken).run current going |>.loaded other loaded
    rw [completed] at loaded
    rw [pointer_of_step honest.tracks taken done ?_] at pointer
    · exact resumed.unsigned other known loaded pointer
    · intro row completes named
      cases completes with
      | analyzer _ _ _ at_ _ =>
        rw [at_] at named
        exact (tracked.working name working).2 (named ▸ tracked.loaded other loaded)
  · intro free
    refine ⟨fun _ => [], ?_⟩
    change Linking key job.registry _ _ _ _
    rw [same]
    refine Linking.ofRun ?_ still completed
    exact (honest.completes_linking live present phase working free _).transport rfl rfl rfl rfl id

omit working in
theorem Honest.analyzerCompletes (sealedRun : state.sealedBy execution name cacheRun = true)
    (step : next = state.storesResult execution job name cacheRun result write)
    (sound : Sound registry sha256 next) :
    Honest registry sha256 key next := by
  subst step
  obtain ⟨_, pass, found, phase, working, _⟩ := Job.step_analyzerCompletes taken
  obtain rfl := Option.some.inj (present.symm.trans found)
  have same : job.registry = state.job.registry := Job.step_registry taken
  refine ⟨sound, honest.tracks.step taken, honest.filed.analyzerCompletes live sealedRun taken,
    ?_, ?_, ?_⟩
  · intro other known done
    exact honest.completes_results taken (same ▸ known) done
  · intro step stage done
    exact absurd done (honest.completes_open live present taken phase working stage)
  · intro later current found going
    cases found
    exact honest.completes_resumed live present taken working going _ _ rfl

end AnalyzerCompletes

theorem Honest.sealsAttempt (live : state.execution = some execution)
    (present : state.job.run = some run) {record : Manifest} {put : Write} {link : Link}
    (working : record.analyzer ∈ run.active) (canonical : canonicalAttempt record.attempt = true)
    (filed : Filed sha256 key (state.storesCheckpoint sha256 execution record link put))
    (sound : Sound registry sha256 (state.storesCheckpoint sha256 execution record link put)) :
    Honest registry sha256 key (state.storesCheckpoint sha256 execution record link put) := by
  have resumed := honest.live execution run live present
  have tracked := honest.tracks.run run present
  refine honest.stay sound filed rfl rfl honest.kept ?_
  intro later current found going
  cases found
  obtain rfl := Option.some.inj (present.symm.trans going)
  refine ⟨resumed.valid, resumed.chained, resumed.analyzed, resumed.recorded, ?_, ?_⟩
  · intro name analyzer known pointer sealed mem named statistics listed
    have idle : record.analyzer ≠ name := by
      intro same
      exact (tracked.working _ working).2 (same ▸ tracked.loaded name known)
    rcases mem_cons.mp mem with rfl | earlier
    · exact idle named
    · have absent := resumed.unsigned name analyzer known pointer sealed earlier named statistics
      have attempted := (honest.filed.own sealed earlier).2.1
      change checkpointKey _ _ name _ ∈ (if put.applied then _ else _ : Objects).map Prod.fst
        at listed
      split at listed
      · rcases mem_cons.mp listed with same | old
        · have keys : (state.checkpointsOf sha256 key).keyOf name sealed.record.attempt =
              (state.checkpointsOf sha256 key).keyOf record.analyzer record.attempt := same
          exact idle (CacheCheckpoints.keyOf_injective attempted canonical keys).1.symm
        · exact absent old
      · exact absent listed
  · intro free
    obtain ⟨records, linking⟩ := resumed.linking free
    exact ⟨records, linking.transport rfl rfl rfl rfl id⟩

end AttestedJob

end CrossCodex.Pipeline
