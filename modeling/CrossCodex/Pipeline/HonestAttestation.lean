/-
Whether a job's own attestation is accepted. It is, as long as a resumed run finds graph
completed only over synthesis, synthesis only over analyzers, no completed analyzer without
a pointer over a signed completion, and a layout that has not expired. Retries do not keep
this.
-/

import CrossCodex.Pipeline.HonestRuns

namespace CrossCodex.Pipeline

open Library ResultCache List Function

namespace AttestedJob

variable {sha256 : Bytes → Text} {key : Text} {registry : Registry} {state next : AttestedJob}
  {execution : Execution} {run : JobRun}

variable {link : Link} {put : Write} {proceed : Execution → Execution}

theorem createsLink_frame :
    Frame (state.createsLink sha256 execution link put proceed) state ∧
      ∀ step, step ≠ link.step →
        (state.createsLink sha256 execution link put proceed).stored.links step =
          state.stored.links step := by
  have elsewhere : ∀ step, step ≠ link.step → ∀ raw,
      (state.putLink link.step put raw).stored.links step = state.stored.links step := by
    intro step other raw
    change (if put.applied then _ else _ : Text → Option Envelope) step = _
    split
    · exact update_of_ne other ..
    · rfl
  rcases @createsLink_cases sha256 state execution link put proceed with
    ⟨rfl, created⟩ | ⟨_, created⟩
  all_goals
    rw [created]
    exact ⟨⟨rfl, rfl, rfl, rfl, rfl, rfl⟩, fun step other => elsewhere step other _⟩

theorem digests_createsSynthesis {digest : Text} (step : link.step = synthesisStep)
    (products : link.products = [⟨outputURI synthesisStep, digest⟩]) (record : Text → Text) :
    (state.createsLink sha256 execution link .stored proceed).digests sha256 record =
      { state.digests sha256 record with synthesis := digest } := by
  have stored : (state.createsLink sha256 execution link .stored proceed).stored.links
      synthesisStep = some (state.signs sha256 execution link).raw := by
    rw [← step]
    exact update_self ..
  obtain ⟨kept, _⟩ := @createsLink_frame sha256 state execution link .stored proceed
  unfold digests signedSynthesis
  rw [stored, kept.results]
  simp [signs, createLink, products, stepLink, artifactsToHashObj, artifactDigest]

section

variable (honest : Honest registry sha256 key state) {event : AttestedEvent}
include honest

section

variable (live : state.execution = some execution)
include live

variable (present : state.job.run = some run) {result : Bytes}
include present

theorem Honest.proceeds {later : Execution} (frame : Frame next state)
    (continued : next.execution = some later) (signer : later.key = execution.key)
    (stored : later.stored = execution.stored) (cacheRuns : later.cacheRuns = execution.cacheRuns)
    (links : ∀ step ∈ linkedPipelineStages, step ∈ state.job.done →
      next.stored.links step = state.stored.links step ∧
        next.stored.links synthesisStep = state.stored.links synthesisStep)
    (valid : later.failure ≠ some .invalid) (linking : later.failure = none → ∃ record,
      Linking key state.registry (state.subject sha256) (next.digests sha256 record) later run)
    (sound : Sound registry sha256 next) : Honest registry sha256 key next := by
  refine honest.stay sound ?_ frame.job frame.results ?_ ?_
  · refine honest.filed.frame frame.identity frame.registered frame.tables frame.checkpoints
      frame.seals (fun row mem _ _ => .inl (frame.job ▸ mem)) ?_
    intro other found
    rw [continued] at found
    cases found
    refine ⟨signer.trans (honest.filed.live execution live).1, fun entry mem => ?_⟩
    exact ⟨execution, live, stored ▸ mem⟩
  · intro step stage done
    obtain ⟨here, synthesis⟩ := links step stage done
    exact (honest.kept step stage done).transport frame.identity frame.registered frame.results
      synthesis here
  · intro other current found going
    rw [continued] at found
    cases found
    obtain rfl := Option.some.inj (present.symm.trans going)
    refine (honest.live execution run live present).frame frame cacheRuns valid fun free => ?_
    unfold AttestedJob.subject
    rw [frame.registered, frame.identity]
    exact linking free

theorem Honest.fails {failure : AttestationFailure} (fault : failure ≠ .invalid)
    (sound : Sound registry sha256 (state.failWith execution failure)) :
    Honest registry sha256 key (state.failWith execution failure) :=
  honest.proceeds live present ⟨rfl, rfl, rfl, rfl, rfl, rfl⟩ rfl rfl rfl rfl
    (fun _ _ _ => ⟨rfl, rfl⟩) (fun same => fault (Option.some.inj same))
    (fun free => by cases free) sound

theorem Honest.createsLink (frame : ∀ given : Execution, (proceed given).key = given.key ∧
      (proceed given).stored = given.stored ∧ (proceed given).failure = given.failure ∧
      (proceed given).cacheRuns = given.cacheRuns)
    (open_ : link.step ∈ linkedPipelineStages → link.step ∉ state.job.done)
    (unused : link.step = synthesisStep → graphStep ∉ state.job.done)
    (linking : put = .stored → ∃ record, Linking key state.registry (state.subject sha256)
      ((state.createsLink sha256 execution link put proceed).digests sha256 record)
      (proceed (state.keepsLink sha256 execution link)) run)
    (sound : Sound registry sha256 (state.createsLink sha256 execution link put proceed)) :
    Honest registry sha256 key (state.createsLink sha256 execution link put proceed) := by
  obtain ⟨kept, links⟩ := @createsLink_frame sha256 state execution link put proceed
  have apart : ∀ step ∈ linkedPipelineStages, step ∈ state.job.done →
      step ≠ link.step ∧ synthesisStep ≠ link.step := by
    intro step stage done
    have ne : step ≠ link.step := fun same => open_ (same ▸ stage) (same ▸ done)
    rcases mem_pair.mp stage with rfl | rfl
    · exact ⟨ne, ne⟩
    · exact ⟨ne, fun same => unused same.symm done⟩
  have older := fun step stage done =>
    And.intro (links step (apart step stage done).1) (links _ (apart step stage done).2)
  rcases @createsLink_cases sha256 state execution link put proceed with
    ⟨stored, created⟩ | ⟨_, created⟩
  · obtain ⟨sameKey, sameStored, sameFailure, sameRuns⟩ :=
      frame (state.keepsLink sha256 execution link)
    have valid := (honest.live execution run live present).valid
    exact honest.proceeds live present kept (by rw [created]; rfl) sameKey sameStored sameRuns older
      (fun failed => valid (sameFailure.symm.trans failed)) (fun _ => linking stored) sound
  · have continued : (state.createsLink sha256 execution link put proceed).execution =
        some { execution with failure := some .storage } := by
      rw [created]
      rfl
    exact honest.proceeds live present kept continued rfl rfl rfl older (fun same => by cases same)
      (fun free => by cases free) sound

theorem Honest.linksAnalyzer {rest : List Link} (free : execution.failure = none)
    (due : execution.unlinked = some (link :: rest))
    (sound : Sound registry sha256 (state.createsLink sha256 execution link put fun execution =>
      { execution with unlinked := some rest })) :
    Honest registry sha256 key (state.createsLink sha256 execution link put fun execution =>
      { execution with unlinked := some rest }) := by
  obtain ⟨rfl, _⟩ := honest.filed.live execution live
  obtain ⟨record, linking⟩ := (honest.live execution run live present).linking free
  have analyzer := linking.mem_analyzers_of_unlinked due mem_cons_self
  obtain ⟨notSynthesis, notGraph⟩ := state.registry.analyzer_ne_stage analyzer
  refine honest.createsLink live present (fun _ => ⟨rfl, rfl, rfl, rfl⟩) ?_ ?_ ?_ sound
  · intro stage
    rcases mem_pair.mp stage with same | same
    · exact absurd same notSynthesis
    · exact absurd same notGraph
  · exact fun same => absurd same notSynthesis
  · intro _
    obtain ⟨kept, links⟩ := @createsLink_frame sha256 state execution link put
      fun execution => { execution with unlinked := some rest }
    refine ⟨record, ?_⟩
    rw [digests_congr kept.results (links _ (Ne.symm notSynthesis))]
    exact linking.createsAnalyzer due

theorem Honest.linksSynthesis (free : execution.failure = none)
    (phase : run.phase = .executing .synthesis) (unsent : execution.linked = false)
    (signs : state.stageLink sha256 execution result .synthesis = some link)
    (sound : Sound registry sha256 (state.createsLink sha256 execution link put fun execution =>
      { execution with linked := true })) :
    Honest registry sha256 key (state.createsLink sha256 execution link put fun execution =>
      { execution with linked := true }) := by
  cases signs
  obtain ⟨rfl, _⟩ := honest.filed.live execution live
  have resumed := honest.live execution run live present
  have tracked := honest.tracks.run run present
  have fresh := tracked.executing .synthesis phase
  have unknown : graphStep ∉ run.completed := fun known => fresh (resumed.chained known)
  have going : run.phase.rank < 9 := by rw [phase]; decide
  have late : 4 < run.phase.rank := by rw [phase]; decide
  refine honest.createsLink live present (fun _ => ⟨rfl, rfl, rfl, rfl⟩) ?_ ?_ ?_ sound
  · intro _
    exact tracked.executing_not_done phase
  · intro _ done
    rcases tracked.ahead .graph done with known | passed
    · exact unknown known
    · rw [phase] at passed
      exact absurd passed (by decide)
  · rintro rfl
    obtain ⟨record, linking⟩ := resumed.linking free
    refine ⟨record, ?_⟩
    -- So far only analyzers are linked, and their links do not depend on the new digest.
    have only : ∀ link ∈ execution.links, link.step ∈ state.registry.analyzers := by
      intro link mem
      have listed : link.step ∈ execution.links.map SignedLink.step := mem_map_of_mem mem
      rcases mem_append.mp (linking.honest link mem).1 with analyzer | stage
      · exact analyzer
      · rcases mem_pair.mp stage with same | same
        · rw [same] at listed
          rcases (linking.stages .synthesis (by decide) going).mp listed with
            ⟨known, _⟩ | ⟨_, passed | ⟨_, sent⟩⟩
          · exact absurd known fresh
          · rw [phase] at passed
            exact absurd passed (by decide)
          · exact absurd (unsent.symm.trans sent) (by decide)
        · rw [same] at listed
          rcases (linking.stages .graph (by decide) going).mp listed with
            ⟨known, _⟩ | ⟨_, passed | ⟨executing, _⟩⟩
          · exact absurd known unknown
          · rw [phase] at passed
            exact absurd passed (by decide)
          · rw [phase] at executing
            cases executing
    rw [digests_createsSynthesis rfl rfl]
    have same := fun name (analyzer : name ∈ state.registry.analyzers) =>
      (state.digests sha256 record).analyzer_congr
        { state.digests sha256 record with synthesis := resultDigest sha256 result } rfl rfl analyzer
    have recast := linking.recast (fun link mem => same _ (only link mem))
      fun rest found link mem => same _ (linking.mem_analyzers_of_unlinked found mem)
    rw [recast.synthesis_materials late going]
    exact recast.createsStage (by decide) phase unsent fresh

theorem Honest.linksGraph (free : execution.failure = none)
    (phase : run.phase = .executing .graph) (unsent : execution.linked = false)
    (signs : state.stageLink sha256 execution result .graph = some link)
    (sound : Sound registry sha256 (state.createsLink sha256 execution link put fun execution =>
      { execution with linked := true })) :
    Honest registry sha256 key (state.createsLink sha256 execution link put fun execution =>
      { execution with linked := true }) := by
  obtain ⟨rfl, _⟩ := honest.filed.live execution live
  have tracked := honest.tracks.run run present
  have step : link.step = graphStep := by
    cases signs
    rfl
  have other : synthesisStep ≠ link.step := by
    rw [step]
    decide
  refine honest.createsLink live present (fun _ => ⟨rfl, rfl, rfl, rfl⟩) ?_ ?_ ?_ sound
  · intro _
    rw [step]
    exact tracked.executing_not_done phase
  · exact fun same => absurd same.symm other
  · intro _
    obtain ⟨record, linking⟩ := (honest.live execution run live present).linking free
    obtain ⟨kept, links⟩ := @createsLink_frame sha256 state execution link put
      fun execution => { execution with linked := true }
    refine ⟨record, ?_⟩
    rw [digests_congr kept.results (links _ other)]
    cases signs
    rw [linking.graph_materials phase]
    exact linking.createsStage (by decide) phase unsent (tracked.executing .graph phase)

end

theorem Honest.analyzed (present : state.job.run = some run) (phase : run.phase = .due .synthesis)
    {name : Text} (analyzer : name ∈ state.registry.analyzers) :
    name ∈ run.outputs ∧ name ∈ state.job.done := by
  have produced : name ∈ run.outputs := by
    apply (honest.sound.gathers.gathered run present).complete
    · rw [phase]
      decide
    · rw [phase]
      decide
    · rw [← honest.sound.gathers.registered]
      exact analyzer
  exact ⟨produced, (honest.tracks.run run present).produced name produced⟩

theorem Honest.records_accepted (live : state.execution = some execution)
    (present : state.job.run = some run) (phase : run.phase = .due .synthesis) :
    state.analyzerLinks sha256 execution ≠ .error .invalid := by
  have resumed := honest.live execution run live present
  apply analyzerLinks_ne_invalid
  · intro name analyzer
    exact honest.results name analyzer (honest.analyzed present phase analyzer).2
  · intro name analyzer
    obtain ⟨produced, done⟩ := honest.analyzed present phase analyzer
    refine honest.filed.recordOf_ne_invalid honest.tracks live analyzer done ?_
    intro absent pointer
    rcases resumed.recorded name produced with known | current
    · exact resumed.unsigned name analyzer known pointer
    · obtain ⟨entry, mem, rfl⟩ := mem_map.mp current
      have other := lookup_eq_none_iff.mp absent entry mem
      simp at other

theorem Honest.runStep (live : state.execution = some execution)
    (present : state.job.run = some run) (untampered : state.Untampered key event)
    (coherent : state.ResumesCoherently event)
    (acts : state.RunStep sha256 execution run event next) : Honest registry sha256 key next := by
  have sound := honest.sound.runStep live present acts
  have resumed := honest.live execution run live present
  have tracked := honest.tracks.run run present
  obtain ⟨signer, _⟩ := honest.filed.live execution live
  have attesting := honest.sound.attesting execution run live present
  have kept : ∀ step ∈ linkedPipelineStages, step ∈ run.completed →
      StageKept sha256 key state step :=
    fun step stage known => honest.kept step stage (tracked.loaded step known)
  cases acts with
  | acts admitted taken => exact honest.acts live present admitted taken sound
  | fails _ _ fault => exact honest.fails live present fault sound
  | linksUnloaded free _ read =>
    obtain ⟨links, loads, _⟩ := loadStoredLinks_of_kept kept fun _ => []
    rw [signer, loads] at read
    cases read
  | loadsLinks free unloaded read =>
    obtain ⟨record, linking⟩ := resumed.linking free
    obtain ⟨links, loads, steps, genuine⟩ := loadStoredLinks_of_kept kept record
    rw [signer, loads] at read
    cases read
    exact honest.proceeds live present ⟨rfl, rfl, rfl, rfl, rfl, rfl⟩ rfl rfl rfl rfl
      (fun _ _ _ => ⟨rfl, rfl⟩) resumed.valid
      (fun _ => ⟨record, linking.loads unloaded genuine steps⟩) sound
  | @createsLayout expires put free loaded absent =>
    obtain ⟨record, linking⟩ := resumed.linking free
    by_cases kept : put = .stored
    · simp only [storesLayout, if_pos kept] at sound ⊢
      exact honest.proceeds live present ⟨rfl, rfl, rfl, rfl, rfl, rfl⟩ rfl rfl rfl rfl
        (fun _ _ _ => ⟨rfl, rfl⟩) resumed.valid
        (fun _ => ⟨record, linking.transport rfl rfl rfl rfl fun _ => rfl⟩) sound
    · simp only [storesLayout, if_neg kept] at sound ⊢
      exact honest.proceeds live present ⟨rfl, rfl, rfl, rfl, rfl, rfl⟩ rfl rfl rfl rfl
        (fun _ _ _ => ⟨rfl, rfl⟩) (fun same => by cases same) (fun free => by cases free) sound
  | sealsAttempt free working own fresh checked signs =>
    exact honest.sealsAttempt live present working (CacheCheckpoints.accepted_of_sign signs).1
      (honest.filed.sealsAttempt live own fresh checked signs untampered) sound
  | analyzerCompletes _ _ sealedRun taken =>
    exact honest.analyzerCompletes live present taken sealedRun rfl sound
  | recordsUnread free phase read =>
    refine honest.fails live present ?_ sound
    rintro rfl
    exact honest.records_accepted live present phase read
  | readsRecords free laid phase unread read =>
    obtain ⟨record, linking⟩ := resumed.linking free
    obtain ⟨records, steps, genuine⟩ := analyzerLinks_eq_ok
      (fun name analyzer => honest.results name analyzer
        (honest.analyzed present phase analyzer).2) read
    have recast : Linking key state.registry (state.subject sha256)
        (state.digests sha256 records) execution run := by
      apply linking.recast
      · intro link mem
        exact (state.digests sha256 record).stage_congr (state.digests sha256 records) rfl rfl
          (linking.stage_of_unread unread mem)
      · intro rest found
        exact absurd (unread.symm.trans found) (by simp)
    exact honest.proceeds live present ⟨rfl, rfl, rfl, rfl, rfl, rfl⟩ rfl rfl rfl rfl
      (fun _ _ _ => ⟨rfl, rfl⟩) resumed.valid
      (fun _ => ⟨records, recast.reads unread (attesting.loaded_of_layout laid) phase steps genuine⟩) sound
  | linksAnalyzer free _ due => exact honest.linksAnalyzer live present free due sound
  | @linksStage stage link result put free phase unsent signs =>
    cases stage with
    | candidateGeneration => cases signs
    | synthesis => exact honest.linksSynthesis live present free phase unsent signs sound
    | graph => exact honest.linksGraph live present free phase unsent signs sound
  | chainRefused free phase verified =>
    obtain ⟨record, linking⟩ := resumed.linking free
    have accepted := verifyChain_of_linking attesting signer linking phase (coherent execution live)
    rw [accepted] at verified
    cases verified
  | @finalizes now put recorded free _ phase verified =>
    obtain ⟨record, linking⟩ := resumed.linking free
    cases bundled : marshalBundle execution.layout (execution.links.map SignedLink.raw) with
    | none =>
      simp only [storesBundle, bundled] at sound ⊢
      exact honest.fails live present (by decide) sound
    | some bundle =>
      by_cases kept : put = .stored
      · simp only [storesBundle, bundled, if_pos kept] at sound ⊢
        exact honest.proceeds live present ⟨rfl, rfl, rfl, rfl, rfl, rfl⟩ rfl rfl rfl rfl
          (fun _ _ _ => ⟨rfl, rfl⟩) resumed.valid
          (fun _ => ⟨record, linking.transport rfl rfl rfl rfl id⟩) sound
      · simp only [storesBundle, bundled, if_neg kept] at sound ⊢
        exact honest.proceeds live present ⟨rfl, rfl, rfl, rfl, rfl, rfl⟩ rfl rfl rfl rfl
          (fun _ _ _ => ⟨rfl, rfl⟩) (fun same => by cases same) (fun free => by cases free) sound

theorem Honest.step (untampered : state.Untampered key event)
    (coherent : state.ResumesCoherently event) (taken : state.step sha256 event = some next) :
    Honest registry sha256 key next := by
  have sound := honest.sound.step taken
  cases step_cases taken with
  | begins started =>
    obtain rfl := untampered
    exact honest.begins started coherent sound
  | @retries write job retried =>
    have idle := (Job.retries_idle retried).2
    have same := Job.step_registry retried
    have done : ∀ name, name ∈ job.done → name ∈ state.job.done := by
      intro name mem
      rcases Job.step_done retried mem with earlier | ⟨_, _, _, event, _⟩ |
        ⟨_, _, _, event, _⟩
      · exact earlier
      · cases event
      · cases event
    refine ⟨sound, honest.tracks.step retried, ?_, ?_, ?_, ?_⟩
    · refine honest.filed.frame rfl same rfl rfl rfl ?_ ?_
      · intro row mem completed _
        rcases Job.step_completed_row retried mem completed with kept | completes
        · exact .inl kept
        · cases completes
      · intro later found
        exact ⟨(honest.filed.live later found).1, fun entry mem => ⟨later, found, mem⟩⟩
    · intro name analyzer mem
      change name ∈ job.registry.analyzers at analyzer
      rw [same] at analyzer
      exact honest.results name analyzer (done name mem)
    · intro step stage mem
      exact (honest.kept step stage (done step mem)).transport rfl same rfl rfl rfl
    · intro execution run _ going
      exact absurd (idle.symm.trans going) (by simp)
  | rewritesTables =>
    have filed := honest.filed
    refine ⟨sound, honest.tracks, ?_, honest.results, honest.kept, ?_⟩
    · exact ⟨filed.refs, filed.own,
        fun sealed mem => untampered sealed mem (filed.rows sealed mem),
        filed.objects, filed.pointed, filed.live⟩
    · intro execution run found going
      have resumed := honest.live execution run found going
      exact ⟨resumed.valid, resumed.chained, resumed.analyzed, resumed.recorded,
        resumed.unsigned, resumed.linking⟩
  | repoints => exact untampered.elim
  | runs live present acts => exact honest.runStep live present untampered coherent acts

end

theorem Honest.created (identity : JobIdentity) {registry : Registry} {names : List Text}
    (tables : Tables) (listed : names.Perm (buildStageNames registry.analyzers)) :
    Honest registry sha256 key (AttestedJob.created identity registry names tables) where
  sound := Sound.created identity registry names tables
  tracks := Job.created_tracks listed
  filed := Filed.created identity registry names tables
  results name _ done := by
    obtain ⟨row, mem, completed, _⟩ := mem_completedStageSet.mp done
    obtain ⟨_, _, rfl⟩ := mem_map.mp mem
    cases completed
  kept step _ done := by
    obtain ⟨row, mem, completed, _⟩ := mem_completedStageSet.mp done
    obtain ⟨_, _, rfl⟩ := mem_map.mp mem
    cases completed
  live _ _ present := by cases present

theorem completes_of_finalized (live : state.execution = some execution)
    (present : state.job.run = some run) (phase : run.phase = .finalizing)
    (free : execution.failure = none) (finalized : execution.finalized = true) :
    ∃ final, state.step sha256 (.acts (.completes .stored)) = some final ∧
      final.job.status = .completed := by
  have stepped : state.job.step (.completes .stored) =
      some { state.job with status := .completed, run := none } := by
    simp only [Job.step, present, Job.stepRun, phase]
    rfl
  have admitted : execution.admits run.phase (.completes .stored) = true := by
    simp only [Execution.admits, free, finalized, Option.isNone_none, Bool.and_self]
  simp only [AttestedJob.step, live, present, AttestedJob.stepRun, actsIn, admitted, if_true, stepped]
  exact ⟨_, rfl, rfl⟩

theorem Honest.completes (honest : Honest registry sha256 key state)
    (live : state.execution = some execution) (present : state.job.run = some run)
    (phase : run.phase = .finalizing) (free : execution.failure = none)
    (unfinished : execution.finalized = false) {now : Nat}
    (unexpired : ∀ layout ∈ execution.layout, now ≤ layout.expires) :
    ∃ final, Library.run (AttestedJob.step sha256) state
        [.finalizes now .stored, .acts (.completes .stored)] = some final ∧
      final.job.status = .completed := by
  obtain ⟨record, linking⟩ := (honest.live execution run live present).linking free
  have attesting := honest.sound.attesting execution run live present
  have verified := verifyChain_of_linking attesting (honest.filed.live execution live).1 linking
    phase unexpired
  obtain ⟨_, laid⟩ := linking.through (by rw [phase]; decide) (by rw [phase]; decide)
  obtain ⟨layout, there⟩ := Option.isSome_iff_exists.mp laid
  have some_ : execution.links.map SignedLink.raw ≠ [] := by
    intro none
    have steps := linking.steps_perm phase (attesting.loaded_of_layout laid)
    rw [map_eq_nil_iff.mp none, map_nil] at steps
    have stage : graphStep ∈ state.registry.linkedSteps := by
      apply mem_append_right
      decide
    exact not_mem_nil (steps.mem_iff.mpr stage)
  have bundled : marshalBundle execution.layout (execution.links.map SignedLink.raw) =
      some ⟨layout, execution.links.map SignedLink.raw⟩ := by
    rw [there]
    exact if_neg some_
  obtain ⟨closing, finalized, job, closed⟩ : ∃ closing,
      state.step sha256 (.finalizes now .stored) = some closing ∧ closing.job = state.job ∧
        closing.execution = some { execution with finalized := true } := by
    simp only [AttestedJob.step, live, present, AttestedJob.stepRun, AttestedJob.finalizes, free,
      unfinished, phase, and_self, if_true, verified, storesBundle, bundled]
    exact ⟨_, rfl, rfl, rfl⟩
  obtain ⟨final, completed, status⟩ := completes_of_finalized closed (job ▸ present) phase free rfl
  exact ⟨final, run_cons_eq_some.mpr ⟨closing, finalized,
    run_cons_eq_some.mpr ⟨final, completed, rfl⟩⟩, status⟩

/-- Neither tampering nor one of the gaps that retries and cache settings can leave. -/
def Undisturbed (key : Text) (state : AttestedJob) (event : AttestedEvent) : Prop :=
  state.Untampered key event ∧ state.ResumesCoherently event

/-- For every job and every history of its runs, under one key and with any faults, retries
and cache settings, whose steps are undisturbed: no run fails over the job's own
attestation, and a run that has gone through its stages completes the job once its bundle
and its status are stored. -/
theorem own_attestation_accepted (sha256 : Bytes → Text) (identity : JobIdentity)
    (registry : Registry) (names : List Text) (tables : Tables)
    (listed : names.Perm (buildStageNames registry.analyzers)) (key : Text)
    (events : List AttestedEvent) (final : AttestedJob)
    (undisturbed : Along (step sha256) (Undisturbed key)
      (created identity registry names tables) events)
    (ran : Library.run (step sha256) (created identity registry names tables) events = some final) :
    ∀ execution run, final.execution = some execution → final.job.run = some run →
      execution.failure ≠ some .invalid ∧
        (run.phase = .finalizing → execution.failure = none → execution.finalized = false →
          ∀ now, (∀ layout ∈ execution.layout, now ≤ layout.expires) →
            ∃ done, Library.run (step sha256) final
                [.finalizes now .stored, .acts (.completes .stored)] = some done ∧
              done.job.status = .completed) := by
  have honest : Honest registry sha256 key final :=
    run_invariant_along
      (fun _ _ _ before meets taken => Honest.step before meets.1 meets.2 taken)
      (Honest.created identity tables listed) undisturbed ran
  intro execution run live present
  refine ⟨(honest.live execution run live present).valid, ?_⟩
  intro phase free unfinished now unexpired
  exact honest.completes live present phase free unfinished unexpired

instance decidableUnsigned (state : AttestedJob) (name : Text) :
    Decidable (state.Unsigned name) := by
  unfold Unsigned
  infer_instance

instance decidableUntampered (key : Text) (state : AttestedJob) (event : AttestedEvent) :
    Decidable (state.Untampered key event) := by
  apply event.casesOn (motive := fun event => Decidable (state.Untampered key event)) <;> intros <;>
    unfold Untampered <;> infer_instance

instance decidableResumesCoherently (state : AttestedJob) (event : AttestedEvent) :
    Decidable (state.ResumesCoherently event) := by
  apply event.casesOn (motive := fun event => Decidable (state.ResumesCoherently event)) <;>
    intros <;> unfold ResumesCoherently <;> infer_instance

instance decidableUndisturbed (key : Text) (state : AttestedJob) (event : AttestedEvent) :
    Decidable (state.Undisturbed key event) := by
  unfold Undisturbed
  infer_instance

/-- The analyzer completes under a sealed attempt, the bundle is lost, and a second run
loads the links and reads the record back. -/
def resumesSealed : List AttestedEvent :=
  [.begins "k".toList true, .loadsLinks, .createsLayout 9 .stored,
    .acts (.attempts classify .stored), .rewritesTables sampleRows,
    .sealsAttempt sampleRecord .stored,
    .analyzerCompletes classify ⟨some sampleStats, some sampleAttempt⟩ [2] .stored,
    .acts .passEnds, .acts .stageSkipped, .acts .passEnds] ++ attestsAndFinishes .lost ++
    [.acts .errors, .acts (.ends [] .stored []), .acts (.retries .stored), .begins "k".toList true,
      .loadsLinks, .createsLayout 9 .stored, .readsRecords, .linksAnalyzer .stored,
      .acts .stageSkipped, .acts .stageSkipped]

def readyToFinalize (state : AttestedJob) : Bool :=
  state.execution.any (fun execution =>
    execution.failure = none && execution.finalized = false &&
      (execution.layout.all fun layout => 6 ≤ layout.expires)) &&
    state.job.run.any fun run => run.phase = .finalizing

theorem own_attestation_accepted_resumed :
    ∃ state done, Library.run (step sampleSum) sampleJob resumesSealed = some state ∧
      Library.run (step sampleSum) state [.finalizes 6 .stored, .acts (.completes .stored)] =
        some done ∧ done.job.status = .completed := by
  have ready : ((Library.run (step sampleSum) sampleJob resumesSealed).any readyToFinalize) =
      true := by
    decide +kernel
  have undisturbed : Along (step sampleSum) (Undisturbed "k".toList) sampleJob resumesSealed := by
    decide +kernel
  obtain ⟨state, ran, found⟩ := (Option.any_eq_true _ _).mp ready
  simp only [readyToFinalize, Bool.and_eq_true, Option.any_eq_true, decide_eq_true_eq,
    Option.all_eq_true] at found
  obtain ⟨⟨execution, live, ⟨free, unfinished⟩, unexpired⟩, run, present, phase⟩ := found
  obtain ⟨_, accepted⟩ := own_attestation_accepted sampleSum sampleIdentity Job.loneAnalyzer
    [classify, "graph".toList, "synthesis".toList] .empty (by decide) "k".toList resumesSealed state
    undisturbed ran execution run live present
  obtain ⟨done, finished, status⟩ := accepted phase free unfinished 6 unexpired
  exact ⟨state, done, ran, finished, status⟩

/-- The completed-write of synthesis is lost and the bundle too; the retry executes
synthesis again, which returns another result, and keeps graph. -/
def synthesisRepeated : List AttestedEvent :=
  .begins "k".toList false :: analyzesOnce ++
    [.readsRecords, .linksAnalyzer .stored, .acts (.stageStarts .stored), .linksStage [7] .stored,
      .acts (.stageCompletes .lost), .acts (.stageStarts .stored), .linksStage [] .stored,
      .acts (.stageCompletes .stored), .finalizes 5 .lost, .acts .errors,
      .acts (.ends [] .stored []), .acts (.retries .stored), .begins "k".toList false, .loadsLinks,
      .createsLayout 9 .stored, .readsRecords, .linksAnalyzer .stored,
      .acts (.stageStarts .stored), .linksStage [8, 8] .stored, .acts (.stageCompletes .stored),
      .acts .stageSkipped, .finalizes 6 .stored]

/-- The first run seals a completion whose status is not written, the second completes the
analyzer with the cache switched off, and the third has it on again. -/
def cacheSwitched : List AttestedEvent :=
  [.begins "k".toList true, .loadsLinks, .createsLayout 9 .stored,
    .acts (.attempts classify .stored), .rewritesTables sampleRows,
    .sealsAttempt sampleRecord .stored,
    .analyzerCompletes classify ⟨some sampleStats, some sampleAttempt⟩ [2] .lost,
    .acts .passEnds, .acts (.ends [] .stored []), .acts (.retries .stored),
    .begins "k".toList false] ++ analyzesOnce ++
    [.acts .crashes, .begins "k".toList true, .loadsLinks, .createsLayout 9 .stored, .readsRecords]

/-- Two histories without tampering and with one key in which a run fails over the job's
own attestation. -/
theorem own_attestation_refused :
    (Along (step sampleSum) (Untampered "k".toList) sampleJob synthesisRepeated ∧
      ∃ final execution, Library.run (step sampleSum) sampleJob synthesisRepeated = some final ∧
        final.execution = some execution ∧ execution.failure = some .invalid) ∧
    (Along (step sampleSum) (Untampered "k".toList) sampleJob cacheSwitched ∧
      ∃ final execution, Library.run (step sampleSum) sampleJob cacheSwitched = some final ∧
        final.execution = some execution ∧ execution.failure = some .invalid) := by
  have refused : ∀ events : List AttestedEvent,
      ((Library.run (step sampleSum) sampleJob events).any fun state =>
        state.execution.any fun execution => execution.failure = some .invalid) = true →
      ∃ final execution, Library.run (step sampleSum) sampleJob events = some final ∧
        final.execution = some execution ∧ execution.failure = some .invalid := by
    intro events outcome
    obtain ⟨final, ran, found⟩ := (Option.any_eq_true _ _).mp outcome
    obtain ⟨execution, live, failed⟩ := (Option.any_eq_true _ _).mp found
    exact ⟨final, execution, ran, live, of_decide_eq_true failed⟩
  refine ⟨⟨?_, refused _ ?_⟩, ?_, refused _ ?_⟩
  all_goals decide +kernel

end AttestedJob

end CrossCodex.Pipeline
