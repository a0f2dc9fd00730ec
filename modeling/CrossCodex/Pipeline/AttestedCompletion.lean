/-
An attested job is written completed only with its whole attestation stored: what
finalization verified is what is stored, one link per step.
-/

import CrossCodex.Pipeline.AttestedJob
import CrossCodex.Pipeline.StageFreshness

namespace CrossCodex.Pipeline

open Library ResultCache List Function

theorem subject_digest_ne_nil (identity : JobIdentity) (sha256 : Bytes → Text) :
    (identity.subject sha256).digest ≠ [] := by
  intro empty
  cases empty

def claimedStep : Envelope → Text
  | .signed _ link => link.step
  | .broken _ => []

def LastLink (links : List SignedLink) (link : SignedLink) : Prop :=
  ∃ front back, links = front ++ link :: back ∧ link.step ∉ back.map SignedLink.step

variable {links : List SignedLink} {link : SignedLink}

theorem LastLink.of_append {added : SignedLink} (last : LastLink (links ++ [added]) link) :
    link = added ∨ LastLink links link ∧ link.step ≠ added.step := by
  obtain ⟨front, back, split, absent⟩ := last
  rcases eq_nil_or_concat back with rfl | ⟨rest, final, rfl⟩
  · have same : links ++ [added] = front ++ [link] := split
    obtain ⟨_, last⟩ := append_inj' same rfl
    cases last
    exact .inl rfl
  · rw [concat_eq_append, ← cons_append, ← append_assoc] at split
    obtain ⟨before, same⟩ := append_inj' split rfl
    cases same
    rw [concat_eq_append, map_append, mem_append, not_or] at absent
    right
    refine ⟨⟨front, rest, before, absent.1⟩, ?_⟩
    simpa using absent.2

theorem lastLink_of_nodup (nodup : (links.map SignedLink.step).Nodup) (mem : link ∈ links) :
    LastLink links link := by
  obtain ⟨front, back, rfl⟩ := append_of_mem mem
  refine ⟨front, back, rfl, ?_⟩
  rw [map_append, map_cons] at nodup
  exact (nodup_cons.mp nodup.of_append_right).1

namespace AttestedJob

variable {sha256 : Bytes → Text} {state next : AttestedJob} {execution : Execution} {run : JobRun}
  {later : Execution} {put : Write}

/-! ### What a live run has stored -/

structure Attesting (sha256 : Bytes → Text) (state : AttestedJob) (execution : Execution)
    (run : JobRun) : Prop where
  began : execution.loaded = false → execution.layout = none
  laid : ∀ layout, execution.layout = some layout →
    state.stored.layout = some layout ∧ layout.key = execution.key ∧
      layout.steps = state.registry.layoutSteps (state.subject sha256).uri
  signed : ∀ link ∈ execution.links, ∃ content,
    link.raw = .signed execution.key content ∧ content.step = link.step
  kept : execution.failure = none → ∀ link, LastLink execution.links link →
    state.stored.links link.step = some link.raw
  finalized : execution.finalized = true → 8 ≤ run.phase.rank ∧
    ∃ layout links now, execution.layout = some layout ∧
      execution.links.map SignedLink.raw = links.map (Envelope.signed execution.key) ∧
      ChainHolds execution.key now layout links (state.subject sha256) ∧
      state.stored.bundle = some ⟨layout, links.map (Envelope.signed execution.key)⟩

namespace Attesting

theorem start (key : Text) (wired : Bool) :
    Attesting sha256 state (Execution.start key wired) run where
  began _ := rfl
  laid _ present := by cases present
  signed _ mem := by cases mem
  kept _ _ last := by
    obtain ⟨front, back, split, _⟩ := last
    cases front <;> cases split
  finalized final := by cases final

variable (attesting : Attesting sha256 state execution run)
include attesting

theorem fail (failure : AttestationFailure) (identity : next.identity = state.identity)
    (registry : next.registry = state.registry)
    (layout : execution.layout = none ∨ next.stored.layout = state.stored.layout)
    (bundle : execution.finalized = false ∨ next.stored.bundle = state.stored.bundle) :
    Attesting sha256 next { execution with failure := some failure } run where
  __ := attesting
  laid found present := by
    rcases layout with none | same
    · rw [none] at present
      cases present
    · unfold AttestedJob.subject
      rw [same, registry, identity]
      exact attesting.laid found present
  kept free := by cases free
  finalized final := by
    rcases bundle with unfinished | same
    · exact absurd (unfinished.symm.trans final) (by decide)
    · unfold AttestedJob.subject
      rw [same, identity]
      exact attesting.finalized final

theorem transport {laterRun : JobRun} (identity : next.identity = state.identity)
    (registry : next.registry = state.registry)
    (layout : next.stored.layout = state.stored.layout)
    (links : next.stored.links = state.stored.links)
    (bundle : next.stored.bundle = state.stored.bundle) (continues : execution.Continues later)
    (rank : run.phase.rank ≤ laterRun.phase.rank) : Attesting sha256 next later laterRun := by
  obtain ⟨key, loaded, sameLayout, sameLinks, failure, finalized⟩ := continues
  have subject : next.subject sha256 = state.subject sha256 := by
    unfold AttestedJob.subject
    rw [identity]
  constructor
  · rw [loaded, sameLayout]
    exact attesting.began
  · intro found present
    rw [layout, key, registry, subject]
    exact attesting.laid found (sameLayout ▸ present)
  · intro link mem
    rw [key]
    exact attesting.signed link (sameLinks ▸ mem)
  · intro free link last
    rw [links]
    exact attesting.kept (failure ▸ free) link (sameLinks ▸ last)
  · intro final
    obtain ⟨reached, holds⟩ := attesting.finalized (finalized ▸ final)
    rw [key, sameLayout, sameLinks, subject, bundle]
    exact ⟨reached.trans rank, holds⟩

theorem createsLink {link : Link} {proceed : Execution → Execution}
    (unfinished : execution.finalized = false)
    (continues : ∀ given : Execution, given.Continues (proceed given))
    (present : (state.createsLink sha256 execution link put proceed).execution = some later) :
    Attesting sha256 (state.createsLink sha256 execution link put proceed) later run := by
  rcases @createsLink_cases sha256 state execution link put proceed with
    ⟨_, created⟩ | ⟨_, created⟩
  · rw [created] at present ⊢
    cases present
    obtain ⟨key, loaded, layout, links, failure, finalized⟩ :=
      continues (state.keepsLink sha256 execution link)
    constructor
    · rw [loaded, layout]
      exact attesting.began
    · intro found laid
      rw [key]
      exact attesting.laid found (layout ▸ laid)
    · rw [key, links]
      exact forall_mem_concat attesting.signed ⟨_, rfl, rfl⟩
    · intro free other last
      rw [failure] at free
      rw [links] at last
      change update state.stored.links link.step _ other.step = some other.raw
      rcases last.of_append with rfl | ⟨earlier, ne⟩
      · exact update_self ..
      · have elsewhere : other.step ≠ link.step := ne
        rw [update_of_ne elsewhere]
        exact attesting.kept free other earlier
    · intro final
      rw [finalized] at final
      exact absurd (unfinished.symm.trans final) (by decide)
  · rw [created] at present ⊢
    cases present
    exact attesting.fail .storage rfl rfl (.inr rfl) (.inl unfinished)

end Attesting

theorem storedLink_eq_ok {key step : Text} (read : state.storedLink sha256 key step = .ok links) :
    ∃ link, state.stored.links step = some (.signed key link) ∧ link.step = step ∧
      state.subject sha256 ∈ link.materials ∧
      links = [⟨.signed key link, link.step, link.products⟩] := by
  unfold storedLink at read
  split at read
  · cases read
  rename_i raw found
  split at read
  · cases read
  rename_i link verified
  split at read
  · rename_i bound
    cases read
    obtain rfl := Envelope.verify_eq_ok.mp verified
    exact ⟨link, found, bound.1, bound.2, rfl⟩
  · cases read

theorem mem_loadStoredLinks {key : Text} {completed : List Text}
    (read : state.loadStoredLinks sha256 key completed = .ok links) (mem : link ∈ links) :
    ∃ content, state.stored.links link.step = some link.raw ∧ link.raw = .signed key content ∧
      content.step = link.step := by
  obtain ⟨step, _, outputs, produced, present⟩ := (mem_gatherEach read).mp mem
  obtain ⟨content, found, named, _, rfl⟩ := storedLink_eq_ok produced
  obtain rfl := mem_singleton.mp present
  subst named
  exact ⟨content, found, rfl, rfl⟩

section

variable (attesting : Attesting sha256 state execution run)
include attesting

variable (unfinished : execution.finalized = false)
include unfinished

theorem Attesting.loadsLinks
    (read : state.loadStoredLinks sha256 execution.key run.completed = .ok links) :
    Attesting sha256
      (state.setExecution { execution with loaded := true, links := links })
      { execution with loaded := true, links := links } run where
  began loaded := by cases loaded
  laid := attesting.laid
  signed link mem := by
    obtain ⟨content, _, raw, named⟩ := mem_loadStoredLinks read mem
    exact ⟨content, raw, named⟩
  kept _ link last := by
    obtain ⟨front, back, rfl, _⟩ := last
    obtain ⟨_, found, _⟩ := mem_loadStoredLinks read (mem_append_right front mem_cons_self)
    exact found
  finalized final := by
    rw [unfinished] at final
    cases final

theorem Attesting.storesLayout (loaded : execution.loaded = true)
    (absent : execution.layout = none) {expires : Nat}
    (present : (state.storesLayout sha256 execution expires put).execution = some later) :
    Attesting sha256 (state.storesLayout sha256 execution expires put) later run := by
  unfold AttestedJob.storesLayout at present ⊢
  by_cases kept : put = .stored
  · simp only [if_pos kept] at present ⊢
    cases present
    subst kept
    exact
      { attesting with
        began := fun unloaded => absurd (loaded.symm.trans unloaded) (by decide)
        laid := fun found laid => by
          cases laid
          exact ⟨rfl, rfl, rfl⟩
        finalized := fun final => absurd (unfinished.symm.trans final) (by decide) }
  · simp only [if_neg kept] at present ⊢
    cases present
    exact attesting.fail .storage rfl rfl (.inl absent) (.inl unfinished)

theorem Attesting.storesBundle (phase : run.phase = .finalizing) {now : Nat} {recorded : Text}
    (verified : verifyChain execution.key now execution.layout
      (execution.links.map SignedLink.raw) (state.subject sha256) = .ok recorded)
    (present : (state.storesBundle execution put).execution = some later) :
    Attesting sha256 (state.storesBundle execution put) later run := by
  obtain ⟨_, layout, links, laid, raws, holds⟩ :=
    (verifyChain_eq_ok (subject_digest_ne_nil state.identity sha256)).mp verified
  unfold AttestedJob.storesBundle at present ⊢
  cases bundled : marshalBundle execution.layout (execution.links.map SignedLink.raw) with
  | none =>
    simp only [bundled] at present ⊢
    cases present
    exact attesting.fail .signing rfl rfl (.inr rfl) (.inr rfl)
  | some bundle =>
    simp only [bundled] at present ⊢
    by_cases kept : put = .stored
    · subst kept
      cases present
      have whole : bundle = ⟨layout, links.map (Envelope.signed execution.key)⟩ := by
        unfold marshalBundle at bundled
        rw [laid, raws] at bundled
        simp only at bundled
        split at bundled
        · cases bundled
        · exact (Option.some.inj bundled).symm
      exact
        { attesting with
          finalized := fun _ => by
            refine ⟨by rw [phase]; decide, layout, links, now, laid, raws, holds, ?_⟩
            exact congrArg some whole }
    · simp only [if_neg kept] at present ⊢
      cases present
      exact attesting.fail .storage rfl rfl (.inr rfl) (.inl unfinished)

end

/-- The job is a job of JobRun, except that cache pointers may be rewritten. -/
structure Sound (registry : Registry) (sha256 : Bytes → Text) (state : AttestedJob) : Prop where
  gathers : state.job.Gathers registry
  executed : state.job.Executed
  ended : state.job.run = none → state.execution = none
  attesting : ∀ execution run, state.execution = some execution → state.job.run = some run →
    Attesting sha256 state execution run

variable {registry : Registry} {event : AttestedEvent}

theorem Sound.created (identity : JobIdentity) (registry : Registry) (names : List Text)
    (tables : Tables) : Sound registry sha256 (AttestedJob.created identity registry names tables) where
  gathers := Job.created_gathers registry names
  executed := Job.created_executed registry names
  ended _ := rfl
  attesting _ _ present := by cases present

theorem repoints_executed (executed : state.job.Executed) (name : Text) (attempt : Option Text) :
    (state.repoints name attempt).job.Executed where
  __ := executed
  done row mem completed := by
    obtain ⟨old, present, rfl⟩ := mem_map.mp mem
    split at completed
    · rename_i named
      rw [if_pos named]
      exact executed.done old present completed
    · rename_i other
      rw [if_neg other]
      exact executed.done old present completed

theorem Sound.stay (sound : Sound registry sha256 state) (present : state.job.run = some run)
    (same : next.job = state.job)
    (attesting : ∀ later, next.execution = some later → Attesting sha256 next later run) :
    Sound registry sha256 next where
  gathers := same ▸ sound.gathers
  executed := same ▸ sound.executed
  ended idle := by
    rw [same, present] at idle
    cases idle
  attesting later current found going := by
    rw [same, present] at going
    cases going
    exact attesting later found

theorem Attesting.loaded_of_layout (attesting : Attesting sha256 state execution run)
    (laid : execution.layout.isSome = true) : execution.loaded = true := by
  cases read : execution.loaded with
  | true => rfl
  | false =>
    rw [attesting.began read] at laid
    cases laid

theorem Attesting.unfinished (attesting : Attesting sha256 state execution run)
    (early : run.phase.rank < 8 ∨ execution.layout = none) : execution.finalized = false := by
  cases final : execution.finalized with
  | false => rfl
  | true =>
    obtain ⟨reached, layout, _, _, laid, _⟩ := attesting.finalized final
    rcases early with before | none
    · omega
    · rw [none] at laid
      cases laid

theorem Sound.runStep (sound : Sound registry sha256 state)
    (live : state.execution = some execution) (present : state.job.run = some run)
    (acts : state.RunStep sha256 execution run event next) : Sound registry sha256 next := by
  have attesting := sound.attesting execution run live present
  -- Every failed step keeps the job and changes the objects of its own step only.
  have failed : ∀ failure, Sound registry sha256 (state.failWith execution failure) :=
    fun failure => sound.stay present rfl fun later found => by
      cases found
      exact attesting.fail failure rfl rfl (.inr rfl) (.inr rfl)
  cases acts with
  | @acts event job admitted taken =>
    refine ⟨sound.gathers.step taken, sound.executed.step taken, ?_, ?_⟩
    · intro idle
      change job.run = none at idle
      simp only [idle, Option.isSome_none, Bool.false_eq_true, if_false]
    · intro later current found going
      change job.run = some current at going
      simp only [going, Option.isSome_some, if_true, Option.some.injEq] at found
      subst found
      exact attesting.transport rfl (Job.step_registry taken) rfl rfl rfl
        (execution.continues_after event) (Job.step_rank taken present going)
  | fails | linksUnloaded | recordsUnread | chainRefused => exact failed _
  | loadsLinks _ unloaded read =>
    refine sound.stay present rfl fun later found => ?_
    cases found
    exact attesting.loadsLinks (attesting.unfinished (.inr (attesting.began unloaded))) read
  | createsLayout _ loaded absent =>
    refine sound.stay present (storesLayout_job ..) fun later found => ?_
    exact attesting.storesLayout (attesting.unfinished (.inr absent)) loaded absent found
  | sealsAttempt | readsRecords =>
    refine sound.stay present rfl fun later found => ?_
    cases found
    exact attesting.transport rfl rfl rfl rfl rfl ⟨rfl, rfl, rfl, rfl, rfl, rfl⟩ le_rfl
  | @analyzerCompletes name cacheRun result write job _ _ _ taken =>
    refine ⟨sound.gathers.step taken, sound.executed.step taken, ?_, ?_⟩
    · intro idle
      exact absurd idle (Job.analyzerCompletes_live taken)
    · intro later current found going
      cases found
      exact attesting.transport rfl (Job.step_registry taken) rfl rfl rfl
        ⟨rfl, rfl, rfl, rfl, rfl, rfl⟩ (Job.step_rank taken present going)
  | linksAnalyzer _ phase _ =>
    refine sound.stay present (createsLink_job ..) fun later found => ?_
    refine attesting.createsLink (attesting.unfinished (.inl ?_)) ?_ found
    · rw [phase]
      decide
    · exact fun _ => ⟨rfl, rfl, rfl, rfl, rfl, rfl⟩
  | @linksStage stage _ _ _ _ phase _ _ =>
    refine sound.stay present (createsLink_job ..) fun later found => ?_
    refine attesting.createsLink (attesting.unfinished (.inl ?_)) ?_ found
    · rw [phase]
      cases stage <;> decide
    · exact fun _ => ⟨rfl, rfl, rfl, rfl, rfl, rfl⟩
  | finalizes _ unfinished phase verified =>
    refine sound.stay present (storesBundle_job ..) fun later found => ?_
    exact attesting.storesBundle unfinished phase verified found

theorem Sound.step (sound : Sound registry sha256 state)
    (taken : state.step sha256 event = some next) : Sound registry sha256 next := by
  cases step_cases taken with
  | begins started =>
    have stepped : state.job.step .starts = some _ := started
    refine ⟨sound.gathers.step stepped, sound.executed.step stepped, ?_, ?_⟩
    · intro idle
      unfold Job.starts at started
      split at started
      · cases started
        cases idle
      · cases started
    · intro execution run found _
      cases found
      exact Attesting.start _ _
  | retries retried =>
    have idle := Job.retries_idle retried
    refine ⟨sound.gathers.step retried, sound.executed.step retried, fun _ => sound.ended idle.1, ?_⟩
    intro execution run _ going
    exact absurd (idle.2.symm.trans going) (by simp)
  | rewritesTables =>
    refine ⟨sound.gathers, sound.executed, sound.ended, ?_⟩
    intro execution run found going
    exact (sound.attesting execution run found going).transport rfl rfl rfl rfl rfl
      ⟨rfl, rfl, rfl, rfl, rfl, rfl⟩ le_rfl
  | repoints =>
    refine ⟨⟨sound.gathers.registered, sound.gathers.gathered⟩,
      repoints_executed sound.executed _ _, sound.ended, ?_⟩
    intro execution run found going
    exact (sound.attesting execution run found going).transport rfl rfl rfl rfl rfl
      ⟨rfl, rfl, rfl, rfl, rfl, rfl⟩ le_rfl
  | runs live present acts => exact sound.runStep live present acts

/-- What is stored for a completed job: its layout, one link for each executed step that
has links, signed under the key and naming this job, and the bundle of exactly these.
Candidate generation is a stage without a link. -/
structure FullyAttested (sha256 : Bytes → Text) (state : AttestedJob) (key : Text)
    (layout : SignedLayout) (links : List Link) : Prop where
  laid : state.stored.layout = some layout
  signer : layout.key = key
  declared : layout.steps.map LayoutStep.name = state.registry.linkedSteps
  bundle : state.stored.bundle = some ⟨layout, links.map (Envelope.signed key)⟩
  once : (links.map Link.step).Perm state.registry.linkedSteps
  executed : ∀ step, step ∈ state.registry.linkedSteps ↔
    step ≠ PipelineStage.candidateGeneration.stageName ∧ 0 < state.job.executions step
  stored : ∀ link ∈ links, ∃ envelope, state.stored.links link.step = some envelope ∧
    envelope.verify key = .ok link
  subject : ∀ link ∈ links, state.subject sha256 ∈ link.materials

theorem linkedSteps_iff_executed {job : Job} {run : JobRun} (executed : job.Executed)
    (gathers : job.Gathers job.registry) (present : job.run = some run)
    (phase : run.phase = .finalizing) (step : Text) :
    step ∈ job.registry.linkedSteps ↔
      step ≠ PipelineStage.candidateGeneration.stageName ∧ 0 < job.executions step := by
  simp only [Registry.linkedSteps, linkedPipelineStages, mem_append, mem_cons,
    not_mem_nil, or_false]
  constructor
  · intro linked
    refine ⟨?_, executed.finalizing gathers present phase linked⟩
    rintro rfl
    rcases linked with analyzer | same | same
    · exact job.registry.unreserved .candidateGeneration analyzer
    · exact absurd same (by decide)
    · exact absurd same (by decide)
  · rintro ⟨other, counted⟩
    rcases executed.known step counted with analyzer | ⟨stage, rfl⟩
    · exact .inl analyzer
    · cases stage with
      | candidateGeneration => exact absurd rfl other
      | synthesis => exact .inr (.inl rfl)
      | graph => exact .inr (.inr rfl)

theorem completes_of_status (taken : state.step sha256 event = some next)
    (before : state.job.status ≠ .completed) (after : next.job.status = .completed) :
    ∃ execution run, state.execution = some execution ∧ state.job.run = some run ∧
      run.phase = .finalizing ∧ execution.failure = none ∧ execution.finalized = true ∧
      next.stored = state.stored ∧ next.identity = state.identity ∧
      next.registry = state.registry ∧ next.job.executions = state.job.executions := by
  cases step_cases taken with
  | begins started =>
    have stepped : state.job.step .starts = some _ := started
    obtain ⟨_, write, same, _⟩ := Job.completes_of_status stepped before after
    cases same
  | retries retried =>
    obtain ⟨_, write, same, _⟩ := Job.completes_of_status retried before after
    cases same
  | rewritesTables | repoints => exact absurd after before
  | @runs execution run _ _ live present acts =>
    have moved : ∀ {job : Job}, job = state.job → job.status = .completed → False :=
      fun same done => before (same ▸ done)
    cases acts with
    | acts admitted stepped =>
      obtain ⟨current, write, rfl, found, phase, counts⟩ :=
        Job.completes_of_status stepped before after
      obtain rfl := Option.some.inj (found.symm.trans present)
      simp only [Execution.admits, Bool.and_eq_true, Option.isNone_iff_eq_none] at admitted
      exact ⟨execution, current, live, present, phase, admitted.1, admitted.2, rfl, rfl,
        Job.step_registry stepped, counts⟩
    | analyzerCompletes _ _ _ stepped =>
      obtain ⟨_, write, same, _⟩ := Job.completes_of_status stepped before after
      cases same
    | linksAnalyzer _ _ _ | linksStage _ _ _ _ => exact (moved (createsLink_job ..) after).elim
    | createsLayout _ _ _ => exact (moved (storesLayout_job ..) after).elim
    | finalizes _ _ _ _ => exact (moved (storesBundle_job ..) after).elim
    | fails _ _ _ | linksUnloaded _ _ _ | loadsLinks _ _ _ | sealsAttempt _ _ _ _ _ _
    | recordsUnread _ _ _ | readsRecords _ _ _ _ _ | chainRefused _ _ _ =>
      exact (moved rfl after).elim

theorem Attesting.fullyAttested (attesting : Attesting sha256 state execution run)
    (final : execution.finalized = true) (free : execution.failure = none)
    (executed : ∀ step, step ∈ state.registry.linkedSteps ↔
      step ≠ PipelineStage.candidateGeneration.stageName ∧ 0 < state.job.executions step) :
    ∃ layout links, FullyAttested sha256 state execution.key layout links := by
  obtain ⟨_, layout, links, now, laid, raws, holds, bundle⟩ := attesting.finalized final
  obtain ⟨stored, signer, steps⟩ := attesting.laid layout laid
  have declared : layout.steps.map LayoutStep.name = state.registry.linkedSteps := by
    rw [steps, Registry.layoutSteps_names]
  have once := holds.steps_perm (declared ▸ state.registry.linkedSteps_nodup)
  -- The run's own view of a link's step is the signed one.
  have named : execution.links.map SignedLink.step = links.map Link.step := by
    have own : execution.links.map SignedLink.step =
        (execution.links.map SignedLink.raw).map claimedStep := by
      rw [map_map]
      apply map_congr_left
      intro link mem
      obtain ⟨content, raw, step⟩ := attesting.signed link mem
      rw [comp_apply, raw]
      exact step.symm
    rw [own, raws, map_map]
    rfl
  have nodup : (execution.links.map SignedLink.step).Nodup := named ▸ holds.distinct
  refine ⟨layout, links, ⟨stored, signer, declared, bundle, declared ▸ once, executed, ?_, ?_⟩⟩
  · intro link mem
    have present : Envelope.signed execution.key link ∈ execution.links.map SignedLink.raw :=
      raws ▸ mem_map_of_mem mem
    obtain ⟨held, listed, raw⟩ := mem_map.mp present
    obtain ⟨content, sealedBy, step⟩ := attesting.signed held listed
    rw [raw] at sealedBy
    cases sealedBy
    have kept := attesting.kept free held (lastLink_of_nodup nodup listed)
    rw [raw, ← step] at kept
    exact ⟨_, kept, Envelope.verify_eq_ok.mpr rfl⟩
  · intro link mem
    have step : link.step ∈ layout.steps.map LayoutStep.name := holds.declared link mem
    obtain ⟨declaredStep, listed, same⟩ := mem_map.mp step
    obtain ⟨found, search, holdsThere⟩ := holds.steps declaredStep listed
    obtain ⟨there, sameStep⟩ := linkOf_eq_some search
    have equal : found = link :=
      inj_on_of_nodup_map holds.distinct there mem (sameStep.trans same)
    exact mem_of_artifactDigest (equal ▸ holdsThere.recorded)

/-- For every job, every history of runs with any keys, faults, cancellations and resumes,
and every step that turns the job completed: the run that does it has met no attestation
failure, and the layout, exactly one verified link for each executed step, each naming this
job, and the bundle of them are stored. -/
theorem completed_only_attested (sha256 : Bytes → Text) (identity : JobIdentity)
    (registry : Registry) (names : List Text) (tables : Tables) (events : List AttestedEvent)
    (event : AttestedEvent) (state next : AttestedJob)
    (ran : Library.run (step sha256) (created identity registry names tables) events = some state)
    (taken : state.step sha256 event = some next)
    (before : state.job.status ≠ .completed) (after : next.job.status = .completed) :
    ∃ execution layout links, state.execution = some execution ∧ execution.failure = none ∧
      FullyAttested sha256 next execution.key layout links := by
  have sound : Sound registry sha256 state :=
    run_invariant (fun _ _ _ before taken => Sound.step before taken)
      (Sound.created identity registry names tables) ran
  obtain ⟨execution, run, live, present, phase, free, final, stored, same, registered, counts⟩ :=
    completes_of_status taken before after
  have gathers : state.job.Gathers state.job.registry := sound.gathers.registered.symm ▸ sound.gathers
  obtain ⟨layout, links, attested⟩ := (sound.attesting execution run live present).fullyAttested
    final free (linkedSteps_iff_executed sound.executed gathers present phase)
  refine ⟨execution, layout, links, live, free, ?_⟩
  have subject : next.subject sha256 = state.subject sha256 := by
    unfold AttestedJob.subject
    rw [same]
  exact
    { laid := stored ▸ attested.laid
      signer := attested.signer
      declared := registered ▸ attested.declared
      bundle := stored ▸ attested.bundle
      once := registered ▸ attested.once
      executed := by
        rw [registered, counts]
        exact attested.executed
      stored := stored ▸ attested.stored
      subject := subject ▸ attested.subject }

/-- A stand-in for SHA-256 with sums of the right shape. -/
def sampleSum (data : Bytes) : Text :=
  List.replicate 63 '0' ++ [if data.length % 2 = 0 then '0' else '1']

def sampleIdentity : JobIdentity where
  tenantID := "acme".toList
  jobID := "00000000-0000-0000-0000-000000000001".toList
  config := [1]
  canonical := by decide

def attestsAndFinishes (put : Write) : List AttestedEvent :=
  [.readsRecords, .linksAnalyzer .stored, .acts (.stageStarts .stored), .linksStage [7] .stored,
    .acts (.stageCompletes .stored), .acts (.stageStarts .stored), .linksStage [] .stored,
    .acts (.stageCompletes .stored), .finalizes 5 put]

def analyzesOnce : List AttestedEvent :=
  [.loadsLinks, .createsLayout 9 .stored, .acts (.attempts "classify".toList .stored),
    .analyzerCompletes "classify".toList ⟨none, none⟩ [2] .stored, .acts .passEnds,
    .acts .stageSkipped, .acts .passEnds]

/-- A run whose bundle is not stored, a retry that only finalizes again, and its completion. -/
def finalizedTwice : List AttestedEvent :=
  .begins "k".toList false :: analyzesOnce ++ attestsAndFinishes .lost ++
    [.acts .errors, .acts (.ends [] .stored []), .acts (.retries .stored), .begins "k".toList false,
      .loadsLinks, .createsLayout 9 .stored, .readsRecords, .linksAnalyzer .stored,
      .acts .stageSkipped, .acts .stageSkipped, .finalizes 6 .stored]

theorem completed_only_attested_retried :
    ∃ state next, Library.run (step sampleSum)
        (created sampleIdentity Job.loneAnalyzer
          ["classify".toList, "graph".toList, "synthesis".toList] .empty) finalizedTwice =
        some state ∧
      state.step sampleSum (.acts (.completes .stored)) = some next ∧
      ∃ execution layout links, state.execution = some execution ∧ execution.failure = none ∧
        FullyAttested sampleSum next execution.key layout links := by
  have statuses : ((Library.run (step sampleSum)
      (created sampleIdentity Job.loneAnalyzer
        ["classify".toList, "graph".toList, "synthesis".toList] .empty) finalizedTwice).bind
      fun state => (state.step sampleSum (.acts (.completes .stored))).map fun next =>
        (state.job.status, next.job.status)) = some (.running, .completed) := by
    decide +kernel
  obtain ⟨state, ran, rest⟩ := Option.bind_eq_some_iff.mp statuses
  obtain ⟨next, taken, changed⟩ := Option.map_eq_some_iff.mp rest
  obtain ⟨before, after⟩ := Prod.mk.inj changed
  refine ⟨state, next, ran, taken, ?_⟩
  apply completed_only_attested sampleSum sampleIdentity Job.loneAnalyzer _ .empty finalizedTwice
    (.acts (.completes .stored)) state next ran taken
  · rw [before]
    decide
  · exact after

end AttestedJob

end CrossCodex.Pipeline
