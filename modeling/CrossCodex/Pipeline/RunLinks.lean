/-
The links that a live run holds: each is the honest link of its step over one set of
digests, and no step has two. A list with one such link for each step is accepted by
VerifyChain: the URIs of outputs, of cache manifests and of the job never meet.
-/

import CrossCodex.Pipeline.AttestedCompletion

namespace CrossCodex.Pipeline

open ResultCache List

theorem outputURI_injective {first second : Text} (same : outputURI first = outputURI second) :
    first = second :=
  append_cancel_right same

theorem getLast?_outputURI (name : Text) : (outputURI name).getLast? = some 't' := by
  unfold outputURI
  rw [getLast?_append]
  rfl

theorem outputURI_ne_cacheManifestURI (first second : Text) :
    outputURI first ≠ cacheManifestURI second := by
  intro same
  unfold outputURI cacheManifestURI at same
  -- Both are compared from the right: the two suffixes differ in their fourth letter.
  have ends := congrArg List.reverse same
  rw [reverse_append, reverse_append] at ends
  have fourth := congrArg (fun text : Text => text[3]?) ends
  rw [getElem?_append_left (by decide), getElem?_append_left (by decide)] at fourth
  exact absurd fourth (by decide)

theorem getLast?_cacheManifestURI (name : Text) : (cacheManifestURI name).getLast? = some 't' := by
  unfold cacheManifestURI
  rw [getLast?_append]
  rfl

theorem getLast?_jobURI {tenantID jobID : Text} (canonical : canonicalAttempt jobID = true) :
    (jobURI tenantID jobID).getLast? ≠ some 't' := by
  have long := length_of_canonical canonical
  have given : jobID ≠ [] := by
    intro empty
    rw [empty] at long
    cases long
  unfold jobURI
  rw [getLast?_append, getLast?_eq_some_getLast given]
  intro same
  have last : jobID.getLast given = 't' := Option.some.inj same
  rcases plain_of_canonical canonical (last ▸ getLast_mem given) with dash | hex
  · exact absurd dash (by decide)
  · exact absurd hex (by decide)

theorem Registry.analyzer_ne_stage (registry : Registry) {name : Text}
    (analyzer : name ∈ registry.analyzers) : name ≠ synthesisStep ∧ name ≠ graphStep := by
  constructor
  · rintro rfl
    exact registry.unreserved .synthesis analyzer
  · rintro rfl
    exact registry.unreserved .graph analyzer

theorem mem_linkedPipelineStages {stage : PipelineStage}
    (linked : stage ≠ .candidateGeneration) : stage.stageName ∈ linkedPipelineStages := by
  cases stage with
  | candidateGeneration => exact absurd rfl linked
  | synthesis | graph => decide

structure Digests where
  output : Text → Text
  record : Text → Text
  synthesis : Text

namespace Digests

variable (digests : Digests)

def outputOf (step : Text) : Artifact :=
  ⟨outputURI step, if step = synthesisStep then digests.synthesis else digests.output step⟩

def materials (registry : Registry) (step : Text) : List Artifact :=
  if step = synthesisStep then registry.analyzers.map digests.outputOf
  else if step = graphStep then [digests.outputOf synthesisStep]
  else (registry.dependsOn step).map digests.outputOf ++
    [⟨cacheManifestURI step, digests.record step⟩]

def products (step : Text) : List Artifact :=
  if step = graphStep then [] else [digests.outputOf step]

def link (registry : Registry) (subject : Artifact) (step : Text) : Link :=
  stepLink subject step (digests.materials registry step) (digests.products step)

def signedLink (key : Text) (registry : Registry) (subject : Artifact) (step : Text) :
    SignedLink :=
  ⟨.signed key (digests.link registry subject step), step, digests.products step⟩

variable {digests} {registry : Registry} {subject : Artifact} {steps : List LayoutStep}
  {material : Artifact} {step : Text}

theorem link_products (step : Text) :
    (digests.link registry subject step).products = digests.products step := by
  unfold link stepLink products
  split <;> rfl

theorem analyzer_congr (digests other : Digests) (output : other.output = digests.output)
    (record : other.record = digests.record) {name : Text} (analyzer : name ∈ registry.analyzers) :
    other.materials registry name = digests.materials registry name ∧
      other.products name = digests.products name := by
  have outputs : ∀ step ∈ registry.analyzers, other.outputOf step = digests.outputOf step := by
    intro step mem
    unfold outputOf
    rw [if_neg (registry.analyzer_ne_stage mem).1, if_neg (registry.analyzer_ne_stage mem).1,
      output]
  obtain ⟨notSynthesis, notGraph⟩ := registry.analyzer_ne_stage analyzer
  constructor
  · unfold Digests.materials
    rw [if_neg notSynthesis, if_neg notGraph, if_neg notSynthesis, if_neg notGraph, record]
    congr 1
    apply map_congr_left
    intro dep edge
    exact outputs dep (registry.registered name analyzer dep edge)
  · unfold Digests.products
    rw [if_neg notGraph, if_neg notGraph, outputs name analyzer]

theorem stage_congr (digests other : Digests) (output : other.output = digests.output)
    (synthesis : other.synthesis = digests.synthesis) (stage : step ∈ linkedPipelineStages) :
    other.materials registry step = digests.materials registry step ∧
      other.products step = digests.products step := by
  have outputs : other.outputOf = digests.outputOf := by
    funext name
    unfold outputOf
    rw [output, synthesis]
  rcases mem_pair.mp stage with rfl | rfl
  all_goals
    unfold Digests.materials Digests.products
    rw [outputs]
    exact ⟨rfl, rfl⟩

theorem mem_materials (mem : material ∈ digests.materials registry step) :
    (∃ producer, material = digests.outputOf producer) ∨
      ∃ name, material.uri = cacheManifestURI name := by
  unfold materials at mem
  split at mem
  · obtain ⟨name, _, rfl⟩ := mem_map.mp mem
    exact .inl ⟨name, rfl⟩
  split at mem
  · exact .inl ⟨synthesisStep, mem_singleton.mp mem⟩
  rcases mem_append.mp mem with dep | manifest
  · obtain ⟨name, _, rfl⟩ := mem_map.mp dep
    exact .inl ⟨name, rfl⟩
  · rw [mem_singleton.mp manifest]
    exact .inr ⟨step, rfl⟩

theorem layoutSteps_eq (digests : Digests) (registry : Registry) (subject : Text) :
    registry.layoutSteps subject = registry.linkedSteps.map fun step =>
      ⟨step, subject :: (digests.materials registry step).map Artifact.uri,
        (digests.products step).map Artifact.uri⟩ := by
  simp only [Registry.layoutSteps, Registry.convert, Registry.linkedSteps, linkedPipelineStages,
    map_append, map_map, map_cons, map_nil, flatMap_map]
  have outputs : (registry.analyzers.flatMap fun name => [outputURI name]) =
      (digests.materials registry synthesisStep).map Artifact.uri := by
    unfold materials
    rw [if_pos rfl, map_map, ← map_eq_flatMap]
    rfl
  refine congrArg₂ _ ?_ ?_
  · apply map_congr_left
    intro name analyzer
    obtain ⟨other, another⟩ := registry.analyzer_ne_stage analyzer
    simp only [Function.comp_apply, materials, products, if_neg other, if_neg another,
      map_append, map_map, map_cons, map_nil]
    rfl
  · rw [← outputs]
    rfl

theorem mem_producedBy {links : List Link}
    (honest : ∀ link ∈ links, link = digests.link registry subject link.step)
    {entry : Text × Text × Text} (mem : entry ∈ producedBy links steps) :
    entry.1 = (digests.outputOf entry.2.1).uri ∧ entry.2.2 = (digests.outputOf entry.2.1).digest := by
  obtain ⟨step, _, made, link, found, listed⟩ := mem_producedBy_iff.mp mem
  obtain ⟨present, named⟩ := linkOf_eq_some found
  rw [honest link present, link_products, named, made] at listed
  unfold products at listed
  split at listed
  · cases listed
  · rw [← mem_singleton.mp listed]
    exact ⟨rfl, rfl⟩

/-- The URI of the run is that of no output and of no cache manifest. -/
def Apart (subject : Text) : Prop :=
  ∀ name, subject ≠ outputURI name ∧ subject ≠ cacheManifestURI name

theorem materials_apart (apart : Apart subject.uri)
    (mem : material ∈ digests.materials registry step) : material.uri ≠ subject.uri := by
  intro same
  rcases mem_materials mem with ⟨producer, rfl⟩ | ⟨name, manifest⟩
  · exact (apart producer).1 same.symm
  · exact (apart name).2 (same.symm.trans manifest)

theorem subject_mem_link (apart : Apart subject.uri) (step : Text) :
    subject ∈ (digests.link registry subject step).materials := by
  unfold link stepLink artifactsToHashObj
  rw [if_neg]
  · exact mem_cons_self
  · intro again
    obtain ⟨material, mem, same⟩ := any_eq_true.mp again
    exact materials_apart apart mem (of_decide_eq_true same)

section

variable {links : List Link} (apart : Apart subject.uri)
  (honest : ∀ link ∈ links, link = digests.link registry subject link.step)
include apart honest

theorem breaksChain_eq_false (mem : material ∈ (digests.link registry subject step).materials) :
    breaksChain (producedBy links steps) step material = false := by
  unfold breaksChain
  split
  · rfl
  rename_i producer digest found
  obtain ⟨uri, same⟩ := mem_producedBy honest (mem_of_lookup_eq_some found)
  simp only at uri same
  rcases mem_cons.mp (mem_of_mem_artifactsToHashObj mem) with rfl | recorded
  · exact absurd uri (apart producer).1
  rcases mem_materials recorded with ⟨source, rfl⟩ | ⟨name, manifest⟩
  · rw [outputURI_injective uri, same]
    simp
  · exact absurd (uri.symm.trans manifest) (outputURI_ne_cacheManifestURI producer name)

theorem stepHolds (step : Text) :
    StepHolds subject (producedBy links steps)
      ⟨step, subject.uri :: (digests.materials registry step).map Artifact.uri,
        (digests.products step).map Artifact.uri⟩
      (digests.link registry subject step) where
  named := mem_cons_self
  recorded := by
    apply artifactDigest_artifactsToHashObj mem_cons_self
    intro other mem same
    rcases mem_cons.mp mem with rfl | material
    · rfl
    · exact absurd same (materials_apart apart material)
  materials uri wanted := by
    rw [link, stepLink, artifactsToHashObj_uris, map_cons]
    exact wanted
  products uri wanted := by
    rw [link_products]
    exact wanted
  matching material mem := breaksChain_eq_false apart honest mem

theorem chainHolds {key : Text} {now expires : Nat} (named : subject.uri ≠ [])
    (unexpired : now ≤ expires) (once : (links.map Link.step).Perm registry.linkedSteps) :
    ChainHolds key now ⟨key, registry.layoutSteps subject.uri, expires⟩ links subject where
  named := named
  signed := rfl
  unexpired := unexpired
  declared link mem := by
    rw [registry.layoutSteps_names]
    exact once.subset (mem_map_of_mem mem)
  distinct := once.nodup_iff.mpr registry.linkedSteps_nodup
  steps step declared := by
    rw [digests.layoutSteps_eq] at declared
    obtain ⟨name, linked, rfl⟩ := mem_map.mp declared
    obtain ⟨link, mem, same⟩ := mem_map.mp (once.mem_iff.mpr linked)
    cases found : linkOf links name with
    | none =>
      have absent := find?_eq_none.mp found link mem
      exact absurd (decide_eq_true same) absent
    | some other =>
      obtain ⟨present, step⟩ := linkOf_eq_some found
      refine ⟨other, rfl, ?_⟩
      rw [honest other present, step]
      exact stepHolds apart honest name

end

end Digests

open Library

/-- The stage has a link in this run: loaded, or created before its completed-write. -/
def LinkedIn (execution : Execution) (run : JobRun) (stage : PipelineStage) : Prop :=
  stage.stageName ∈ run.completed ∧ execution.loaded = true ∨
    stage.stageName ∉ run.completed ∧ (stage.next.rank ≤ run.phase.rank ∨
      run.phase = .executing stage ∧ execution.linked = true)

def Execution.awaiting (execution : Execution) (registry : Registry) : List Text :=
  match execution.unlinked with
  | none => registry.analyzers
  | some rest => rest.map Link.step

def IsHonest (key : Text) (registry : Registry) (subject : Artifact) (digests : Digests)
    (link : SignedLink) : Prop :=
  link.step ∈ registry.linkedSteps ∧
    link.raw = .signed key (digests.link registry subject link.step) ∧
    link.products = digests.products link.step

structure Linking (key : Text) (registry : Registry) (subject : Artifact) (digests : Digests)
    (execution : Execution) (run : JobRun) : Prop where
  honest : ∀ link ∈ execution.links, IsHonest key registry subject digests link
  distinct : (execution.links.map SignedLink.step).Nodup
  analyzers : (execution.links.map SignedLink.step).filter (· ∈ registry.analyzers) ++
    execution.awaiting registry = registry.analyzers
  unlinked : ∀ rest, execution.unlinked = some rest → 4 ≤ run.phase.rank ∧
    ∀ link ∈ rest, link.materials = digests.materials registry link.step ∧
      link.products = digests.products link.step
  through : 4 < run.phase.rank → run.phase.rank < 9 →
    execution.unlinked = some [] ∧ execution.layout.isSome = true
  stages : ∀ stage : PipelineStage, stage ≠ .candidateGeneration → run.phase.rank < 9 →
    (stage.stageName ∈ execution.links.map SignedLink.step ↔ LinkedIn execution run stage)
  pending : execution.linked = true → run.phase.rank < 9 → ∃ stage, run.phase = .executing stage
  began : execution.loaded = false →
    execution.links = [] ∧ execution.unlinked = none ∧ execution.linked = false

namespace Linking

variable {key : Text} {registry : Registry} {subject : Artifact} {digests : Digests}
  {execution : Execution} {run : JobRun} {later : JobRun} {stage : PipelineStage}

theorem start (wired : Bool) (early : run.phase = .due .synthesis ∨ run.phase.rank < 4) :
    Linking key registry subject digests (Execution.start key wired) run := by
  have low : run.phase.rank ≤ 4 := by
    rcases early with due | before
    · rw [due]
      decide
    · omega
  constructor
  · intro link mem
    cases mem
  · exact nodup_nil
  · rfl
  · intro rest present
    cases present
  · intro late
    omega
  · intro stage linked _
    constructor
    · intro mem
      cases mem
    · rintro (⟨_, loaded⟩ | ⟨_, passed | ⟨_, pending⟩⟩)
      · cases loaded
      · have high : 6 ≤ stage.next.rank := by
          cases stage with
          | candidateGeneration => exact absurd rfl linked
          | synthesis | graph => decide
        omega
      · cases pending
  · intro pending
    cases pending
  · intro _
    exact ⟨rfl, rfl, rfl⟩

theorem linkedIn_of_phase {laterExecution : Execution}
    (completed : later.completed = run.completed)
    (loaded : laterExecution.loaded = execution.loaded) (moved : stage.stageName ∉ run.completed →
      ((stage.next.rank ≤ later.phase.rank ∨
          later.phase = .executing stage ∧ laterExecution.linked = true) ↔
        (stage.next.rank ≤ run.phase.rank ∨
          run.phase = .executing stage ∧ execution.linked = true))) :
    LinkedIn laterExecution later stage ↔ LinkedIn execution run stage := by
  unfold LinkedIn
  rw [completed, loaded]
  by_cases known : stage.stageName ∈ run.completed
  · simp [known]
  · simp [known, moved known]

variable (linking : Linking key registry subject digests execution run) {rest : List Link}
  {link : Link}
include linking

theorem unlinked_of_idle {phase : JobPhase} (was : run.phase = phase) (going : phase.rank < 9)
    (none : ∀ stage, phase ≠ .executing stage) : execution.linked = false := by
  subst was
  cases pending : execution.linked with
  | false => rfl
  | true =>
    obtain ⟨stage, executing⟩ := linking.pending pending going
    exact absurd executing (none stage)

section

variable {event : JobEvent} (phaseStep : Job.PhaseStep registry run event later.phase)
include phaseStep

/-- Beyond the analyzers' links a stage was started or skipped with all of them signed. -/
theorem moves_through (admitted : execution.admits run.phase event = true)
    (late : 4 < later.phase.rank) (going : later.phase.rank < 9) :
    execution.unlinked = some [] ∧ execution.layout.isSome = true := by
  have rank := phaseStep.rank_le
  cases phaseStep with
  | stays _ now => exact linking.through (now ▸ late) (now ▸ going)
  | @passEnds pass _ now _ =>
    rw [now] at late
    cases pass <;> exact absurd late (by decide)
  | @skips stage was now taken _ | @starts stage _ was now taken =>
    rw [now] at late
    rw [was, taken] at admitted
    cases stage with
    | candidateGeneration => exact absurd late (by decide)
    | synthesis | graph =>
      simp only [Execution.admits, Bool.and_eq_true, Bool.or_eq_true, decide_eq_true_eq]
        at admitted
      exact ⟨admitted.2.resolve_left (by simp), admitted.1.2⟩
  | @completes stage _ was now _ =>
    rw [now] at late
    apply linking.through
    · rw [was]
      cases stage with
      | candidateGeneration => exact absurd late (by decide)
      | synthesis | graph => decide
    · exact lt_of_le_of_lt rank going
  | givesUp last => omega

theorem moves_linkedIn (completed : later.completed = run.completed)
    (fresh : ∀ stage, run.phase = .executing stage → stage.stageName ∉ run.completed)
    (admitted : execution.admits run.phase event = true) (linked : stage ≠ .candidateGeneration)
    (going : later.phase.rank < 9) :
    LinkedIn execution run stage ↔ LinkedIn (execution.after event) later stage := by
  have loaded := (execution.continues_after event).loaded
  cases phaseStep with
  | stays open_ now =>
    have same : execution.after event = execution := by
      cases event with
      | stageCompletes write => exact absurd rfl (open_ write)
      | _ => rfl
    refine (linkedIn_of_phase completed loaded fun _ => ?_).symm
    rw [now, same]
  | @passEnds pass was now taken =>
    refine (linkedIn_of_phase completed loaded fun _ => ?_).symm
    rw [now, was]
    cases pass <;> cases stage <;>
      first | exact absurd rfl linked | simp [Pass.next, PipelineStage.next, JobPhase.rank]
  | @skips other was now taken skipped =>
    refine (linkedIn_of_phase completed loaded fun unknown => ?_).symm
    have ne : stage ≠ other := by
      rintro rfl
      simp [JobRun.skips, unknown, linked] at skipped
    rw [now, was]
    cases stage <;> cases other <;>
      first | exact absurd rfl linked | exact absurd rfl ne |
        simp [PipelineStage.next, JobPhase.rank]
  | @starts other _ was now taken =>
    have unsent := linking.unlinked_of_idle was (by cases other <;> decide) (by simp)
    have same : (execution.after event).linked = false := by rw [taken]; exact unsent
    refine (linkedIn_of_phase completed loaded fun _ => ?_).symm
    rw [now, was, same, unsent]
    cases stage <;> cases other <;>
      first | exact absurd rfl linked | simp [PipelineStage.next, JobPhase.rank]
  | @completes other _ was now taken =>
    by_cases here : stage = other
    · subst here
      rw [was, taken] at admitted
      simp only [Execution.admits, Bool.and_eq_true, Bool.or_eq_true, decide_eq_true_eq,
        JobPhase.executing.injEq, linked, false_or] at admitted
      have unknown := fresh stage was
      constructor
      · intro _
        exact .inr ⟨completed ▸ unknown, .inl (now ▸ le_rfl)⟩
      · intro _
        exact .inr ⟨unknown, .inr ⟨was, admitted.2⟩⟩
    · refine (linkedIn_of_phase completed loaded fun _ => ?_).symm
      rw [now, was]
      cases stage <;> cases other <;>
        first | exact absurd rfl linked | exact absurd rfl here |
          simp [PipelineStage.next, JobPhase.rank]
  | givesUp last => omega

theorem moves_pending (pending : (execution.after event).linked = true)
    (going : later.phase.rank < 9) : ∃ stage, later.phase = .executing stage := by
  cases phaseStep with
  | stays open_ now =>
    rw [now] at going ⊢
    apply linking.pending _ going
    cases event with
    | stageCompletes write => exact absurd rfl (open_ write)
    | _ => exact pending
  | @passEnds pass was now taken =>
    have unsent := linking.unlinked_of_idle was (by cases pass <;> decide) (by simp)
    rw [taken] at pending
    exact absurd (unsent.symm.trans pending) (by decide)
  | @skips stage was now taken _ =>
    have unsent := linking.unlinked_of_idle was (by cases stage <;> decide) (by simp)
    rw [taken] at pending
    exact absurd (unsent.symm.trans pending) (by decide)
  | @starts stage _ was now taken => exact ⟨stage, now⟩
  | completes was now taken =>
    rw [taken] at pending
    cases pending
  | givesUp last => omega

theorem moves (completed : later.completed = run.completed)
    (fresh : ∀ stage, run.phase = .executing stage → stage.stageName ∉ run.completed)
    (admitted : execution.admits run.phase event = true) :
    Linking key registry subject digests (execution.after event) later := by
  have rank := phaseStep.rank_le
  obtain ⟨_, loaded, layout, links, _⟩ := execution.continues_after event
  have unlinked : (execution.after event).unlinked = execution.unlinked := by cases event <;> rfl
  have awaiting : (execution.after event).awaiting registry = execution.awaiting registry := by
    unfold Execution.awaiting
    rw [unlinked]
  constructor
  · rw [links]
    exact linking.honest
  · rw [links]
    exact linking.distinct
  · rw [links, awaiting]
    exact linking.analyzers
  · rw [unlinked]
    intro rest present
    obtain ⟨reached, genuine⟩ := linking.unlinked rest present
    exact ⟨reached.trans rank, genuine⟩
  · intro late going
    rw [unlinked, layout]
    exact linking.moves_through phaseStep admitted late going
  · intro stage linked going
    rw [links, linking.stages stage linked (lt_of_le_of_lt rank going)]
    exact linking.moves_linkedIn phaseStep completed fresh admitted linked going
  · exact linking.moves_pending phaseStep
  · intro unread
    rw [loaded] at unread
    rw [links, unlinked]
    obtain ⟨noLinks, unlinked, unsent⟩ := linking.began unread
    refine ⟨noLinks, unlinked, ?_⟩
    cases event with
    | stageCompletes write => rfl
    | _ => exact unsent

end

theorem transport {later : Execution} (links : later.links = execution.links)
    (unlinked : later.unlinked = execution.unlinked) (loaded : later.loaded = execution.loaded)
    (linked : later.linked = execution.linked)
    (layout : execution.layout.isSome = true → later.layout.isSome = true) :
    Linking key registry subject digests later run := by
  constructor
  · rw [links]
    exact linking.honest
  · rw [links]
    exact linking.distinct
  · unfold Execution.awaiting
    rw [links, unlinked]
    exact linking.analyzers
  · rw [unlinked]
    exact linking.unlinked
  · intro late going
    rw [unlinked]
    exact ⟨(linking.through late going).1, layout (linking.through late going).2⟩
  · intro stage other going
    unfold LinkedIn
    rw [links, loaded, linked]
    exact linking.stages stage other going
  · rw [linked]
    exact linking.pending
  · rw [loaded, links, unlinked, linked]
    exact linking.began

theorem mem_analyzers_of_unlinked (present : execution.unlinked = some rest) (mem : link ∈ rest) :
    link.step ∈ registry.analyzers := by
  have whole := linking.analyzers
  unfold Execution.awaiting at whole
  rw [present] at whole
  rw [← whole]
  exact mem_append_right _ (mem_map_of_mem mem)

theorem recast {other : Digests} (links : ∀ link ∈ execution.links,
      other.materials registry link.step = digests.materials registry link.step ∧
        other.products link.step = digests.products link.step)
    (unlinked : ∀ rest, execution.unlinked = some rest → ∀ link ∈ rest,
      other.materials registry link.step = digests.materials registry link.step ∧
        other.products link.step = digests.products link.step) :
    Linking key registry subject other execution run :=
  { linking with
    honest := fun link mem => by
      obtain ⟨linked, raw, products⟩ := linking.honest link mem
      obtain ⟨sameMaterials, sameProducts⟩ := links link mem
      refine ⟨linked, ?_, products.trans sameProducts.symm⟩
      unfold Digests.link at raw ⊢
      rw [sameMaterials, sameProducts]
      exact raw
    unlinked := fun rest present => by
      obtain ⟨reached, genuine⟩ := linking.unlinked rest present
      refine ⟨reached, fun link mem => ?_⟩
      obtain ⟨sameMaterials, sameProducts⟩ := unlinked rest present link mem
      rw [sameMaterials, sameProducts]
      exact genuine link mem }

theorem loads (unread : execution.loaded = false) {links : List SignedLink}
    (honest : ∀ link ∈ links, IsHonest key registry subject digests link)
    (steps : links.map SignedLink.step =
      linkedPipelineStages.filter fun step => step ∈ run.completed) :
    Linking key registry subject digests { execution with loaded := true, links := links } run := by
  obtain ⟨noLinks, none, unsent⟩ := linking.began unread
  constructor
  · exact honest
  · rw [steps]
    exact List.Nodup.filter _ (by decide)
  · have whole : ({ execution with loaded := true, links := links }).awaiting registry =
        registry.analyzers := by
      unfold Execution.awaiting
      simp only [none]
    have apart : (links.map SignedLink.step).filter (· ∈ registry.analyzers) = [] := by
      rw [steps, filter_eq_nil_iff]
      intro step mem analyzer
      have stage := (mem_filter.mp mem).1
      obtain ⟨notSynthesis, notGraph⟩ := registry.analyzer_ne_stage (of_decide_eq_true analyzer)
      rcases mem_pair.mp stage with rfl | rfl
      · exact notSynthesis rfl
      · exact notGraph rfl
    rw [whole, apart, nil_append]
  · intro rest present
    exact absurd (none.symm.trans present) (by simp)
  · intro late going
    exact absurd (none.symm.trans (linking.through late going).1) (by simp)
  · intro stage linked going
    have absent : ¬LinkedIn execution run stage := by
      rw [← linking.stages stage linked going, noLinks]
      exact not_mem_nil
    have listed := mem_linkedPipelineStages linked
    rw [steps, mem_filter, decide_eq_true_eq]
    constructor
    · intro mem
      exact .inl ⟨mem.2, rfl⟩
    · rintro (⟨known, _⟩ | later)
      · exact ⟨listed, known⟩
      · exact absurd (.inr later) absent
  · intro pending
    exact absurd (unsent.symm.trans pending) (by decide)
  · intro again
    cases again

theorem reads (unread : execution.unlinked = none) (loaded : execution.loaded = true)
    (phase : run.phase = .due .synthesis) {links : List Link}
    (steps : links.map Link.step = registry.analyzers)
    (genuine : ∀ link ∈ links, link.materials = digests.materials registry link.step ∧
      link.products = digests.products link.step) :
    Linking key registry subject digests { execution with unlinked := some links } run := by
  have rank : run.phase.rank = 4 := by rw [phase]; rfl
  have whole := linking.analyzers
  unfold Execution.awaiting at whole
  rw [unread] at whole
  exact
    { linking with
      analyzers := by
        change _ ++ links.map Link.step = _
        rw [steps]
        exact whole
      unlinked := fun rest present => by
        cases present
        exact ⟨rank.ge, genuine⟩
      through := fun late => by omega
      began := fun again => absurd (loaded.symm.trans again) (by decide) }

theorem createsAnalyzer (due : execution.unlinked = some (link :: rest)) :
    Linking key registry subject digests
      { execution with
        links := execution.links ++
          [createLink key subject link.step link.materials link.products]
        unlinked := some rest } run := by
  have analyzer := linking.mem_analyzers_of_unlinked due mem_cons_self
  obtain ⟨reached, genuine⟩ := linking.unlinked _ due
  have whole := linking.analyzers
  unfold Execution.awaiting at whole
  rw [due] at whole
  have absent : link.step ∉ execution.links.map SignedLink.step := by
    intro mem
    have nodup := registry.distinct
    rw [← whole] at nodup
    exact disjoint_of_nodup_append nodup
      (mem_filter.mpr ⟨mem, decide_eq_true analyzer⟩) mem_cons_self
  constructor
  · obtain ⟨materials, products⟩ := genuine link mem_cons_self
    refine forall_mem_concat linking.honest ⟨mem_append_left _ analyzer, ?_, products⟩
    simp only [createLink, Digests.link, materials, products]
  · rw [map_append]
    exact linking.distinct.append (nodup_singleton _) (by simpa [createLink] using absent)
  · unfold Execution.awaiting
    simp only [map_append, filter_append, map_cons, map_nil, append_assoc]
    have kept : [link.step].filter (· ∈ registry.analyzers) = [link.step] := by
      rw [filter_cons_of_pos (by simpa using analyzer)]
      rfl
    exact (congrArg (fun steps => _ ++ (steps ++ _)) kept).trans whole
  · intro later present
    cases present
    exact ⟨reached, fun other mem => genuine other (mem_cons_of_mem _ mem)⟩
  · intro late going
    exact absurd (due.symm.trans (linking.through late going).1) (by simp)
  · intro stage linked going
    have ne : stage.stageName ≠ link.step := by
      intro same
      exact registry.unreserved stage (same ▸ analyzer)
    rw [map_append, mem_append, linking.stages stage linked going]
    exact ⟨fun either => either.resolve_right (by simpa [createLink] using ne), .inl⟩
  · exact linking.pending
  · intro unread
    exact absurd (due.symm.trans (linking.began unread).2.1) (by simp)

theorem createsStage (linked : stage ≠ .candidateGeneration)
    (phase : run.phase = .executing stage) (unsent : execution.linked = false)
    (fresh : stage.stageName ∉ run.completed) :
    Linking key registry subject digests
      { execution with
        links := execution.links ++
          [createLink key subject stage.stageName (digests.materials registry stage.stageName)
            (digests.products stage.stageName)]
        linked := true } run := by
  have going : run.phase.rank < 9 := by
    rw [phase]
    cases stage <;> decide
  have late : 4 < run.phase.rank := by
    rw [phase]
    cases stage with
    | candidateGeneration => exact absurd rfl linked
    | synthesis | graph => decide
  have absent : stage.stageName ∉ execution.links.map SignedLink.step := by
    rw [linking.stages stage linked going]
    rintro (⟨known, _⟩ | ⟨_, passed | ⟨_, sent⟩⟩)
    · exact fresh known
    · rw [phase] at passed
      have after := stage.rank_executing
      omega
    · exact absurd (unsent.symm.trans sent) (by decide)
  constructor
  · exact forall_mem_concat linking.honest
      ⟨mem_append_right _ (mem_linkedPipelineStages linked), rfl, rfl⟩
  · rw [map_append]
    exact linking.distinct.append (nodup_singleton _) (by simpa [createLink] using absent)
  · have apart : [stage.stageName].filter (· ∈ registry.analyzers) = [] := by
      rw [filter_cons_of_neg (by simpa using registry.unreserved stage)]
      rfl
    simp only [map_append, filter_append, map_cons, map_nil]
    refine (congrArg (fun steps => _ ++ steps ++ _) apart).trans ?_
    rw [append_nil]
    exact linking.analyzers
  · exact linking.unlinked
  · exact linking.through
  · intro other otherLinked _
    rw [map_append, mem_append, linking.stages other otherLinked going]
    by_cases same : other = stage
    · subst same
      constructor
      · intro _
        exact .inr ⟨fresh, .inr ⟨phase, rfl⟩⟩
      · intro _
        exact .inr mem_cons_self
    · have ne : other.stageName ≠ stage.stageName := fun equal =>
        same (PipelineStage.stageName_injective equal)
      have elsewhere : run.phase ≠ .executing other := by
        rw [phase]
        intro equal
        exact same (JobPhase.executing.inj equal).symm
      unfold LinkedIn
      simp [elsewhere, ne, createLink]
  · exact fun _ _ => ⟨stage, phase⟩
  · intro unread
    exact absurd ((linking.began unread).2.1.symm.trans (linking.through late going).1) (by simp)

theorem complete (late : 4 < run.phase.rank) (going : run.phase.rank < 9) :
    (execution.links.map SignedLink.step).filter (· ∈ registry.analyzers) =
      registry.analyzers := by
  have whole := linking.analyzers
  unfold Execution.awaiting at whole
  rw [(linking.through late going).1] at whole
  exact (append_nil _).symm.trans whole

theorem synthesis_materials (late : 4 < run.phase.rank) (going : run.phase.rank < 9) :
    (execution.links.filter fun link => link.step ∈ registry.analyzers).flatMap
      SignedLink.products = digests.materials registry synthesisStep := by
  have each : (execution.links.filter fun link => link.step ∈ registry.analyzers).flatMap
      SignedLink.products =
      (execution.links.filter fun link => link.step ∈ registry.analyzers).flatMap
        fun link => [digests.outputOf link.step] := by
    apply flatMap_congr
    intro link mem
    obtain ⟨present, analyzer⟩ := mem_filter.mp mem
    rw [(linking.honest link present).2.2]
    unfold Digests.products
    rw [if_neg (registry.analyzer_ne_stage (of_decide_eq_true analyzer)).2]
  have steps := linking.complete late going
  rw [filter_map] at steps
  rw [each, ← map_eq_flatMap]
  unfold Digests.materials
  rw [if_pos rfl]
  have outputs := congrArg (List.map digests.outputOf) steps
  rw [map_map] at outputs
  exact outputs

theorem graph_materials (phase : run.phase = .executing .graph) :
    ((execution.links.reverse.find? fun link => link.step = synthesisStep).map
      SignedLink.products).getD [] = digests.materials registry graphStep := by
  have going : run.phase.rank < 9 := by rw [phase]; decide
  have late : 4 < run.phase.rank := by rw [phase]; decide
  have loaded : execution.loaded = true := by
    cases read : execution.loaded with
    | true => rfl
    | false =>
      exact absurd ((linking.began read).2.1.symm.trans (linking.through late going).1) (by simp)
  have present : synthesisStep ∈ execution.links.map SignedLink.step := by
    apply (linking.stages .synthesis (by decide) going).mpr
    by_cases known : PipelineStage.synthesis.stageName ∈ run.completed
    · exact .inl ⟨known, loaded⟩
    · exact .inr ⟨known, .inl (by rw [phase]; decide)⟩
  obtain ⟨link, mem, step⟩ := mem_map.mp present
  cases found : execution.links.reverse.find? fun link => link.step = synthesisStep with
  | none =>
    have absent := find?_eq_none.mp found link (mem_reverse.mpr mem)
    exact absurd (decide_eq_true step) absent
  | some other =>
    have named : other.step = synthesisStep := by simpa using find?_some found
    have listed := mem_reverse.mp (mem_of_find?_eq_some found)
    rw [Option.map_some, Option.getD_some, (linking.honest other listed).2.2, named]
    rfl

theorem steps_perm (phase : run.phase = .finalizing) (loaded : execution.loaded = true) :
    (execution.links.map SignedLink.step).Perm registry.linkedSteps := by
  have late : 4 < run.phase.rank := by rw [phase]; decide
  have going : run.phase.rank < 9 := by rw [phase]; decide
  have staged : ∀ stage : PipelineStage, stage ≠ .candidateGeneration →
      stage.stageName ∈ execution.links.map SignedLink.step := by
    intro stage linked
    rw [linking.stages stage linked going]
    by_cases known : stage.stageName ∈ run.completed
    · exact .inl ⟨known, loaded⟩
    · refine .inr ⟨known, .inl ?_⟩
      rw [phase]
      cases stage <;> decide
  rw [perm_ext_iff_of_nodup linking.distinct registry.linkedSteps_nodup]
  intro step
  constructor
  · intro mem
    obtain ⟨link, present, rfl⟩ := mem_map.mp mem
    exact (linking.honest link present).1
  · intro mem
    rcases mem_append.mp mem with analyzer | stage
    · rw [← linking.complete late going] at analyzer
      exact (mem_filter.mp analyzer).1
    · rcases mem_pair.mp stage with rfl | rfl
      · exact staged .synthesis (by decide)
      · exact staged .graph (by decide)

theorem stage_of_unread (unread : execution.unlinked = none) {link : SignedLink}
    (mem : link ∈ execution.links) : link.step ∈ linkedPipelineStages := by
  have whole := linking.analyzers
  unfold Execution.awaiting at whole
  rw [unread] at whole
  have none : (execution.links.map SignedLink.step).filter (· ∈ registry.analyzers) = [] := by
    have lengths := congrArg List.length whole
    exact eq_nil_of_length_eq_zero (by simpa using lengths)
  rcases mem_append.mp (linking.honest link mem).1 with analyzer | stage
  · exact absurd (decide_eq_true analyzer)
      (filter_eq_nil_iff.mp none link.step (mem_map_of_mem mem))
  · exact stage

theorem no_links {pass : Pass} (phase : run.phase = .passing pass)
    (unknown : ∀ step ∈ linkedPipelineStages, step ∉ run.completed) :
    execution.links = [] ∧ execution.unlinked = none := by
  have low : run.phase.rank < 4 := by
    rw [phase]
    cases pass <;> decide
  have unread : execution.unlinked = none := by
    cases read : execution.unlinked with
    | none => rfl
    | some rest =>
      have reached := (linking.unlinked rest read).1
      omega
  refine ⟨eq_nil_iff_forall_not_mem.mpr fun link mem => ?_, unread⟩
  have listed : link.step ∈ execution.links.map SignedLink.step := mem_map_of_mem mem
  have stage : ∀ stage : PipelineStage, stage ≠ .candidateGeneration →
      stage.stageName ∉ execution.links.map SignedLink.step := by
    intro stage linked there
    rcases (linking.stages stage linked (by omega)).mp there with
      ⟨known, _⟩ | ⟨_, passed | ⟨executing, _⟩⟩
    · exact unknown _ (mem_linkedPipelineStages linked) known
    · have high : 6 ≤ stage.next.rank := by
        cases stage with
        | candidateGeneration => exact absurd rfl linked
        | synthesis | graph => decide
      omega
    · rw [phase] at executing
      cases executing
  rcases mem_pair.mp (linking.stage_of_unread unread mem) with same | same
  · rw [same] at listed
    exact stage .synthesis (by decide) listed
  · rw [same] at listed
    exact stage .graph (by decide) listed

theorem ofRun (phase : later.phase = run.phase) (completed : later.completed = run.completed) :
    Linking key registry subject digests execution later := by
  refine { linking with unlinked := ?_, through := ?_, stages := ?_, pending := ?_ }
  · rw [phase]
    exact linking.unlinked
  · rw [phase]
    exact linking.through
  · unfold LinkedIn
    rw [phase, completed]
    exact linking.stages
  · rw [phase]
    exact linking.pending

end Linking

end CrossCodex.Pipeline
