/-
When the task IDs of one stage are distinct. The engine keys results, cache origins and
votes by task ID and never checks it.
-/

import CrossCodex.Analyzer.GenerateWork

namespace CrossCodex.Analyzer

open Library List

def panelTaskIDs (analyzerName subject : Text) (cfg : PanelConfig) : List Text :=
  cfg.models.flatMap fun model =>
    (List.range cfg.samplesPerModel).map (controlTaskID analyzerName subject model)

def Embedding.taskIDs (env : Environment) (cfg : EmbeddingConfig) (input : Control) :
    List Text :=
  if Embedding.skips env input then [subjectTaskID "embedding".toList input.controlId]
  else cfg.models.map fun model =>
    subjectTaskID "embedding".toList (input.controlId ++ '-' :: model)

def Artifacts.taskIDs (cfg : ArtifactsConfig) (input : Control) : List Text :=
  if input.sectionOrWithdrawn then [skipTaskID "artifacts".toList input.identifier]
  else panelTaskIDs "artifacts".toList input.identifier cfg.toPanelConfig

def CandidatePair.subject (pair : CandidatePair) : Text :=
  pairSubject pair.sourceControlID pair.targetControlID

theorem panelTasks_taskIDs (analyzerName subject : Text) (cfg : PanelConfig)
    (spec : PromptSpec) (contentHash : Text) (messages : List ChatMessage)
    (subjectFields extraFields : List (String × Value)) :
    (panelTasks analyzerName subject cfg spec contentHash messages subjectFields
      extraFields).map Task.taskID = panelTaskIDs analyzerName subject cfg := by
  unfold panelTasks panelTaskIDs
  rw [map_flatMap]
  apply flatMap_congr
  intro model _member
  rw [map_map]
  rfl

variable {env : Environment} {tasks : List Task} {input : Control}

theorem Classify.generateWork_taskIDs {cfg : ClassifyConfig}
    (generated : Classify.generateWork env cfg input = .ok tasks) :
    tasks.map Task.taskID = [subjectTaskID "classify".toList input.controlId] := by
  obtain ⟨tenantID, _found, generated⟩ := bind_eq_ok.mp generated
  by_cases skipped : input.sectionOrWithdrawn = true
  · rw [if_pos skipped] at generated
    cases generated
    rfl
  · rw [if_neg skipped] at generated
    obtain ⟨spec, _resolved, generated⟩ := bind_eq_ok.mp generated
    obtain ⟨messages, _rendered, generated⟩ := bind_eq_ok.mp generated
    cases generated
    rfl

theorem Embedding.generateWork_taskIDs {cfg : EmbeddingConfig}
    (generated : Embedding.generateWork env cfg input = .ok tasks) :
    tasks.map Task.taskID = Embedding.taskIDs env cfg input := by
  unfold Embedding.taskIDs
  obtain ⟨tenantID, _found, generated⟩ := bind_eq_ok.mp generated
  by_cases skipped : Embedding.skips env input = true
  · rw [if_pos skipped] at generated ⊢
    cases generated
    rfl
  · rw [if_neg skipped] at generated ⊢
    cases generated
    rw [map_map]
    rfl

variable {parameters : Text → Option Text} {analyzerName right left : Text}
  {pairs : Except Text (List CandidatePair)} {cfg : PanelConfig} {scoreField : String}
  {models : List Text} {rightSample leftSample : Nat} {rightModel leftModel : Text}

theorem Artifacts.generateWork_taskIDs {cfg : ArtifactsConfig}
    (generated : Artifacts.generateWork env cfg parameters input = .ok tasks) :
    tasks.map Task.taskID = Artifacts.taskIDs cfg input := by
  unfold Artifacts.taskIDs
  obtain ⟨tenantID, _found, generated⟩ := bind_eq_ok.mp generated
  by_cases skipped : input.sectionOrWithdrawn = true
  · rw [if_pos skipped] at generated ⊢
    cases generated
    rfl
  · rw [if_neg skipped] at generated ⊢
    obtain ⟨spec, _resolved, generated⟩ := bind_eq_ok.mp generated
    obtain ⟨messages, _rendered, generated⟩ := bind_eq_ok.mp generated
    cases generated
    apply panelTasks_taskIDs

theorem pairTasks_taskIDs {cfg : PairConfig} {spec : PromptSpec} {pair : CandidatePair}
    (generated : pairTasks env analyzerName scoreField cfg parameters spec pair = .ok tasks) :
    tasks.map Task.taskID = panelTaskIDs analyzerName pair.subject cfg.toPanelConfig := by
  simp only [pairTasks] at generated
  split at generated
  · cases generated
  · obtain ⟨messages, _rendered, generated⟩ := bind_eq_ok.mp generated
    cases generated
    apply panelTasks_taskIDs

theorem pairGenerateWork_taskIDs {cfg : PairConfig}
    (generated : pairGenerateWork env analyzerName scoreField cfg parameters pairs = .ok tasks) :
    ∃ found, pairs = .ok found ∧
      tasks.map Task.taskID = found.flatMap fun pair =>
        panelTaskIDs analyzerName pair.subject cfg.toPanelConfig := by
  obtain ⟨tenantID, _found, generated⟩ := bind_eq_ok.mp generated
  split at generated
  · cases generated
  · obtain ⟨found, read, generated⟩ := bind_eq_ok.mp generated
    refine ⟨found, wrapError_eq_ok.mp read, ?_⟩
    split at generated
    · rename_i empty
      cases generated
      rw [empty]
      rfl
    · obtain ⟨spec, _resolved, generated⟩ := bind_eq_ok.mp generated
      exact gatherEach_view (fun _pair _tasks each => pairTasks_taskIDs each) generated

theorem sampleJoin_eq_iff :
    left ++ '-' :: 's' :: formatSample leftSample =
        right ++ '-' :: 's' :: formatSample rightSample ↔
      left = right ∧ leftSample = rightSample := by
  constructor
  · intro same
    have digits := congrArg reSampleSuffix same
    rw [reSampleSuffix_join, reSampleSuffix_join, Option.some.injEq] at digits
    have samples := formatSample_injective digits
    subst samples
    exact ⟨append_cancel_right same, rfl⟩
  · rintro ⟨rfl, rfl⟩
    rfl

theorem subjectTaskID_inj :
    subjectTaskID analyzerName left = subjectTaskID analyzerName right ↔ left = right := by
  simp [subjectTaskID]

theorem controlTaskID_eq_iff :
    controlTaskID analyzerName left leftModel leftSample =
        controlTaskID analyzerName right rightModel rightSample ↔
      left ++ '-' :: leftModel = right ++ '-' :: rightModel ∧ leftSample = rightSample := by
  rw [controlTaskID, controlTaskID, subjectTaskID_inj, ← sampleJoin_eq_iff]
  simp

theorem skipTaskID_ne_controlTaskID (analyzerName left right model : Text) (sample : Nat) :
    skipTaskID analyzerName left ≠ controlTaskID analyzerName right model sample := by
  intro same
  rw [skipTaskID, controlTaskID, subjectTaskID_inj] at same
  apply not_skip_suffix_sample (right ++ '-' :: model) sample
  refine ⟨left, ?_⟩
  rw [same]
  simp

/-- Two distinct pairs join to one subject only by sharing text around `--`. -/
def PairSplices (left right : CandidatePair) : Prop :=
  (right.sourceControlID = left.sourceControlID ++ ['-'] ∧
      left.targetControlID = '-' :: right.targetControlID) ∨
    ∃ piece, right.sourceControlID = left.sourceControlID ++ '-' :: '-' :: piece ∧
      left.targetControlID = piece ++ '-' :: '-' :: right.targetControlID

def CandidatePair.ends (pair : CandidatePair) : Text × Text :=
  (pair.sourceControlID, pair.targetControlID)

private theorem pairSplices_of_extension {left right : CandidatePair} {piece : Text}
    (source : right.sourceControlID = left.sourceControlID ++ piece)
    (target : '-' :: '-' :: left.targetControlID =
      piece ++ '-' :: '-' :: right.targetControlID) :
    left.ends = right.ends ∨ PairSplices left right := by
  cases piece with
  | nil =>
    left
    simp only [append_nil, nil_append, List.cons.injEq, true_and] at source target
    exact Prod.ext source.symm target
  | cons first piece =>
    right
    cases piece with
    | nil =>
      simp only [cons_append, nil_append, List.cons.injEq] at target
      rcases target with ⟨rfl, _second, target⟩
      exact Or.inl ⟨source, target⟩
    | cons second piece =>
      simp only [cons_append, List.cons.injEq] at target
      rcases target with ⟨rfl, rfl, target⟩
      exact Or.inr ⟨piece, source, target⟩

theorem pairSubject_eq_iff {left right : CandidatePair} :
    left.subject = right.subject ↔
      left.ends = right.ends ∨ PairSplices left right ∨ PairSplices right left := by
  unfold CandidatePair.subject pairSubject
  constructor
  · intro same
    rcases append_eq_append_iff.mp same with
      ⟨piece, source, target⟩ | ⟨piece, source, target⟩
    · rcases pairSplices_of_extension source target with equal | splices
      · exact Or.inl equal
      · exact Or.inr (Or.inl splices)
    · rcases pairSplices_of_extension source target with equal | splices
      · exact Or.inl equal.symm
      · exact Or.inr (Or.inr splices)
  · intro shape
    rcases shape with equal | (⟨source, target⟩ | ⟨piece, source, target⟩) |
      (⟨source, target⟩ | ⟨piece, source, target⟩)
    · simp only [CandidatePair.ends, Prod.mk.injEq] at equal
      rw [equal.1, equal.2]
    all_goals
      rw [source, target]
      simp

/-! ### Disjointness of the IDs of two subjects -/

/-- No `left-model` is cut differently as a `right-model` of another model. -/
def NoSplice (models : List Text) (left right : Text) : Prop :=
  ∀ leftModel ∈ models, ∀ rightModel ∈ models,
    ¬ Splices '-' left leftModel right rightModel ∧
      ¬ Splices '-' right rightModel left leftModel

def PanelSeparate (cfg : PanelConfig) (left right : Text) : Prop :=
  cfg.models ≠ [] → 0 < cfg.samplesPerModel →
    left ≠ right ∧ NoSplice cfg.models left right

theorem join_ne_join_of_noSplice (nodup : left ≠ right) (separate : NoSplice models left right)
    (leftListed : leftModel ∈ models) (rightListed : rightModel ∈ models) :
    left ++ '-' :: leftModel ≠ right ++ '-' :: rightModel := by
  intro same
  have unspliced := separate leftModel leftListed rightModel rightListed
  rcases join_eq_join_iff.mp same with equal | forward | backward
  · exact nodup equal.1
  · exact unspliced.1 forward
  · exact unspliced.2 backward

theorem noSplice_of_join_ne_join (differ : ∀ leftModel ∈ models, ∀ rightModel ∈ models,
      left ++ '-' :: leftModel ≠ right ++ '-' :: rightModel) : NoSplice models left right := by
  intro leftModel leftListed rightModel rightListed
  have apart := differ leftModel leftListed rightModel rightListed
  constructor
  · intro forward
    exact apart (join_eq_join_iff.mpr (Or.inr (Or.inl forward)))
  · intro backward
    exact apart (join_eq_join_iff.mpr (Or.inr (Or.inr backward)))

theorem mem_panelTaskIDs {subject taskID : Text} :
    taskID ∈ panelTaskIDs analyzerName subject cfg ↔
      ∃ model ∈ cfg.models, ∃ sample < cfg.samplesPerModel,
        controlTaskID analyzerName subject model sample = taskID := by
  simp [panelTaskIDs]

theorem panelTaskIDs_nodup (nodup : cfg.models.Nodup) (analyzerName subject : Text) :
    (panelTaskIDs analyzerName subject cfg).Nodup := by
  unfold panelTaskIDs
  rw [nodup_flatMap]
  constructor
  · intro model _listed
    apply List.Nodup.map _ nodup_range
    intro leftSample rightSample same
    exact (controlTaskID_eq_iff.mp same).2
  · apply nodup.imp
    intro leftModel rightModel differ taskID inLeft inRight
    obtain ⟨leftSample, _leftBound, leftID⟩ := mem_map.mp inLeft
    obtain ⟨rightSample, _rightBound, rightID⟩ := mem_map.mp inRight
    have joined := (controlTaskID_eq_iff.mp (leftID.trans rightID.symm)).1
    apply differ
    simpa using joined

theorem panelTaskIDs_disjoint_iff (analyzerName : Text) (cfg : PanelConfig) (left right : Text) :
    (panelTaskIDs analyzerName left cfg).Disjoint (panelTaskIDs analyzerName right cfg) ↔
      PanelSeparate cfg left right := by
  constructor
  · intro disjoint nonempty positive
    -- A shared text `left-model = right-model` would share the ID of sample zero.
    have apart : ∀ leftModel ∈ cfg.models, ∀ rightModel ∈ cfg.models,
        left ++ '-' :: leftModel ≠ right ++ '-' :: rightModel := by
      intro leftModel leftListed rightModel rightListed same
      apply disjoint (mem_panelTaskIDs.mpr ⟨leftModel, leftListed, 0, positive, rfl⟩)
      refine mem_panelTaskIDs.mpr ⟨rightModel, rightListed, 0, positive, ?_⟩
      exact controlTaskID_eq_iff.mpr ⟨same.symm, rfl⟩
    refine ⟨?_, noSplice_of_join_ne_join apart⟩
    intro same
    obtain ⟨model, listed⟩ := exists_mem_of_ne_nil _ nonempty
    exact apart model listed model listed (by rw [same])
  · intro separate taskID inLeft inRight
    obtain ⟨leftModel, leftListed, leftSample, leftBound, leftID⟩ := mem_panelTaskIDs.mp inLeft
    obtain ⟨rightModel, rightListed, rightSample, _bound, rightID⟩ :=
      mem_panelTaskIDs.mp inRight
    have nonempty : cfg.models ≠ [] := ne_nil_of_mem leftListed
    have parts := separate nonempty (Nat.zero_lt_of_lt leftBound)
    have joined := (controlTaskID_eq_iff.mp (leftID.trans rightID.symm)).1
    exact join_ne_join_of_noSplice parts.1 parts.2 leftListed rightListed joined

def Artifacts.Separate (cfg : ArtifactsConfig) (left right : Control) : Prop :=
  match left.sectionOrWithdrawn, right.sectionOrWithdrawn with
  | true, true => left.identifier ≠ right.identifier
  | false, false => PanelSeparate cfg.toPanelConfig left.identifier right.identifier
  | _, _ => True

theorem Artifacts.taskIDs_disjoint_iff (cfg : ArtifactsConfig) (left right : Control) :
    (Artifacts.taskIDs cfg left).Disjoint (Artifacts.taskIDs cfg right) ↔
      Artifacts.Separate cfg left right := by
  unfold Artifacts.taskIDs Artifacts.Separate
  cases left.sectionOrWithdrawn <;> cases right.sectionOrWithdrawn
  · exact panelTaskIDs_disjoint_iff _ _ _ _
  · simp only [Bool.false_eq_true, if_false, if_true, disjoint_singleton, iff_true]
    intro mem
    obtain ⟨model, _listed, sample, _bound, same⟩ := mem_panelTaskIDs.mp mem
    exact skipTaskID_ne_controlTaskID _ _ _ _ _ same.symm
  · simp only [Bool.false_eq_true, if_false, if_true, singleton_disjoint, iff_true]
    intro mem
    obtain ⟨model, _listed, sample, _bound, same⟩ := mem_panelTaskIDs.mp mem
    exact skipTaskID_ne_controlTaskID _ _ _ _ _ same.symm
  · simp [skipTaskID, subjectTaskID_inj, eq_comm]

def Embedding.Separate (env : Environment) (cfg : EmbeddingConfig) (left right : Control) :
    Prop :=
  match Embedding.skips env left, Embedding.skips env right with
  | true, true => True
  | true, false => ∀ model ∈ cfg.models, left.controlId ≠ right.controlId ++ '-' :: model
  | false, true => ∀ model ∈ cfg.models, right.controlId ≠ left.controlId ++ '-' :: model
  | false, false => NoSplice cfg.models left.controlId right.controlId

theorem Embedding.taskIDs_disjoint_iff (env : Environment) (cfg : EmbeddingConfig)
    {left right : Control} (nodup : left.controlId ≠ right.controlId) :
    (Embedding.taskIDs env cfg left).Disjoint (Embedding.taskIDs env cfg right) ↔
      Embedding.Separate env cfg left right := by
  unfold Embedding.taskIDs Embedding.Separate
  cases Embedding.skips env left <;> cases Embedding.skips env right
  · simp only [Bool.false_eq_true, if_false, disjoint_left, mem_map, not_exists,
      not_and, forall_exists_index, and_imp, forall_apply_eq_imp_iff₂, subjectTaskID_inj]
    constructor
    · intro differ
      apply noSplice_of_join_ne_join
      intro leftModel leftListed rightModel rightListed same
      exact differ leftModel leftListed rightModel rightListed same.symm
    · intro separate leftModel leftListed rightModel rightListed same
      exact join_ne_join_of_noSplice nodup separate leftListed rightListed same.symm
  · simp [subjectTaskID_inj, eq_comm]
  · simp [subjectTaskID_inj, eq_comm]
  · simp [subjectTaskID_inj, nodup.symm]

def PairsSeparate (cfg : PanelConfig) (left right : CandidatePair) : Prop :=
  cfg.models ≠ [] → 0 < cfg.samplesPerModel →
    ¬ PairSplices left right ∧ ¬ PairSplices right left ∧
      NoSplice cfg.models left.subject right.subject

theorem pairTaskIDs_disjoint_iff (analyzerName : Text) (cfg : PanelConfig)
    {left right : CandidatePair} (nodup : left.ends ≠ right.ends) :
    (panelTaskIDs analyzerName left.subject cfg).Disjoint
        (panelTaskIDs analyzerName right.subject cfg) ↔
      PairsSeparate cfg left right := by
  have subjects : left.subject ≠ right.subject ↔
      ¬ PairSplices left right ∧ ¬ PairSplices right left := by
    rw [Ne, pairSubject_eq_iff]
    simp [nodup]
  rw [panelTaskIDs_disjoint_iff, PanelSeparate, PairsSeparate, subjects]
  simp [and_assoc]

/-- The job's control IDs, each model list and the stored pairs have no repeats. -/
structure StageInput.Distinct (input : StageInput) : Prop where
  controlIDs : (input.controls.map Control.controlId).Nodup
  embeddingModels : input.embedding.models.Nodup
  artifactsModels : input.artifacts.models.Nodup
  relationshipModels : input.relationship.models.Nodup
  requiresModels : input.requires.models.Nodup
  relationshipPairs : ∀ found, input.relationshipPairs = .ok found →
    (found.map CandidatePair.ends).Nodup
  requiresPairs : ∀ found, input.requiresPairs = .ok found →
    (found.map CandidatePair.ends).Nodup

def StageInput.Separate (input : StageInput) : StageName → Prop
  | .classify => True
  | .embedding => input.controls.Pairwise (Embedding.Separate input.env input.embedding)
  | .artifacts => input.controls.Pairwise (Artifacts.Separate input.artifacts)
  | .relationship => ∀ found, input.relationshipPairs = .ok found →
      found.Pairwise (PairsSeparate input.relationship.toPanelConfig)
  | .requires => ∀ found, input.requiresPairs = .ok found →
      found.Pairwise (PairsSeparate input.requires.toPanelConfig)

theorem pairStage_nodup_iff {found : List CandidatePair} (read : pairs = .ok found)
    (models : cfg.models.Nodup) (nodup : (found.map CandidatePair.ends).Nodup) :
    (found.flatMap fun pair => panelTaskIDs analyzerName pair.subject cfg).Nodup ↔
      ∀ stored, pairs = .ok stored → stored.Pairwise (PairsSeparate cfg) := by
  have separated := flatMap_nodup_iff_pairwise _ nodup
    (fun pair _member => panelTaskIDs_nodup models analyzerName pair.subject)
    (fun _left _right apart => pairTaskIDs_disjoint_iff analyzerName cfg apart)
  rw [separated]
  constructor
  · intro pairwise stored again
    rw [read, Except.ok.injEq] at again
    exact again ▸ pairwise
  · intro every
    exact every found read

theorem Embedding.taskIDs_nodup {cfg : EmbeddingConfig} (models : cfg.models.Nodup)
    (input : Control) : (Embedding.taskIDs env cfg input).Nodup := by
  unfold Embedding.taskIDs
  split
  · exact nodup_singleton _
  · apply models.map
    intro left right same
    simpa [subjectTaskID] using same

theorem Artifacts.taskIDs_nodup {cfg : ArtifactsConfig} (models : cfg.models.Nodup)
    (input : Control) : (Artifacts.taskIDs cfg input).Nodup := by
  unfold Artifacts.taskIDs
  split
  · exact nodup_singleton _
  · exact panelTaskIDs_nodup models _ _

/-- The tasks a stage generates have distinct IDs exactly when no two subjects can
be cut differently into the same text, and, for artifacts, no identifier repeats. -/
theorem stageTasks_taskIDs_nodup_iff (input : StageInput) (stage : StageName)
    (tasks : List Task) (distinct : input.Distinct)
    (generated : stageTasks input stage = .ok tasks) :
    (tasks.map Task.taskID).Nodup ↔ input.Separate stage := by
  cases stage with
  | classify =>
    have ids := gatherEach_view
      (fun _control _tasks each => Classify.generateWork_taskIDs each) generated
    rw [ids, flatMap_nodup_iff_pairwise (fun _ _ => True) distinct.controlIDs
      (fun _control _member => nodup_singleton _)]
    · exact iff_of_true (pairwise_of_forall fun _ _ => trivial) trivial
    · intro left right apart
      simpa [subjectTaskID_inj] using apart.symm
  | embedding =>
    have ids := gatherEach_view
      (fun _control _tasks each => Embedding.generateWork_taskIDs each) generated
    rw [ids]
    exact flatMap_nodup_iff_pairwise _ distinct.controlIDs
      (fun control _member => Embedding.taskIDs_nodup distinct.embeddingModels control)
      (fun _left _right apart => Embedding.taskIDs_disjoint_iff _ _ apart)
  | artifacts =>
    have ids := gatherEach_view
      (fun _control _tasks each => Artifacts.generateWork_taskIDs each) generated
    rw [ids]
    exact flatMap_nodup_iff_pairwise _ distinct.controlIDs
      (fun control _member => Artifacts.taskIDs_nodup distinct.artifactsModels control)
      (fun left right _apart => Artifacts.taskIDs_disjoint_iff _ left right)
  | relationship =>
    obtain ⟨found, read, ids⟩ := pairGenerateWork_taskIDs generated
    rw [ids]
    exact pairStage_nodup_iff read distinct.relationshipModels
      (distinct.relationshipPairs found read)
  | requires =>
    obtain ⟨found, read, ids⟩ := pairGenerateWork_taskIDs generated
    rw [ids]
    exact pairStage_nodup_iff read distinct.requiresModels
      (distinct.requiresPairs found read)

def plainEnvironment : Environment where
  tenant := .ok "acme".toList
  resolve name := .ok ⟨name, "1".toList, "system".toList, "user".toList, []⟩
  substitutePlaceholders template _vars := .ok template
  promptText text _limit := text
  promptValue text := text
  cleanForEmbedding text := text
  trimSpace text := text
  contentHash _messages := []
  textHash _text := []
  quote text := text
  guidance _name := []

def requirement (catalog item identifier : String) : Control where
  controlId := catalog.toList ++ '/' :: item.toList
  catalogId := catalog.toList
  identifier := identifier.toList
  statement := "The organization does it.".toList
  parts := [("class", "requirement".toList)]

def crosswalkJob (controls : List Control) : StageInput where
  env := plainEnvironment
  parameters _key := none
  classify := ⟨"m".toList, 0, 100, 100⟩
  embedding := ⟨["m".toList], 1, 100⟩
  artifacts := ⟨⟨["m".toList], 1, 0, 100⟩, 100⟩
  relationship := ⟨⟨["m".toList], 1, 0, 100⟩, 100, 100⟩
  requires := ⟨⟨["m".toList], 1, 0, 100⟩, 100, 100⟩
  controls := controls
  relationshipPairs := .ok []
  requiresPairs := .ok []

theorem crosswalkJob_distinct {controls : List Control}
    (nodup : (controls.map Control.controlId).Nodup) : (crosswalkJob controls).Distinct where
  controlIDs := nodup
  embeddingModels := nodup_singleton _
  artifactsModels := nodup_singleton _
  relationshipModels := nodup_singleton _
  requiresModels := nodup_singleton _
  relationshipPairs := by
    intro found read
    cases read
    exact nodup_nil
  requiresPairs := by
    intro found read
    cases read
    exact nodup_nil

def crosswalkTasks (first second : Control) : List Task :=
  ((stageTasks (crosswalkJob [first, second]) .artifacts).toOption).getD []

theorem stageTasks_taskIDs_nodup_distinct_identifiers :
    ((crosswalkTasks (requirement "0123456789abcdef" "ac-1" "AC-1")
      (requirement "fedcba9876543210" "ac-2" "AC-2")).map Task.taskID).Nodup := by
  refine (stageTasks_taskIDs_nodup_iff
    (crosswalkJob [requirement "0123456789abcdef" "ac-1" "AC-1",
      requirement "fedcba9876543210" "ac-2" "AC-2"]) .artifacts _
    (crosswalkJob_distinct (by decide)) rfl).mpr ?_
  refine pairwise_pair.mpr ?_
  intro _nonempty _positive
  refine ⟨by decide, ?_⟩
  intro leftModel leftListed rightModel rightListed
  rw [mem_singleton.mp leftListed, mem_singleton.mp rightListed]
  constructor
  · intro splices
    obtain ⟨piece, identifier, model⟩ := splices
    have lengths := congrArg List.length identifier
    simp [requirement] at lengths
  · intro splices
    obtain ⟨piece, identifier, model⟩ := splices
    have lengths := congrArg List.length identifier
    simp [requirement] at lengths

/-- Controls `AC-1` of two catalogs have distinct control IDs, and the artifacts
stage gives their tasks one ID. -/
theorem artifacts_taskIDs_collide :
    let first := requirement "0123456789abcdef" "ac-1" "AC-1"
    let second := requirement "fedcba9876543210" "ac-1" "AC-1"
    (crosswalkJob [first, second]).Distinct ∧
      (crosswalkTasks first second).map Task.taskID =
        ["artifacts-AC-1-m-s0".toList, "artifacts-AC-1-m-s0".toList] :=
  ⟨crosswalkJob_distinct (by decide), by decide⟩

end CrossCodex.Analyzer
