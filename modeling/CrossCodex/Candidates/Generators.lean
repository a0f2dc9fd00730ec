/-
The built-in candidate generators (pkg/analyzer/candidate/builtin) and the registry that
runs them. What Go's libraries compute on characters and floats is a parameter, and so is
the order of a map.
-/

import CrossCodex.Candidates.Fusion

namespace CrossCodex.Candidates

open Library
open Analyzer (Text)
open List Option

structure ControlData where
  text : Text
  type : Text
  level : Text
  ancestor : Text
deriving DecidableEq

abbrev Controls := Table Text ControlData

/-- Pairwise similarities as the embeddings reader returns them: one row and one column
for each ID. -/
structure SimilarityMatrix where
  ids : List Text
  values : List (List ℚ)
  distinct : ids.Nodup
  rows : values.length = ids.length
  columns : ∀ row ∈ values, row.length = ids.length
deriving DecidableEq

def SimilarityMatrix.value? (matrix : SimilarityMatrix) (sourceID targetID : Text) : Option ℚ :=
  if sourceID ∈ matrix.ids ∧ targetID ∈ matrix.ids then
    (matrix.values[matrix.ids.idxOf sourceID]?).bind (·[matrix.ids.idxOf targetID]?)
  else none

structure GenerateRequest where
  sourceControls : Controls
  targetControls : Controls
  embeddingMatrix : SimilarityMatrix

structure Host where
  round : ℚ → ℚ
  log : ℚ → ℚ
  lower : Char → Char
  isWord : Char → Bool
  fixed : Nat → ℚ → Text
  /-- The order of a generator's loop over a map: the one over the sources, or the one over
  the targets of a source. -/
  visit : Text → Option Text → List Text → List Text
  visits : ∀ generator source keys, (visit generator source keys).Perm keys
  /-- The order of the sources in the fusion of a generator's list. -/
  visitGroups : Visit
  visitsGroups : ∀ set sources, (visitGroups set sources).Perm sources

variable (host : Host) {req : GenerateRequest} {candidates : List Candidate}

def Host.entries (generator : Text) (source : Option Text) (controls : Controls) :
    List (Text × ControlData) :=
  (host.visit generator source controls.keys).filterMap fun key => (controls.lookup key).map (key, ·)

theorem Host.mem_entries {host : Host} {generator : Text} {source : Option Text}
    {controls : Controls} {entry : Text × ControlData} (mem : entry ∈ host.entries generator source controls) :
    entry.1 ∈ controls := by
  obtain ⟨key, visited, found⟩ := mem_filterMap.mp mem
  obtain ⟨data, _, rfl⟩ := map_eq_some_iff.mp found
  exact AList.mem_keys.mp ((host.visits generator source controls.keys).mem_iff.mp visited)

inductive GeneratorError where
  | topK (generator : Text) (given : Int)
deriving DecidableEq

def keywordName : Text := "keyword".toList

def matchedKeywords (keywords : List Text) (target : ControlData) : List Text :=
  keywords.filter fun keyword => (index? (keyword.map host.lower) (target.text.map host.lower)).isSome

def keywordCandidates (keywords : List Text) (weight : ℚ) (req : GenerateRequest) :
    List Candidate :=
  (host.entries keywordName none req.sourceControls).flatMap fun source =>
    let foundational := (host.entries keywordName (some source.1) req.targetControls).filter fun target =>
      matchedKeywords host keywords target.2 ≠ []
    (foundational.filter fun target => target.1 ≠ source.1).map fun target =>
      { sourceID := source.1, targetID := target.1, score := 1, weight,
        generatorID := keywordName
        metadata := [("keywords_matched".toList,
          List.intercalate [','] (matchedKeywords host keywords target.2))]
        contributions := [] }

def levelName : Text := "level".toList

/-- Lower index = higher abstraction level. -/
def levelIndex (level : Text) : Option Nat :=
  if level = "Strategic".toList then some 0
  else if level = "Tactical".toList then some 1
  else if level = "Operational".toList then some 2
  else none

def higherLevel (source target : ControlData) : Bool :=
  match levelIndex source.level, levelIndex target.level with
  | some sourceIdx, some targetIdx => targetIdx < sourceIdx
  | _, _ => false

def levelCandidates (weight : ℚ) (req : GenerateRequest) : List Candidate :=
  (host.entries levelName none req.sourceControls).flatMap fun source =>
    ((host.entries levelName (some source.1) req.targetControls).filter fun target =>
    higherLevel source.2 target.2).map
    fun target =>
      { sourceID := source.1, targetID := target.1, score := 1, weight,
        generatorID := levelName
        metadata := [("source_level".toList, source.2.level),
          ("target_level".toList, target.2.level)]
        contributions := [] }

def lexicalName : Text := "lexical".toList

def bm25K1 : ℚ := 12 / 10

def bm25B : ℚ := 75 / 100

def tokenize (text : Text) : List Text :=
  ((text.map host.lower).splitOnP fun symbol => !host.isWord symbol).filter (· ≠ [])

def bm25Term (targets : List (Text × ControlData)) (term : Text) (target : ControlData) : ℚ :=
  let fl := host.round
  let n : ℚ := targets.length
  let total := (targets.map fun entry => (tokenize host entry.2.text).length).sum
  let avgdl := fl (total / n)
  let df : ℚ := (targets.filter fun entry => term ∈ tokenize host entry.2.text).length
  let idf := fl (host.log (fl (1 + fl (fl (fl (n - df) + 1 / 2) / fl (df + 1 / 2)))))
  let tokens := tokenize host target.text
  let tf : ℚ := tokens.count term
  let norm := fl (fl (1 - bm25B) + fl (fl (bm25B * tokens.length) / avgdl))
  fl (fl (fl (idf * tf) * fl (bm25K1 + 1)) / fl (tf + fl (bm25K1 * norm)))

def bm25Scores (targets : List (Text × ControlData)) (source : ControlData) : List (Text × ℚ) :=
  let queryTerms := (tokenize host source.text).dedup.insertionSort (· ≤ ·)
  targets.filterMap fun target =>
    let terms := queryTerms.filter fun term => term ∈ tokenize host target.2.text
    if terms = [] then none
    else some (target.1, terms.foldl
      (fun score term => host.round (score + bm25Term host targets term target.2)) 0)

def lexicalTargets (topK : Nat) (targets : List (Text × ControlData))
    (source : Text × ControlData) : List (Text × ℚ) :=
  (((bm25Scores host targets source.2).filter fun scored =>
      scored.1 ≠ source.1 && decide (0 < scored.2)).insertionSort
    fun left right => left.2 > right.2 ∨ left.2 = right.2 ∧ left.1 ≤ right.1).take topK

def lexicalCandidates (topK : Nat) (weight : ℚ) (req : GenerateRequest) : List Candidate :=
  (host.entries lexicalName none req.sourceControls).flatMap fun source =>
    let targets := host.entries lexicalName (some source.1) req.targetControls
    let scored := lexicalTargets host topK targets source
    scored.map fun target =>
      { sourceID := source.1, targetID := target.1
        score := host.round (target.2 / (scored.head?.map Prod.snd).getD 1)
        weight, generatorID := lexicalName
        metadata := [("bm25".toList, host.fixed 4 target.2)]
        contributions := [] }

def semanticName : Text := "semantic".toList

/-- The `topK` most similar targets of a source. Equal similarities keep the order in
which the targets were visited. -/
def semanticTargets (topK : Nat) (minSimilarity : ℚ) (req : GenerateRequest)
    (sourceID : Text) : List (Text × ℚ) :=
  (((host.entries semanticName (some sourceID) req.targetControls).filterMap fun target =>
      if target.1 = sourceID then none
      else (req.embeddingMatrix.value? sourceID target.1).bind fun similarity =>
        if minSimilarity ≤ similarity then some (target.1, similarity) else none).insertionSort
    fun left right => left.2 ≥ right.2).take topK

def semanticCandidates (topK : Nat) (minSimilarity weight : ℚ)
    (req : GenerateRequest) : List Candidate :=
  (host.entries semanticName none req.sourceControls).flatMap fun source =>
    (semanticTargets host topK minSimilarity req source.1).map fun target =>
      { sourceID := source.1, targetID := target.1, score := host.round (target.2 / 100)
        weight, generatorID := semanticName
        metadata := [("similarity".toList, host.fixed 2 target.2)]
        contributions := [] }

inductive GeneratorKind where
  | keyword (keywords : List Text)
  | level
  | lexical (topK : Int)
  | semantic (topK : Int) (minSimilarity : ℚ)

structure GeneratorEntry where
  kind : GeneratorKind
  weight : ℚ

def GeneratorKind.name : GeneratorKind → Text
  | .keyword _ => keywordName
  | .level => levelName
  | .lexical _ => lexicalName
  | .semantic _ _ => semanticName

/-- An unset weight means 1. -/
def GeneratorEntry.effectiveWeight (entry : GeneratorEntry) : ℚ :=
  if entry.weight = 0 then 1 else entry.weight

def GeneratorEntry.generate (entry : GeneratorEntry) (req : GenerateRequest) :
    Except GeneratorError (List Candidate) :=
  let weight := entry.effectiveWeight
  match entry.kind with
  | .keyword keywords => .ok (keywordCandidates host keywords weight req)
  | .level => .ok (levelCandidates host weight req)
  | .lexical topK =>
    if topK < 1 then .error (.topK lexicalName topK)
    else .ok (lexicalCandidates host topK.toNat weight req)
  | .semantic topK minSimilarity =>
    if topK < 1 then .error (.topK semanticName topK)
    else .ok (semanticCandidates host topK.toNat minSimilarity weight req)

inductive RegistryError where
  | generator (cause : GeneratorError)
  | fusion (cause : FusionError)
deriving DecidableEq

def runGenerators (host : Host) (req : GenerateRequest) :
    List GeneratorEntry → Except GeneratorError (List (List Candidate))
  | [] => .ok []
  | entry :: rest =>
    match entry.generate host req with
    | .error cause => .error cause
    | .ok candidates =>
      match runGenerators host req rest with
      | .error cause => .error cause
      | .ok later => .ok (candidates :: later)

def registryGenerate (entries : List GeneratorEntry) (req : GenerateRequest)
    (maxPerSource : Int) : Except RegistryError (List Candidate) :=
  if entries.isEmpty then .ok []
  else
    match runGenerators host req entries with
    | .error cause => .error (.generator cause)
    | .ok candidateSets =>
      match aggregateRankFusion host.round host.visitGroups candidateSets maxPerSource with
      | .error cause => .error (.fusion cause)
      | .ok candidates => .ok candidates

def Proposes (req : GenerateRequest) (candidates : List Candidate) : Prop :=
  ∀ candidate ∈ candidates,
    candidate.sourceID ∈ req.sourceControls ∧ candidate.targetID ∈ req.targetControls

theorem GeneratorEntry.proposes {host : Host} {entry : GeneratorEntry}
    (generated : entry.generate host req = .ok candidates) : Proposes req candidates := by
  intro candidate mem
  unfold GeneratorEntry.generate at generated
  cases kind : entry.kind with
  | keyword keywords =>
    rw [kind] at generated
    cases generated
    obtain ⟨source, ofSources, inner⟩ := mem_flatMap.mp mem
    obtain ⟨target, ofTargets, rfl⟩ := mem_map.mp inner
    exact ⟨host.mem_entries ofSources,
      host.mem_entries (mem_of_mem_filter (mem_of_mem_filter ofTargets))⟩
  | level =>
    rw [kind] at generated
    cases generated
    obtain ⟨source, ofSources, inner⟩ := mem_flatMap.mp mem
    obtain ⟨target, ofTargets, rfl⟩ := mem_map.mp inner
    exact ⟨host.mem_entries ofSources, host.mem_entries (mem_of_mem_filter ofTargets)⟩
  | lexical topK =>
    simp only [kind] at generated
    split at generated
    · cases generated
    cases generated
    obtain ⟨source, ofSources, inner⟩ := mem_flatMap.mp mem
    obtain ⟨target, inTop, rfl⟩ := mem_map.mp inner
    have scored := mem_of_mem_filter (mem_insertionSort _ |>.mp (mem_of_mem_take inTop))
    obtain ⟨control, ofTargets, found⟩ := mem_filterMap.mp scored
    simp only [ite_none_left_eq_some, some.injEq] at found
    obtain ⟨_, rfl⟩ := found
    exact ⟨host.mem_entries ofSources, host.mem_entries ofTargets⟩
  | semantic topK minSimilarity =>
    simp only [kind] at generated
    split at generated
    · cases generated
    cases generated
    obtain ⟨source, ofSources, inner⟩ := mem_flatMap.mp mem
    obtain ⟨target, inTop, rfl⟩ := mem_map.mp inner
    have scored := mem_insertionSort _ |>.mp (mem_of_mem_take inTop)
    obtain ⟨control, ofTargets, found⟩ := mem_filterMap.mp scored
    simp only [ite_none_left_eq_some, bind_eq_some_iff,
      ite_none_right_eq_some, some.injEq] at found
    obtain ⟨_, similarity, _, _, rfl⟩ := found
    exact ⟨host.mem_entries ofSources, host.mem_entries ofTargets⟩

theorem runGenerators_proposes {host : Host} {entries : List GeneratorEntry}
    {candidateSets : List (List Candidate)}
    (ran : runGenerators host req entries = .ok candidateSets) :
    ∀ set ∈ candidateSets, Proposes req set := by
  induction entries generalizing candidateSets with
  | nil =>
    cases ran
    intro set mem
    cases mem
  | cons entry rest ih =>
    unfold runGenerators at ran
    cases generated : entry.generate host req with
    | error cause => simp [generated] at ran
    | ok candidates =>
      cases remaining : runGenerators host req rest with
      | error cause => simp [generated, remaining] at ran
      | ok later =>
        simp only [generated, remaining, Except.ok.injEq] at ran
        subst ran
        intro set mem
        rcases mem_cons.mp mem with rfl | inLater
        · exact GeneratorEntry.proposes generated
        · exact ih remaining set inLater

structure Generated (req : GenerateRequest) (maxPerSource : Int) (candidates : List Candidate) :
    Prop where
  distinct : (candidates.map Candidate.pair).Nodup
  proposes : Proposes req candidates
  capped : 0 ≤ maxPerSource → ∀ source,
    ((candidates.filter fun candidate => candidate.sourceID = source).length : Int) ≤ maxPerSource

theorem registryGenerate_spec {host : Host} {entries : List GeneratorEntry} {maxPerSource : Int}
    (generated : registryGenerate host entries req maxPerSource = .ok candidates) :
    Generated req maxPerSource candidates := by
  unfold registryGenerate at generated
  split at generated
  · cases generated
    refine ⟨nodup_nil, ?_, ?_⟩
    · intro candidate mem
      cases mem
    · intro nonneg source
      simpa using nonneg
  split at generated
  · cases generated
  rename_i candidateSets ran
  split at generated
  · cases generated
  rename_i result fusion
  cases generated
  have fused := aggregateRankFusion_spec fusion
  refine ⟨fused.distinct, ?_, fun _ => fused.capped⟩
  intro candidate mem
  obtain ⟨set, inSets, listed, inSet, same⟩ := fused.listed candidate mem
  have proposed := runGenerators_proposes ran set inSets listed inSet
  have sources : listed.sourceID = candidate.sourceID := congrArg Prod.fst same
  have targets : listed.targetID = candidate.targetID := congrArg Prod.snd same
  rwa [sources, targets] at proposed

end CrossCodex.Candidates
