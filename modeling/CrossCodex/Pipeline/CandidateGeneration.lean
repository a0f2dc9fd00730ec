/-
Candidate generation of a job (internal/pipeline/candidate_generation.go) and the two tables
it upserts (candidate_writer.go), each in its own transaction. What a call meets is part of
the attempt.
-/

import CrossCodex.Candidates.Generators
import CrossCodex.Pipeline.JobRun

namespace CrossCodex.Pipeline

open Library Candidates
open Analyzer (Text)

structure StoredConfig where
  catalogID : Text
  targetCatalogID : Text
  bidirectional : Bool

structure Catalogs where
  sourceID : Text
  targetID : Text
  bidirectional : Bool

def Catalogs.crossCatalog (cats : Catalogs) : Bool := cats.sourceID ≠ cats.targetID

def Catalogs.catalogIDs (cats : Catalogs) : List Text :=
  if cats.crossCatalog then [cats.sourceID, cats.targetID] else [cats.sourceID]

/-- ExtractCatalogs; `none` is a config that does not decode. Within one catalog
bidirectional is dropped. -/
def extractCatalogs (stored : Option StoredConfig) : Option Catalogs :=
  match stored with
  | none => none
  | some cfg =>
    if cfg.catalogID = [] then none
    else
      let targetID := if cfg.targetCatalogID = [] then cfg.catalogID else cfg.targetCatalogID
      some
        { sourceID := cfg.catalogID
          targetID
          bidirectional := cfg.bidirectional && decide (cfg.catalogID ≠ targetID) }

theorem extractCatalogs_bidirectional {stored : Option StoredConfig} {cats : Catalogs}
    (extracted : extractCatalogs stored = some cats) (both : cats.bidirectional = true) :
    cats.sourceID ≠ cats.targetID := by
  unfold extractCatalogs at extracted
  split at extracted
  · cases extracted
  split at extracted
  · cases extracted
  cases extracted
  rw [Bool.and_eq_true] at both
  exact of_decide_eq_true both.2

inductive ReadError where
  | failed
deriving DecidableEq

/-- What one call of Generate meets. A control belongs to one catalog, since controls
are keyed by (tenant_id, control_id). -/
structure Attempt where
  host : Nat → Host
  isSpace : Char → Bool
  formatFloat : ℚ → Text
  controls : Text → Except ReadError Controls
  own : ∀ left right leftControls rightControls id,
    controls left = .ok leftControls → controls right = .ok rightControls →
    id ∈ leftControls → id ∈ rightControls → left = right
  embeddings : List Text → Except ReadError SimilarityMatrix
  /-- The order in which each request runs the generators. -/
  order : Nat → List GeneratorEntry → List GeneratorEntry
  orders : ∀ index entries, (order index entries).Perm entries
  requiresWrite : Write
  relationshipWrite : Write

structure CandidateGenerator where
  entries : List GeneratorEntry
  maxPerSource : Int
  minEmbeddingCoverage : ℚ
  /-- CandidateConfig.Validate. -/
  validated : 1 ≤ maxPerSource

inductive GenerateError where
  | missingCatalogID
  | readingControls (catalogID : Text)
  | readingEmbeddings
  | insufficientCoverage (catalogID : Text) (covered total : Nat)
  | generating (cause : RegistryError)
  | writingRequires
  | writingRelationship
deriving DecidableEq

variable (g : CandidateGenerator) (attempt : Attempt)

def controlsWithText (all : Controls) : Controls :=
  { entries := all.entries.filter fun entry => !entry.2.text.all attempt.isSpace
    nodupKeys := List.NodupKeys.sublist List.filter_sublist all.nodupKeys }

def readControls (catalogID : Text) : Except GenerateError Controls :=
  match attempt.controls catalogID with
  | .error _ => .error (.readingControls catalogID)
  | .ok all => .ok (controlsWithText attempt all)

/-- A side without controls passes. -/
def checkCoverage (round : ℚ → ℚ) (catalogID : Text) (controls : Controls) (embedded : List Text) :
    Except GenerateError Unit :=
  let total := controls.keys.length
  let covered := (controls.keys.filter fun id => id ∈ embedded).length
  if total = 0 then .ok ()
  else if round ((covered : ℚ) / total) < g.minEmbeddingCoverage then
    .error (.insufficientCoverage catalogID covered total)
  else .ok ()

def requestsOf (cats : Catalogs) (source target : Controls) (matrix : SimilarityMatrix) :
    List GenerateRequest :=
  let forward := { sourceControls := source, targetControls := target, embeddingMatrix := matrix }
  let backward := { sourceControls := target, targetControls := source, embeddingMatrix := matrix }
  if cats.bidirectional then [forward, backward] else [forward]

/-- The registry's candidates for each request, the requests counted from `index`. -/
def generateAll : Nat → List GenerateRequest → Except GenerateError (List Candidate)
  | _, [] => .ok []
  | index, req :: rest =>
    match registryGenerate (attempt.host index) (attempt.order index g.entries) req
        g.maxPerSource with
    | .error cause => .error (.generating cause)
    | .ok candidates =>
      match generateAll (index + 1) rest with
      | .error cause => .error cause
      | .ok later => .ok (candidates ++ later)

/-- Within one catalog source and target are the same controls. -/
def readTarget (cats : Catalogs) (source : Controls) : Except GenerateError Controls :=
  if cats.crossCatalog then readControls attempt cats.targetID else .ok source

def readEmbeddings (cats : Catalogs) : Except GenerateError SimilarityMatrix :=
  match attempt.embeddings cats.catalogIDs with
  | .error _ => .error .readingEmbeddings
  | .ok matrix => .ok matrix

def checkTarget (round : ℚ → ℚ) (cats : Catalogs) (target : Controls) (embedded : List Text) :
    Except GenerateError Unit :=
  if cats.crossCatalog then checkCoverage g round cats.targetID target embedded else .ok ()

/-- Generate up to its first write: the candidates and the matrix they were scored with. -/
def prepare (config : Option StoredConfig) :
    Except GenerateError (List Candidate × SimilarityMatrix) :=
  match extractCatalogs config with
  | none => .error .missingCatalogID
  | some cats => do
      let source ← readControls attempt cats.sourceID
      let target ← readTarget attempt cats source
      let matrix ← readEmbeddings attempt cats
      checkCoverage g (attempt.host 0).round cats.sourceID source matrix.ids
      checkTarget g (attempt.host 0).round cats target matrix.ids
      let candidates ← generateAll g attempt 0 (requestsOf cats source target matrix)
      pure (candidates, matrix)

structure CandidateProvenance where
  generatorName : Text
  score : ℚ
  weight : ℚ
  metadata : Metadata
deriving DecidableEq

structure CandidateRow where
  score : ℚ
  provenance : List CandidateProvenance
deriving DecidableEq

structure RowKey where
  tenantID : Text
  jobID : Text
  sourceID : Text
  targetID : Text
deriving DecidableEq

structure CandidateTables where
  requires : Table RowKey CandidateRow
  relationship : Table RowKey CandidateRow

def setMetadata (metadata : Metadata) (key value : Text) : Metadata :=
  (metadata.filter fun entry => entry.1 ≠ key) ++ [(key, value)]

def provenanceOf (candidate : Candidate) : List CandidateProvenance :=
  candidate.contributions.map fun contribution =>
    { generatorName := contribution.generatorID
      score := contribution.score
      weight := contribution.weight
      metadata := setMetadata contribution.metadata "rank".toList
        (attempt.formatFloat contribution.rank) }

/-- The value of the pair, or 0 when a control has no embedding row. -/
def matrixSimilarity (matrix : SimilarityMatrix) (sourceID targetID : Text) : ℚ :=
  (matrix.value? sourceID targetID).getD 0

/-- The key of the provenance map handed to WriteRelationship. -/
def provenanceKey (candidate : Candidate) : Text :=
  candidate.sourceID ++ '-' :: '-' :: candidate.targetID

/-- The provenance map; a later candidate with the same key overwrites an earlier one. -/
def provenanceMap (candidates : List Candidate) : Table Text (List CandidateProvenance) :=
  upsertAll ∅ (candidates.map fun candidate =>
    (provenanceKey candidate, provenanceOf attempt candidate))

def requiresRow (real : ℚ → ℚ) (attempt : Attempt) (candidate : Candidate) : CandidateRow :=
  { score := real candidate.score, provenance := provenanceOf attempt candidate }

/-- A candidate's row in relationship_candidates, given the provenance it is stored with. -/
def relationshipRow (real : ℚ → ℚ) (matrix : SimilarityMatrix)
    (provenance : List CandidateProvenance) (candidate : Candidate) : CandidateRow :=
  { score := real (matrixSimilarity matrix candidate.sourceID candidate.targetID), provenance }

def rowKey (tenantID jobID : Text) (pair : Text × Text) : RowKey :=
  { tenantID, jobID, sourceID := pair.1, targetID := pair.2 }

def requiresBatch (real : ℚ → ℚ) (attempt : Attempt) (tenantID jobID : Text)
    (candidates : List Candidate) : List (RowKey × CandidateRow) :=
  candidates.map fun candidate =>
    (rowKey tenantID jobID candidate.pair, requiresRow real attempt candidate)

/-- A pair without an entry in the map is stored with an empty provenance. -/
def relationshipBatch (real : ℚ → ℚ) (attempt : Attempt) (tenantID jobID : Text)
    (candidates : List Candidate) (matrix : SimilarityMatrix) : List (RowKey × CandidateRow) :=
  let provenance := provenanceMap attempt candidates
  candidates.map fun candidate =>
    (rowKey tenantID jobID candidate.pair,
      relationshipRow real matrix ((provenance.lookup (provenanceKey candidate)).getD []) candidate)

/-- A transaction of upserts: all of them or none. -/
def writeBatch (table : Table RowKey CandidateRow) (batch : List (RowKey × CandidateRow))
    (write : Write) : Table RowKey CandidateRow :=
  if write.applied then upsertAll table batch else table

def generate (g : CandidateGenerator) (real : ℚ → ℚ) (tenantID jobID : Text)
    (config : Option StoredConfig) (attempt : Attempt) (tables : CandidateTables) :
    Except GenerateError Unit × CandidateTables :=
  match prepare g attempt config with
  | .error cause => (.error cause, tables)
  | .ok (candidates, matrix) =>
    let requires := writeBatch tables.requires
      (requiresBatch real attempt tenantID jobID candidates) attempt.requiresWrite
    if attempt.requiresWrite ≠ .stored then
      (.error .writingRequires, { tables with requires })
    else
      let relationship := writeBatch tables.relationship
        (relationshipBatch real attempt tenantID jobID candidates matrix)
        attempt.relationshipWrite
      if attempt.relationshipWrite ≠ .stored then
        (.error .writingRelationship, { requires, relationship })
      else (.ok (), { requires, relationship })

end CrossCodex.Pipeline
