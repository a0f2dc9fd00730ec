/-
What the candidate tables hold after a history of attempts. Neither table is ever cleared: a
pair an earlier attempt wrote keeps its row.
-/

import CrossCodex.Library.Fallible
import CrossCodex.Pipeline.CandidateGeneration
import Mathlib.Data.List.Perm.Subperm

namespace CrossCodex.Pipeline

open Library Candidates
open Analyzer (Text)
open List

variable {attempt : Attempt}

theorem readControls_ok {catalogID : Text} {controls : Controls}
    (read : readControls attempt catalogID = .ok controls) :
    ∃ all, attempt.controls catalogID = .ok all ∧ ∀ id ∈ controls, id ∈ all := by
  unfold readControls at read
  split at read
  · cases read
  rename_i all found
  cases read
  refine ⟨all, found, ?_⟩
  intro id mem
  obtain ⟨entry, kept, rfl⟩ := mem_map.mp (AList.mem_keys.mp mem)
  exact AList.mem_keys.mpr (mem_map_of_mem (mem_of_mem_filter kept))

variable {candidates : List Candidate} {req : GenerateRequest}

theorem generateAll_cons_ok {g : CandidateGenerator} {index : Nat} {rest : List GenerateRequest}
    (generated : generateAll g attempt index (req :: rest) = .ok candidates) :
    ∃ first later, Generated req g.maxPerSource first ∧
      generateAll g attempt (index + 1) rest = .ok later ∧ candidates = first ++ later := by
  unfold generateAll at generated
  split at generated
  · cases generated
  rename_i first made
  split at generated
  · cases generated
  rename_i later remaining
  cases generated
  exact ⟨first, later, registryGenerate_spec made, remaining, rfl⟩

structure Prepared (g : CandidateGenerator) (candidates : List Candidate) : Prop where
  distinct : (candidates.map Candidate.pair).Nodup
  capped : ∀ source,
    ((candidates.filter fun candidate => candidate.sourceID = source).length : Int) ≤
      g.maxPerSource

theorem prepared_of_generated {g : CandidateGenerator}
    (generated : Generated req g.maxPerSource candidates) : Prepared g candidates :=
  ⟨generated.distinct, generated.capped (by have := g.validated; omega)⟩

theorem Prepared.append {g : CandidateGenerator} {first later : List Candidate}
    (firstPrepared : Prepared g first) (laterPrepared : Prepared g later)
    (apart : ∀ left ∈ first, ∀ right ∈ later, left.sourceID ≠ right.sourceID) :
    Prepared g (first ++ later) := by
  constructor
  · rw [map_append]
    refine nodup_append.mpr ⟨firstPrepared.distinct, laterPrepared.distinct, ?_⟩
    intro pair inFirst other inLater same
    subst other
    obtain ⟨left, ofFirst, rfl⟩ := mem_map.mp inFirst
    obtain ⟨right, ofLater, equal⟩ := mem_map.mp inLater
    exact apart left ofFirst right ofLater (congrArg Prod.fst equal).symm
  · intro source
    rw [filter_append, length_append]
    by_cases inFirst : ∃ left ∈ first, left.sourceID = source
    · obtain ⟨left, ofFirst, rfl⟩ := inFirst
      have none : (later.filter fun candidate => candidate.sourceID = left.sourceID) = [] := by
        apply filter_eq_nil_iff.mpr
        intro right ofLater
        simpa using (apart left ofFirst right ofLater).symm
      rw [none, length_nil, Nat.add_zero]
      exact firstPrepared.capped left.sourceID
    · have none : (first.filter fun candidate => candidate.sourceID = source) = [] := by
        apply filter_eq_nil_iff.mpr
        intro left ofFirst
        simpa using fun same => inFirst ⟨left, ofFirst, same⟩
      rw [none, length_nil, Nat.zero_add]
      exact laterPrepared.capped source

theorem generateAll_prepared {g : CandidateGenerator} {cats : Catalogs} {source target : Controls}
    {matrix : SimilarityMatrix} (apart : cats.bidirectional = true → ∀ id ∈ source, id ∉ target)
    (generated : generateAll g attempt 0 (requestsOf cats source target matrix) = .ok candidates) :
    Prepared g candidates := by
  unfold requestsOf at generated
  by_cases both : cats.bidirectional = true
  · rw [if_pos both] at generated
    obtain ⟨forward, rest, ofForward, remaining, rfl⟩ := generateAll_cons_ok generated
    obtain ⟨backward, none, ofBackward, ended, rfl⟩ := generateAll_cons_ok remaining
    cases ended
    rw [append_nil]
    apply Prepared.append (prepared_of_generated ofForward) (prepared_of_generated ofBackward)
    intro left inForward right inBackward same
    have leftSource := (ofForward.proposes left inForward).1
    have rightSource := (ofBackward.proposes right inBackward).1
    exact apart both left.sourceID leftSource (same ▸ rightSource)
  · rw [if_neg both] at generated
    obtain ⟨forward, none, ofForward, ended, rfl⟩ := generateAll_cons_ok generated
    cases ended
    rw [append_nil]
    exact prepared_of_generated ofForward

theorem prepare_spec {g : CandidateGenerator} {config : Option StoredConfig}
    {matrix : SimilarityMatrix} (prepared : prepare g attempt config = .ok (candidates, matrix)) :
    Prepared g candidates := by
  unfold prepare at prepared
  split at prepared
  · cases prepared
  rename_i cats extracted
  obtain ⟨source, readSource, prepared⟩ := bind_eq_ok.mp prepared
  obtain ⟨target, readTarget, prepared⟩ := bind_eq_ok.mp prepared
  obtain ⟨_, _, prepared⟩ := bind_eq_ok.mp prepared
  obtain ⟨_, _, prepared⟩ := bind_eq_ok.mp prepared
  obtain ⟨_, _, prepared⟩ := bind_eq_ok.mp prepared
  obtain ⟨made, generated, returned⟩ := bind_eq_ok.mp prepared
  cases returned
  apply generateAll_prepared _ generated
  intro both id inSource inTarget
  have ne := extractCatalogs_bidirectional extracted both
  rw [Pipeline.readTarget, if_pos (show cats.crossCatalog = true from decide_eq_true ne)]
    at readTarget
  obtain ⟨allSource, ofSource, sourceKept⟩ := readControls_ok readSource
  obtain ⟨allTarget, ofTarget, targetKept⟩ := readControls_ok readTarget
  exact ne (attempt.own _ _ _ _ id ofSource ofTarget (sourceKept id inSource)
    (targetKept id inTarget))

theorem rowKey_injective (tenantID jobID : Text) : Function.Injective (rowKey tenantID jobID) := by
  intro left right same
  exact Prod.ext (congrArg RowKey.sourceID same) (congrArg RowKey.targetID same)

def candidateOf (candidates : List Candidate) (pair : Text × Text) : Option Candidate :=
  candidates.find? fun candidate => candidate.pair = pair

variable {pair : Text × Text} {table : Table RowKey CandidateRow} {candidate : Candidate}

theorem candidateOf_eq_none :
    candidateOf candidates pair = none ↔ pair ∉ candidates.map Candidate.pair := by
  simp [candidateOf]

theorem candidateOf_eq_some (found : candidateOf candidates pair = some candidate) :
    candidate ∈ candidates ∧ candidate.pair = pair := by
  have matched := find?_some found
  exact ⟨mem_of_find?_eq_some found, of_decide_eq_true matched⟩

theorem candidateOf_pair (nodup : (candidates.map Candidate.pair).Nodup)
    (mem : candidate ∈ candidates) : candidateOf candidates candidate.pair = some candidate := by
  cases found : candidateOf candidates candidate.pair with
  | none =>
    exact absurd (mem_map_of_mem mem) (candidateOf_eq_none.mp found)
  | some other =>
    obtain ⟨ofCandidates, same⟩ := candidateOf_eq_some found
    exact congrArg some (inj_on_of_nodup_map nodup ofCandidates mem same)

theorem lastRow_candidates (nodup : (candidates.map Candidate.pair).Nodup)
    (tenantID jobID : Text) (row : Candidate → CandidateRow) (pair : Text × Text) :
    lastRow (candidates.map fun candidate => (rowKey tenantID jobID candidate.pair, row candidate))
        (rowKey tenantID jobID pair) =
      (candidateOf candidates pair).map row := by
  rw [lastRow_eq_firstRow]
  · exact firstRow_map candidates Candidate.pair (rowKey_injective tenantID jobID) row pair
  · rw [map_map]
    have keys : (candidates.map fun candidate => rowKey tenantID jobID candidate.pair) =
        (candidates.map Candidate.pair).map (rowKey tenantID jobID) := by
      rw [map_map]
      rfl
    exact keys ▸ nodup.map (rowKey_injective tenantID jobID)

/-- The pairs an attempt writes to requires_candidates, and to relationship_candidates. -/
def wroteRequires (g : CandidateGenerator) (config : Option StoredConfig) (attempt : Attempt) :
    List (Text × Text) :=
  match prepare g attempt config with
  | .error _ => []
  | .ok (candidates, _) =>
    if attempt.requiresWrite.applied then candidates.map Candidate.pair else []

def wroteRelationship (g : CandidateGenerator) (config : Option StoredConfig)
    (attempt : Attempt) : List (Text × Text) :=
  match prepare g attempt config with
  | .error _ => []
  | .ok (candidates, _) =>
    if attempt.requiresWrite = .stored ∧ attempt.relationshipWrite.applied then
      candidates.map Candidate.pair
    else []

section Call

variable {g : CandidateGenerator} {real : ℚ → ℚ} {tenantID jobID : Text}
  {config : Option StoredConfig} {attempt : Attempt} {tables : CandidateTables}

theorem mem_writeBatch {row : Candidate → CandidateRow} {write : Write} :
    rowKey tenantID jobID pair ∈ writeBatch table
        (candidates.map fun candidate => (rowKey tenantID jobID candidate.pair, row candidate))
        write ↔
      (write.applied = true ∧ pair ∈ candidates.map Candidate.pair) ∨
        rowKey tenantID jobID pair ∈ table := by
  unfold writeBatch
  cases write.applied with
  | false => simp
  | true =>
    rw [if_pos rfl, mem_upsertAll, map_map]
    apply or_congr_left
    constructor
    · intro mem
      obtain ⟨candidate, inCandidates, same⟩ := mem_map.mp mem
      exact ⟨rfl, mem_map.mpr ⟨candidate, inCandidates, rowKey_injective _ _ same⟩⟩
    · rintro ⟨_, mem⟩
      obtain ⟨candidate, inCandidates, rfl⟩ := mem_map.mp mem
      exact mem_map_of_mem inCandidates

theorem generate_tables {matrix : SimilarityMatrix}
    (prepared : prepare g attempt config = .ok (candidates, matrix)) :
    (generate g real tenantID jobID config attempt tables).2 =
      { requires := writeBatch tables.requires
          (requiresBatch real attempt tenantID jobID candidates) attempt.requiresWrite
        relationship :=
          if attempt.requiresWrite = .stored then
            writeBatch tables.relationship
              (relationshipBatch real attempt tenantID jobID candidates matrix)
              attempt.relationshipWrite
          else tables.relationship } := by
  unfold generate
  rw [prepared]
  by_cases requiresStored : attempt.requiresWrite = .stored
  · by_cases relationshipStored : attempt.relationshipWrite = .stored
    · simp [requiresStored, relationshipStored]
    · simp [requiresStored, relationshipStored]
  · simp [requiresStored]

theorem mem_requires_generate :
    rowKey tenantID jobID pair ∈ (generate g real tenantID jobID config attempt tables).2.requires ↔
      pair ∈ wroteRequires g config attempt ∨ rowKey tenantID jobID pair ∈ tables.requires := by
  cases prepared : prepare g attempt config with
  | error cause => simp [generate, wroteRequires, prepared]
  | ok result =>
    rw [generate_tables prepared, requiresBatch, mem_writeBatch, wroteRequires, prepared]
    cases attempt.requiresWrite.applied <;> simp

theorem mem_relationship_generate :
    rowKey tenantID jobID pair ∈
        (generate g real tenantID jobID config attempt tables).2.relationship ↔
      pair ∈ wroteRelationship g config attempt ∨
        rowKey tenantID jobID pair ∈ tables.relationship := by
  cases prepared : prepare g attempt config with
  | error cause => simp [generate, wroteRelationship, prepared]
  | ok result =>
    rw [generate_tables prepared, wroteRelationship, prepared]
    by_cases stored : attempt.requiresWrite = .stored
    · rw [if_pos stored, relationshipBatch, mem_writeBatch]
      cases attempt.relationshipWrite.applied <;> simp [stored]
    · simp [stored]

theorem generate_ok (returned : (generate g real tenantID jobID config attempt tables).1 = .ok ()) :
    attempt.requiresWrite = .stored ∧ attempt.relationshipWrite = .stored := by
  unfold generate at returned
  split at returned
  · cases returned
  split at returned
  · cases returned
  split at returned
  · cases returned
  exact ⟨not_not.mp ‹_›, not_not.mp ‹_›⟩

end Call

/-- The tables after a history of calls for one job. Each call comes with the generator it
was made on, whose settings are read anew when the service starts. -/
def replay (real : ℚ → ℚ) (tenantID jobID : Text) (config : Option StoredConfig)
    (tables : CandidateTables) (history : List (CandidateGenerator × Attempt)) :
    CandidateTables :=
  history.foldl
    (fun tables call => (generate call.1 real tenantID jobID config call.2 tables).2) tables

def CandidateTables.Clear (tables : CandidateTables) (tenantID jobID : Text) : Prop :=
  ∀ pair, rowKey tenantID jobID pair ∉ tables.requires ∧
    rowKey tenantID jobID pair ∉ tables.relationship

section History

variable {real : ℚ → ℚ} {tenantID jobID : Text} {config : Option StoredConfig}
  {tables : CandidateTables} {history : List (CandidateGenerator × Attempt)}

theorem mem_requires_replay :
    rowKey tenantID jobID pair ∈ (replay real tenantID jobID config tables history).requires ↔
      (∃ call ∈ history, pair ∈ wroteRequires call.1 config call.2) ∨
        rowKey tenantID jobID pair ∈ tables.requires :=
  foldl_iff_exists (fun tables : CandidateTables => rowKey tenantID jobID pair ∈ tables.requires)
    (fun call : CandidateGenerator × Attempt => pair ∈ wroteRequires call.1 config call.2)
    (fun _ _ => mem_requires_generate) history tables

theorem mem_relationship_replay :
    rowKey tenantID jobID pair ∈
        (replay real tenantID jobID config tables history).relationship ↔
      (∃ call ∈ history, pair ∈ wroteRelationship call.1 config call.2) ∨
        rowKey tenantID jobID pair ∈ tables.relationship :=
  foldl_iff_exists
    (fun tables : CandidateTables => rowKey tenantID jobID pair ∈ tables.relationship)
    (fun call : CandidateGenerator × Attempt => pair ∈ wroteRelationship call.1 config call.2)
    (fun _ _ => mem_relationship_generate) history tables

end History

/-! ### Exactly the last generation -/

/-- The job's rows are the candidates, each with its own score and provenance. -/
structure HoldsExactly (real : ℚ → ℚ) (tenantID jobID : Text) (attempt : Attempt)
    (candidates : List Candidate) (matrix : SimilarityMatrix) (tables : CandidateTables) :
    Prop where
  requires : ∀ pair, tables.requires.lookup (rowKey tenantID jobID pair) =
    (candidateOf candidates pair).map (requiresRow real attempt)
  relationship : ∀ pair, tables.relationship.lookup (rowKey tenantID jobID pair) =
    (candidateOf candidates pair).map fun candidate =>
      relationshipRow real matrix (provenanceOf attempt candidate) candidate

/-- Every pair an earlier call wrote is generated again. -/
def Regenerated (config : Option StoredConfig) (history : List (CandidateGenerator × Attempt))
    (candidates : List Candidate) : Prop :=
  ∀ call ∈ history,
    (∀ pair ∈ wroteRequires call.1 config call.2, pair ∈ candidates.map Candidate.pair) ∧
      ∀ pair ∈ wroteRelationship call.1 config call.2, pair ∈ candidates.map Candidate.pair

/-- Pairs that share a key of the provenance map share their provenance. -/
def UnambiguousProvenance (attempt : Attempt) (candidates : List Candidate) : Prop :=
  ∀ left ∈ candidates, ∀ right ∈ candidates,
    provenanceKey left = provenanceKey right →
      provenanceOf attempt left = provenanceOf attempt right

def targetCount (table : Table RowKey CandidateRow) (tenantID jobID source : Text) : Nat :=
  (table.keys.filter fun key =>
    key.tenantID = tenantID ∧ key.jobID = jobID ∧ key.sourceID = source).length

/-- An upsert of all candidates shows each of them, and of the older rows only those of
pairs that are not among the candidates. -/
theorem lookup_writeBatch_stored (nodup : (candidates.map Candidate.pair).Nodup)
    (tenantID jobID : Text) (row : Candidate → CandidateRow) (pair : Text × Text) :
    (writeBatch table
        (candidates.map fun candidate => (rowKey tenantID jobID candidate.pair, row candidate))
        .stored).lookup (rowKey tenantID jobID pair) =
      ((candidateOf candidates pair).map row).or (table.lookup (rowKey tenantID jobID pair)) := by
  rw [writeBatch, if_pos (show Write.stored.applied = true from rfl), lookup_upsertAll,
    lastRow_candidates nodup]

theorem provenanceMap_lookup (mem : candidate ∈ candidates) :
    ∃ other ∈ candidates, provenanceKey other = provenanceKey candidate ∧
      (provenanceMap attempt candidates).lookup (provenanceKey candidate) =
        some (provenanceOf attempt other) := by
  rw [provenanceMap, lookup_upsertAll]
  cases found : lastRow (candidates.map fun candidate =>
      (provenanceKey candidate, provenanceOf attempt candidate)) (provenanceKey candidate) with
  | none =>
    refine absurd ?_ (lastRow_eq_none.mp found)
    rw [map_map]
    exact mem_map_of_mem mem
  | some provenance =>
    obtain ⟨other, ofCandidates, same⟩ := mem_map.mp (mem_of_lastRow found)
    obtain ⟨keys, rfl⟩ := Prod.mk.injEq .. ▸ same
    exact ⟨other, ofCandidates, keys, rfl⟩

theorem provenanceMap_own_iff :
    (∀ candidate ∈ candidates,
      ((provenanceMap attempt candidates).lookup (provenanceKey candidate)).getD [] =
        provenanceOf attempt candidate) ↔
      UnambiguousProvenance attempt candidates := by
  constructor
  · intro own left ofLeft right ofRight same
    rw [← own left ofLeft, ← own right ofRight, same]
  · intro unambiguous candidate mem
    obtain ⟨other, ofCandidates, same, found⟩ := provenanceMap_lookup mem
    rw [found, Option.getD_some]
    exact unambiguous other ofCandidates candidate mem same

/-- A table in which every row of the job is a candidate's has as many rows of a source
as there are candidates of it, at most. -/
theorem targetCount_le {tenantID jobID : Text}
    (own : ∀ pair, rowKey tenantID jobID pair ∈ table → pair ∈ candidates.map Candidate.pair)
    (source : Text) :
    targetCount table tenantID jobID source ≤
      (candidates.filter fun candidate => candidate.sourceID = source).length := by
  have keys : (table.keys.filter fun key =>
      key.tenantID = tenantID ∧ key.jobID = jobID ∧ key.sourceID = source).Nodup :=
    table.keys_nodup.sublist filter_sublist
  have included : (table.keys.filter fun key =>
      key.tenantID = tenantID ∧ key.jobID = jobID ∧ key.sourceID = source) ⊆
      (candidates.filter fun candidate => candidate.sourceID = source).map
        fun candidate => rowKey tenantID jobID candidate.pair := by
    intro key mem
    obtain ⟨inTable, matches'⟩ := mem_filter.mp mem
    obtain ⟨rfl, rfl, rfl⟩ := of_decide_eq_true matches'
    have found := own (key.sourceID, key.targetID) (AList.mem_keys.mpr inTable)
    obtain ⟨candidate, inCandidates, same⟩ := mem_map.mp found
    refine mem_map.mpr ⟨candidate, mem_filter.mpr ⟨inCandidates, ?_⟩, ?_⟩
    · exact decide_eq_true (congrArg Prod.fst same)
    · rw [same]
      rfl
  have bound := (keys.subperm included).length_le
  rwa [length_map] at bound

section Main

variable {g : CandidateGenerator} {real : ℚ → ℚ} {tenantID jobID : Text}
  {config : Option StoredConfig} {last : Attempt} {tables : CandidateTables}
  {candidates : List Candidate} {matrix : SimilarityMatrix}

section

variable (prepared : prepare g last config = .ok (candidates, matrix))
include prepared

theorem lookup_generate (returned : (generate g real tenantID jobID config last tables).1 = .ok ())
    (pair : Text × Text) :
    (generate g real tenantID jobID config last tables).2.requires.lookup
        (rowKey tenantID jobID pair) =
      ((candidateOf candidates pair).map (requiresRow real last)).or
        (tables.requires.lookup (rowKey tenantID jobID pair)) ∧
    (generate g real tenantID jobID config last tables).2.relationship.lookup
        (rowKey tenantID jobID pair) =
      ((candidateOf candidates pair).map fun candidate =>
        relationshipRow real matrix
          (((provenanceMap last candidates).lookup (provenanceKey candidate)).getD [])
          candidate).or
        (tables.relationship.lookup (rowKey tenantID jobID pair)) := by
  obtain ⟨requiresStored, relationshipStored⟩ := generate_ok returned
  have nodup := (prepare_spec prepared).distinct
  rw [generate_tables prepared, requiresStored, relationshipStored, if_pos rfl]
  exact ⟨lookup_writeBatch_stored nodup tenantID jobID _ pair,
    lookup_writeBatch_stored nodup tenantID jobID _ pair⟩

theorem holdsExactly_iff
    (returned : (generate g real tenantID jobID config last tables).1 = .ok ()) :
    HoldsExactly real tenantID jobID last candidates matrix
        (generate g real tenantID jobID config last tables).2 ↔
      (∀ pair, (rowKey tenantID jobID pair ∈ tables.requires ∨
          rowKey tenantID jobID pair ∈ tables.relationship) →
        pair ∈ candidates.map Candidate.pair) ∧
      UnambiguousProvenance last candidates := by
  have nodup := (prepare_spec prepared).distinct
  have rows := lookup_generate prepared returned
  constructor
  · intro exactly
    constructor
    · rintro pair present
      by_contra missing
      have absent := candidateOf_eq_none.mpr missing
      rcases present with inRequires | inRelationship
      · have kept := (rows pair).1
        rw [exactly.requires, absent, Option.map_none, Option.none_or] at kept
        exact AList.lookup_eq_none.mp kept.symm inRequires
      · have kept := (rows pair).2
        rw [exactly.relationship, absent, Option.map_none, Option.map_none, Option.none_or] at kept
        exact AList.lookup_eq_none.mp kept.symm inRelationship
    · apply provenanceMap_own_iff.mp
      intro candidate mem
      have kept := (rows candidate.pair).2
      rw [exactly.relationship, candidateOf_pair nodup mem] at kept
      simp only [Option.map_some, Option.some_or, Option.some.injEq] at kept
      exact (congrArg CandidateRow.provenance kept).symm
  · rintro ⟨covered, unambiguous⟩
    have own := provenanceMap_own_iff.mpr unambiguous
    constructor
    · intro pair
      rw [(rows pair).1]
      cases found : candidateOf candidates pair with
      | some candidate => simp
      | none =>
        have absent : rowKey tenantID jobID pair ∉ tables.requires :=
          fun present => candidateOf_eq_none.mp found (covered pair (Or.inl present))
        simp [AList.lookup_eq_none.mpr absent]
    · intro pair
      rw [(rows pair).2]
      cases found : candidateOf candidates pair with
      | some candidate =>
        simp [own candidate (candidateOf_eq_some found).1]
      | none =>
        have absent : rowKey tenantID jobID pair ∉ tables.relationship :=
          fun present => candidateOf_eq_none.mp found (covered pair (Or.inr present))
        simp [AList.lookup_eq_none.mpr absent]

theorem HoldsExactly.capped
    (exactly : HoldsExactly real tenantID jobID last candidates matrix tables) (source : Text) :
    (targetCount tables.requires tenantID jobID source : Int) ≤ g.maxPerSource ∧
      (targetCount tables.relationship tenantID jobID source : Int) ≤ g.maxPerSource := by
  have capped := (prepare_spec prepared).capped source
  have requiresOwn : ∀ pair, rowKey tenantID jobID pair ∈ tables.requires →
      pair ∈ candidates.map Candidate.pair := by
    intro pair present
    by_contra missing
    have absent := exactly.requires pair
    rw [candidateOf_eq_none.mpr missing, Option.map_none] at absent
    exact AList.lookup_eq_none.mp absent present
  have relationshipOwn : ∀ pair, rowKey tenantID jobID pair ∈ tables.relationship →
      pair ∈ candidates.map Candidate.pair := by
    intro pair present
    by_contra missing
    have absent := exactly.relationship pair
    rw [candidateOf_eq_none.mpr missing, Option.map_none] at absent
    exact AList.lookup_eq_none.mp absent present
  have requiresBound := targetCount_le requiresOwn source
  have relationshipBound := targetCount_le relationshipOwn source
  omega

end

/-- After any history of calls and a call that returns without an error, the tables
hold exactly the pairs of that call when, and only when, it generated again every pair an
earlier one wrote and no two of its pairs are confused by the provenance key. Exact
tables respect the limit per source. -/
theorem candidateTables_exact_iff {history : List (CandidateGenerator × Attempt)}
    (clear : tables.Clear tenantID jobID)
    (prepared : prepare g last config = .ok (candidates, matrix))
    (returned : (generate g real tenantID jobID config last
      (replay real tenantID jobID config tables history)).1 = .ok ()) :
    (HoldsExactly real tenantID jobID last candidates matrix
        (generate g real tenantID jobID config last
          (replay real tenantID jobID config tables history)).2 ↔
      Regenerated config history candidates ∧ UnambiguousProvenance last candidates) ∧
    (HoldsExactly real tenantID jobID last candidates matrix
        (generate g real tenantID jobID config last
          (replay real tenantID jobID config tables history)).2 →
      ∀ source,
        (targetCount (generate g real tenantID jobID config last
          (replay real tenantID jobID config tables history)).2.requires
            tenantID jobID source : Int) ≤ g.maxPerSource ∧
        (targetCount (generate g real tenantID jobID config last
          (replay real tenantID jobID config tables history)).2.relationship
            tenantID jobID source : Int) ≤ g.maxPerSource) := by
  refine ⟨?_, fun exactly => exactly.capped prepared⟩
  rw [holdsExactly_iff prepared returned]
  apply and_congr_left'
  constructor
  · intro covered call inHistory
    constructor
    · intro pair wrote
      exact covered pair (Or.inl (mem_requires_replay.mpr (Or.inl ⟨call, inHistory, wrote⟩)))
    · intro pair wrote
      exact covered pair
        (Or.inr (mem_relationship_replay.mpr (Or.inl ⟨call, inHistory, wrote⟩)))
  · rintro regenerated pair (present | present)
    · rcases mem_requires_replay.mp present with ⟨call, inHistory, wrote⟩ | before
      · exact (regenerated call inHistory).1 pair wrote
      · exact absurd before (clear pair).1
    · rcases mem_relationship_replay.mp present with ⟨call, inHistory, wrote⟩ | before
      · exact (regenerated call inHistory).2 pair wrote
      · exact absurd before (clear pair).2

end Main

section Retried

def retriedControls (middle last : Text) : Controls :=
  ({ entries :=
      [⟨['a'], { text := ['x'], type := [], level := "Operational".toList, ancestor := [] }⟩,
       ⟨['b'], { text := ['x'], type := [], level := middle, ancestor := [] }⟩,
       ⟨['c'], { text := ['x'], type := [], level := last, ancestor := [] }⟩]
     nodupKeys := by simp [List.NodupKeys, List.keys] } : AList fun _ : Text => ControlData)

def plainHost : Host :=
  { round := id, log := id, lower := id, isWord := fun _ => true, fixed := fun _ _ => []
    visit := fun _ _ => id, visits := fun _ _ _ => List.Perm.refl _
    visitGroups := fun _ => id, visitsGroups := fun _ _ => List.Perm.refl _ }

def noSimilarities : SimilarityMatrix :=
  { ids := [], values := [], distinct := nodup_nil, rows := rfl
    columns := fun _ member => nomatch member }

def retriedAttempt (middle last : Text) (relationshipWrite : Write) : Attempt :=
  { host := fun _ => plainHost
    isSpace := fun symbol => symbol = ' '
    formatFloat := fun _ => []
    controls := fun catalogID =>
      if catalogID = ['k'] then .ok (retriedControls middle last) else .error .failed
    own := by
      intro left right leftControls rightControls id ofLeft ofRight _ _
      have isLeft : left = ['k'] := by
        by_contra other
        rw [if_neg other] at ofLeft
        cases ofLeft
      have isRight : right = ['k'] := by
        by_contra other
        rw [if_neg other] at ofRight
        cases ofRight
      rw [isLeft, isRight]
    embeddings := fun _ => .ok noSimilarities
    order := fun _ entries => entries
    orders := fun _ _ => List.Perm.refl _
    requiresWrite := .stored
    relationshipWrite }

def levelOnly : CandidateGenerator :=
  { entries := [{ kind := .level, weight := 1 }], maxPerSource := 1, minEmbeddingCoverage := 0
    validated := le_refl 1 }

def oneCatalog : Option StoredConfig :=
  some { catalogID := ['k'], targetCatalogID := [], bidirectional := false }

def emptyTables : CandidateTables := { requires := ∅, relationship := ∅ }

/-- The first call's second transaction is lost, so the job fails and is retried. -/
def cutShort : Attempt := retriedAttempt "Strategic".toList [] .lost

def reclassified : Attempt := retriedAttempt [] "Strategic".toList .stored

def retriedTables (last : Attempt) : Except GenerateError Unit × CandidateTables :=
  generate levelOnly id ['t'] ['j'] oneCatalog last
    (replay id ['t'] ['j'] oneCatalog emptyTables [(levelOnly, cutShort)])

theorem emptyTables_clear (tenantID jobID : Text) : emptyTables.Clear tenantID jobID := by
  intro pair
  exact ⟨AList.notMem_empty _, AList.notMem_empty _⟩

/-- Both targets of the source are in requires_candidates, although the limit is one and
the last call generated only the second. -/
theorem stale_candidate_survives_retry :
    emptyTables.Clear ['t'] ['j'] ∧ (retriedTables reclassified).1 = .ok () ∧
      ((prepare levelOnly reclassified oneCatalog).toOption.map fun prepared =>
        prepared.1.map Candidate.pair) = some [(['a'], ['c'])] ∧
      rowKey ['t'] ['j'] (['a'], ['b']) ∈ (retriedTables reclassified).2.requires ∧
      levelOnly.maxPerSource = 1 ∧
      targetCount (retriedTables reclassified).2.requires ['t'] ['j'] ['a'] = 2 := by
  refine ⟨emptyTables_clear _ _, ?_, ?_, ?_, ?_, ?_⟩
  all_goals decide +kernel

def repeated : Attempt := retriedAttempt "Strategic".toList [] .stored

def repeatedCandidate : Candidate :=
  { sourceID := ['a'], targetID := ['b'], score := 1 / 61, weight := 1
    generatorID := levelName, metadata := []
    contributions :=
      [{ generatorID := levelName, score := 1, weight := 1, rank := 1
         metadata := [("source_level".toList, "Operational".toList),
           ("target_level".toList, "Strategic".toList)] }] }

theorem candidateTables_exact_after_repeat :
    HoldsExactly id ['t'] ['j'] repeated [repeatedCandidate] noSimilarities
        (retriedTables repeated).2 ∧
      (targetCount (retriedTables repeated).2.requires ['t'] ['j'] ['a'] : Int) ≤
        levelOnly.maxPerSource := by
  have prepared : prepare levelOnly repeated oneCatalog =
      .ok ([repeatedCandidate], noSimilarities) := by decide +kernel
  obtain ⟨exact_iff, capped⟩ := candidateTables_exact_iff (emptyTables_clear ['t'] ['j']) prepared
    (show (retriedTables repeated).1 = .ok () by decide +kernel)
  have regenerated : Regenerated oneCatalog [(levelOnly, cutShort)] [repeatedCandidate] := by
    unfold Regenerated
    decide +kernel
  have unambiguous : UnambiguousProvenance repeated [repeatedCandidate] := by
    unfold UnambiguousProvenance
    decide +kernel
  have exactly := exact_iff.mpr ⟨regenerated, unambiguous⟩
  exact ⟨exactly, (capped exactly ['a']).1⟩

end Retried

end CrossCodex.Pipeline
