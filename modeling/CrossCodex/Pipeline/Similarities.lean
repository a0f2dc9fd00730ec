/-
similarityMatrix (internal/pipeline/candidate_readers.go), similarityStats and
conventionalMedian (synthesis_inputs.go). Mean and variance are gonum's and a parameter.
-/

import CrossCodex.Candidates.Generators
import CrossCodex.Library.Rounding
import Mathlib.Data.List.ProdSigma
import Mathlib.Tactic.NormNum

namespace CrossCodex.Pipeline

open Library Candidates
open Analyzer (Text)
open List

structure FloatFormats where
  double : Rounding
  single : ℚ → ℚ
  singleMonotone : Monotone single
  singleZero : single 0 = 0

/-- gonum's stat package without weights, of finite values. -/
structure StatPackage where
  mean : List ℚ → ℚ
  variance : List ℚ → ℚ
  meanNonneg : ∀ values, (∀ value ∈ values, 0 ≤ value) → 0 ≤ mean values

structure SimilarityRow where
  sourceID : Text
  targetID : Text
  similarity : ℚ

def SimilarityRow.pair (row : SimilarityRow) : Text × Text := (row.sourceID, row.targetID)

inductive SimilarityError where
  | repeatedPair (pair : Text × Text)
deriving DecidableEq

def repeatedPair (seen : List (Text × Text)) : List SimilarityRow → Option (Text × Text)
  | [] => none
  | row :: rest =>
    if row.pair ∈ seen then some row.pair else repeatedPair (row.pair :: seen) rest

theorem repeatedPair_eq_none {seen : List (Text × Text)} {rows : List SimilarityRow}
    (nodup : (rows.map SimilarityRow.pair).Nodup)
    (fresh : ∀ row ∈ rows, row.pair ∉ seen) : repeatedPair seen rows = none := by
  induction rows generalizing seen with
  | nil => rfl
  | cons row rest ih =>
    rw [map_cons, nodup_cons] at nodup
    rw [repeatedPair, if_neg (fresh row mem_cons_self)]
    apply ih nodup.2
    intro later inRest listed
    rcases mem_cons.mp listed with same | earlier
    · exact nodup.1 (same ▸ mem_map_of_mem inRest)
    · exact fresh later (mem_cons_of_mem _ inRest) earlier

/-- A pair that was not read keeps the zero of a new row. -/
def matrixValue (rows : List SimilarityRow) (sourceID targetID : Text) : ℚ :=
  (lastRow (rows.map fun row => (row.pair, row.similarity)) (sourceID, targetID)).getD 0

def similarityMatrix (rows : List SimilarityRow) : Except SimilarityError SimilarityMatrix :=
  match repeatedPair [] rows with
  | some pair => .error (.repeatedPair pair)
  | none =>
    let ids := (rows.map SimilarityRow.sourceID).dedup.insertionSort (· ≤ ·)
    .ok
      { ids
        values := ids.map fun sourceID => ids.map fun targetID =>
          matrixValue rows sourceID targetID
        distinct := (perm_insertionSort _ _).nodup_iff.mpr (nodup_dedup _)
        rows := length_map _
        columns := by
          intro row member
          obtain ⟨sourceID, _, rfl⟩ := mem_map.mp member
          exact length_map _ }

/-- The embeddings of one model under the current catalogs of their controls, and the
cosine distances pgvector finds between them. -/
structure EmbeddedControls where
  controls : List Text
  distinct : controls.Nodup
  distance : Text → Text → ℚ
  bounds : ∀ sourceID targetID, 0 ≤ distance sourceID targetID ∧ distance sourceID targetID ≤ 2
  order : List (Text × Text) → List (Text × Text)
  orders : ∀ pairs, (order pairs).Perm pairs

/-- `(1 - distance) * 100`, read as a float32. -/
def similarityOf (formats : FloatFormats) (distance : ℚ) : ℚ :=
  formats.single (formats.double.round (formats.double.round (1 - distance) * 100))

theorem similarityOf_nonneg (formats : FloatFormats) {distance : ℚ} (close : distance ≤ 1) :
    0 ≤ similarityOf formats distance := by
  rw [← formats.singleZero]
  apply formats.singleMonotone
  apply formats.double.round_nonneg
  apply mul_nonneg _ (by norm_num)
  exact formats.double.round_nonneg (sub_nonneg.mpr close)

namespace EmbeddedControls

def rows (formats : FloatFormats) (embedded : EmbeddedControls) : List SimilarityRow :=
  (embedded.order (embedded.controls.product embedded.controls)).map fun pair =>
    { sourceID := pair.1, targetID := pair.2
      similarity := similarityOf formats (embedded.distance pair.1 pair.2) }

variable {formats : FloatFormats} {embedded : EmbeddedControls}

theorem mem_order {pair : Text × Text} :
    pair ∈ embedded.order (embedded.controls.product embedded.controls) ↔
      pair.1 ∈ embedded.controls ∧ pair.2 ∈ embedded.controls := by
  obtain ⟨sourceID, targetID⟩ := pair
  rw [(embedded.orders _).mem_iff]
  exact pair_mem_product

theorem rows_pairs : (embedded.rows formats).map SimilarityRow.pair =
    embedded.order (embedded.controls.product embedded.controls) := by
  rw [rows, map_map]
  exact map_id _

theorem rows_pairs_nodup : ((embedded.rows formats).map SimilarityRow.pair).Nodup := by
  rw [rows_pairs, (embedded.orders _).nodup_iff]
  exact embedded.distinct.product embedded.distinct

theorem mem_sources {id : Text} :
    id ∈ (embedded.rows formats).map SimilarityRow.sourceID ↔ id ∈ embedded.controls := by
  rw [rows, map_map, mem_map]
  constructor
  · rintro ⟨pair, joined, rfl⟩
    exact (mem_order.mp joined).1
  · intro listed
    exact ⟨(id, id), mem_order.mpr ⟨listed, listed⟩, rfl⟩

theorem matrixValue_rows {sourceID targetID : Text} (ofSource : sourceID ∈ embedded.controls)
    (ofTarget : targetID ∈ embedded.controls) :
    matrixValue (embedded.rows formats) sourceID targetID =
      similarityOf formats (embedded.distance sourceID targetID) := by
  have keys : ((embedded.rows formats).map fun row => (row.pair, row.similarity)).map Prod.fst =
      (embedded.rows formats).map SimilarityRow.pair := by
    rw [map_map]
    rfl
  have pairs : ((embedded.rows formats).map SimilarityRow.pair).Nodup := rows_pairs_nodup
  have nodup := keys ▸ pairs
  have joined : (sourceID, targetID) ∈
      embedded.order (embedded.controls.product embedded.controls) :=
    mem_order.mpr ⟨ofSource, ofTarget⟩
  have read : ((sourceID, targetID), similarityOf formats (embedded.distance sourceID targetID)) ∈
      (embedded.rows formats).map fun row => (row.pair, row.similarity) :=
    mem_map.mpr ⟨_, mem_map.mpr ⟨_, joined, rfl⟩, rfl⟩
  rw [matrixValue, lastRow_eq_firstRow nodup, firstRow_of_mem nodup read]
  rfl

def value? (formats : FloatFormats) (embedded : EmbeddedControls) (sourceID targetID : Text) :
    Option ℚ :=
  if sourceID ∈ embedded.controls ∧ targetID ∈ embedded.controls then
    some (similarityOf formats (embedded.distance sourceID targetID))
  else none

theorem similarityMatrix_rows (formats : FloatFormats) (embedded : EmbeddedControls) :
    ∃ matrix, similarityMatrix (embedded.rows formats) = .ok matrix ∧
      ∀ sourceID targetID,
        matrix.value? sourceID targetID = embedded.value? formats sourceID targetID := by
  have scanned : repeatedPair [] (embedded.rows formats) = none :=
    repeatedPair_eq_none rows_pairs_nodup fun _ _ listed => by cases listed
  unfold similarityMatrix
  rw [scanned]
  refine ⟨_, rfl, ?_⟩
  intro sourceID targetID
  unfold SimilarityMatrix.value? value?
  simp only [mem_insertionSort, mem_dedup, mem_sources]
  split
  · rename_i both
    have present : ∀ id ∈ embedded.controls,
        (((embedded.rows formats).map SimilarityRow.sourceID).dedup.insertionSort (· ≤ ·))[
          (((embedded.rows formats).map SimilarityRow.sourceID).dedup.insertionSort
            (· ≤ ·)).idxOf id]? = some id := by
      intro id listed
      apply getElem?_idxOf
      rw [mem_insertionSort, mem_dedup]
      exact mem_sources.mpr listed
    rw [getElem?_map, present _ both.1, Option.map_some, Option.bind_some,
      getElem?_map, present _ both.2, Option.map_some, matrixValue_rows both.1 both.2]
  · rfl

end EmbeddedControls

structure SimilarityStats where
  mean : ℚ
  median : ℚ
  variance : ℚ
  count : Nat
deriving DecidableEq

section Statistics

def conventionalMedian (fl : ℚ → ℚ) (sorted : List ℚ) : ℚ :=
  let n := sorted.length
  if n % 2 = 1 then (sorted[n / 2]?).getD 0
  else fl (fl ((sorted[n / 2 - 1]?).getD 0 + (sorted[n / 2]?).getD 0) / 2)

variable (stat : StatPackage) (fl : ℚ → ℚ)

def statsOf (values : List ℚ) : SimilarityStats :=
  if values = [] then { mean := 0, median := 0, variance := 0, count := 0 }
  else
    { mean := stat.mean values
      median := conventionalMedian fl (values.insertionSort (· ≤ ·))
      variance := if 1 < values.length then stat.variance values else 0
      count := values.length }

def pairValues (similarityByModel : Table Text SimilarityMatrix) (sourceID targetID : Text) :
    List ℚ :=
  (similarityByModel.keys.insertionSort (· ≤ ·)).filterMap fun model =>
    (similarityByModel.lookup model).bind fun matrix => matrix.value? sourceID targetID

def similarityStats (similarityByModel : Table Text SimilarityMatrix)
    (sourceID targetID : Text) : SimilarityStats :=
  statsOf stat fl (pairValues similarityByModel sourceID targetID)

end Statistics

theorem statsOf_mean_nonneg (stat : StatPackage) (fl : ℚ → ℚ) {values : List ℚ}
    (nonneg : ∀ value ∈ values, 0 ≤ value) : 0 ≤ (statsOf stat fl values).mean := by
  unfold statsOf
  split
  · exact le_refl 0
  · exact stat.meanNonneg values nonneg

def readSimilarities (formats : FloatFormats) (embedded : Text → EmbeddedControls)
    (similarityByModel : Table Text SimilarityMatrix) :
    List Text → Except SimilarityError (Table Text SimilarityMatrix)
  | [] => .ok similarityByModel
  | model :: rest =>
    match similarityMatrix ((embedded model).rows formats) with
    | .error cause => .error cause
    | .ok matrix => readSimilarities formats embedded (similarityByModel.insert model matrix) rest

def embeddedValues (formats : FloatFormats) (embedded : Text → EmbeddedControls)
    (models : List Text) (sourceID targetID : Text) : List ℚ :=
  (models.dedup.insertionSort (· ≤ ·)).filterMap fun model =>
    (embedded model).value? formats sourceID targetID

def HoldsModels (formats : FloatFormats) (embedded : Text → EmbeddedControls)
    (models : List Text) (similarityByModel : Table Text SimilarityMatrix) : Prop :=
  (∀ model, model ∈ similarityByModel ↔ model ∈ models) ∧
    ∀ model matrix, similarityByModel.lookup model = some matrix →
      ∀ sourceID targetID,
        matrix.value? sourceID targetID = (embedded model).value? formats sourceID targetID

theorem readSimilarities_holds (formats : FloatFormats) (embedded : Text → EmbeddedControls)
    (models : List Text) {earlier : List Text} {start : Table Text SimilarityMatrix}
    (holds : HoldsModels formats embedded earlier start) :
    ∃ similarityByModel, readSimilarities formats embedded start models = .ok similarityByModel ∧
      HoldsModels formats embedded (models ++ earlier) similarityByModel := by
  induction models generalizing earlier start with
  | nil => exact ⟨start, rfl, holds⟩
  | cons model rest ih =>
    obtain ⟨matrix, read, values⟩ := (embedded model).similarityMatrix_rows formats
    have inserted : HoldsModels formats embedded (model :: earlier)
        (start.insert model matrix) := by
      constructor
      · intro other
        rw [AList.mem_insert, mem_cons, holds.1]
      · intro other found
        rw [lookup_insert_eq]
        split
        · rename_i same
          intro lookup
          cases lookup
          exact same ▸ values
        · exact holds.2 other found
    obtain ⟨all, later, held⟩ := ih inserted
    refine ⟨all, by rw [readSimilarities, read]; exact later, ?_⟩
    refine ⟨fun other => ?_, held.2⟩
    rw [held.1]
    simp only [cons_append, mem_append, mem_cons]
    tauto

theorem HoldsModels.pairValues {formats : FloatFormats} {embedded : Text → EmbeddedControls}
    {models : List Text} {similarityByModel : Table Text SimilarityMatrix}
    (holds : HoldsModels formats embedded models similarityByModel) (sourceID targetID : Text) :
    pairValues similarityByModel sourceID targetID =
      embeddedValues formats embedded models sourceID targetID := by
  have keys : similarityByModel.keys.insertionSort (· ≤ ·) =
      models.dedup.insertionSort (· ≤ ·) := by
    apply List.Perm.eq_of_pairwise (fun _ _ _ _ => le_antisymm)
      (pairwise_insertionSort (· ≤ ·) _) (pairwise_insertionSort (· ≤ ·) _)
    apply ((perm_insertionSort _ _).trans _).trans (perm_insertionSort _ _).symm
    apply (perm_ext_iff_of_nodup similarityByModel.keys_nodup (nodup_dedup _)).mpr
    intro model
    rw [← AList.mem_keys, holds.1, mem_dedup]
  unfold Pipeline.pairValues embeddedValues
  rw [keys]
  apply filterMap_congr
  intro model listed
  rw [mem_insertionSort, mem_dedup, ← holds.1] at listed
  obtain ⟨matrix, lookup⟩ := Option.isSome_iff_exists.mp (AList.lookup_isSome.mpr listed)
  rw [lookup, Option.bind_some]
  exact holds.2 model matrix lookup sourceID targetID

theorem readSimilarities_stats (stat : StatPackage) (fl : ℚ → ℚ) (formats : FloatFormats)
    (embedded : Text → EmbeddedControls) (models : List Text) :
    ∃ similarityByModel, readSimilarities formats embedded ∅ models = .ok similarityByModel ∧
      ∀ sourceID targetID, similarityStats stat fl similarityByModel sourceID targetID =
        statsOf stat fl (embeddedValues formats embedded models sourceID targetID) := by
  have empty : HoldsModels formats embedded [] ∅ := by
    constructor
    · intro model
      simp
    · intro model matrix lookup
      cases lookup
  obtain ⟨similarityByModel, read, holds⟩ := readSimilarities_holds formats embedded models empty
  rw [append_nil] at holds
  refine ⟨similarityByModel, read, fun sourceID targetID => ?_⟩
  rw [similarityStats, holds.pairValues]

end CrossCodex.Pipeline
