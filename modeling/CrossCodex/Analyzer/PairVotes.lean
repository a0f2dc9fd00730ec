/-
How the pair analyzers read the answers to their tasks (internal/analyzer/results.go,
requires/parser.go, relationship/parser.go).
-/

import CrossCodex.Analyzer.TaskIdentity
import CrossCodex.Library.Upsert
import Mathlib.Data.List.Perm.Subperm

namespace CrossCodex.Analyzer

open Library List

inductive TaskError where
  | outputTruncated
  | other
deriving DecidableEq

structure TaskResult where
  taskID : Text
  outcome : Except TaskError (Option Text)
deriving DecidableEq

def TaskResult.failed (result : TaskResult) : Bool :=
  match result.outcome with
  | .error _ => true
  | .ok _ => false

inductive StageFailure where
  | outputTruncated (truncated total : Nat)
  | allFailed (failures : Nat)
  | aggregate
deriving DecidableEq

/-- executeAnalyzer between the last result and Aggregate: failed tasks are dropped. -/
def aggregateInput (results : List TaskResult) : Except StageFailure (List TaskResult) :=
  let truncated := results.filter fun result => result.outcome = .error .outputTruncated
  let successes := results.filter fun result => !result.failed
  let failures := (results.filter TaskResult.failed).length
  if truncated ≠ [] then .error (.outputTruncated truncated.length results.length)
  else if successes = [] ∧ 0 < failures then .error (.allFailed failures)
  else .ok (if 0 < failures then successes else results)

/-- The characters that `(?i)` takes for a given upper-case letter; `ſ` is an `S`. -/
def foldsTo (upper symbol : Char) : Bool :=
  symbol = upper || symbol = upper.toLower || (upper = 'S' && symbol = 'ſ')

/-- The characters that ToUpper turns into it; also `ı` becomes an `I`. -/
def uppersTo (upper symbol : Char) : Bool :=
  foldsTo upper symbol || (upper = 'I' && symbol = 'ı')

/-- A text that reads as the upper-case word, character by character. -/
def readsAs (reads : Char → Char → Bool) : Text → Text → Bool
  | [], [] => true
  | upper :: uppers, symbol :: symbols => reads upper symbol && readsAs reads uppers symbols
  | _, _ => false

def isSpace (symbol : Char) : Bool :=
  symbol ∈ ['\t', '\n', '\x0c', '\r', ' ']

/-- The group of `(?i)LABEL:\s*(\S+)` when the match starts at the head of the text. -/
def labelledWordHere (label text : Text) : Option Text :=
  if readsAs foldsTo label (text.take label.length) then
    let word := ((text.drop label.length).dropWhile isSpace).takeWhile fun symbol => !isSpace symbol
    if word = [] then none else some word
  else none

def labelledWord (label : Text) : Text → Option Text
  | [] => none
  | symbol :: rest =>
    match labelledWordHere label (symbol :: rest) with
    | some word => some word
    | none => labelledWord label rest

structure CastVote where
  taskID : Text
  source : Text
  target : Text
  model : Text
  sample : Nat
  raw : Text
deriving DecidableEq

namespace CastVote

def key (cast : CastVote) : Text := pairSubject cast.source cast.target

end CastVote

/-- The loop body of Aggregate: failed tasks, unreadable task IDs and results without
response text cast no vote. -/
def castVote (analyzerName : Text) (models : List Text) (result : TaskResult) :
    Option CastVote :=
  match result.outcome, parsePairTaskID result.taskID analyzerName models with
  | .ok (some raw), some task =>
    some
      { taskID := result.taskID, source := task.source, target := task.target,
        model := task.model, sample := task.sample, raw }
  | _, _ => none

variable {results : List TaskResult} {input : List TaskResult}

theorem aggregateInput_casts (handed : aggregateInput results = .ok input) (analyzerName : Text)
    (models : List Text) :
    input.filterMap (castVote analyzerName models) =
      results.filterMap (castVote analyzerName models) := by
  unfold aggregateInput at handed
  simp only at handed
  split at handed
  · cases handed
  split at handed
  · cases handed
  cases handed
  split
  · rw [filterMap_filter]
    apply filterMap_congr
    intro result _
    cases outcome : result.outcome <;> simp [TaskResult.failed, castVote, outcome]
  · rfl

theorem mem_of_aggregateInput (handed : aggregateInput results = .ok input) {result : TaskResult}
    (mem : result ∈ input) : result ∈ results := by
  unfold aggregateInput at handed
  simp only at handed
  split_ifs at handed with _truncated _allFailed someFailed
  · cases handed
    exact mem_of_mem_filter mem
  · cases handed
    exact mem

/-- The source of a vote ends at the first separator of its key. -/
theorem castVote_recovered {analyzerName : Text} {models : List Text} {result : TaskResult}
    {vote : CastVote} (voted : castVote analyzerName models result = some vote) :
    SourceRecovered vote.source := by
  unfold castVote at voted
  split at voted
  · rename_i task _ decoded
    cases voted
    unfold parsePairTaskID at decoded
    obtain ⟨rest, _, decoded⟩ := Option.bind_eq_some_iff.mp decoded
    obtain ⟨idx, found, decoded⟩ := Option.bind_eq_some_iff.mp decoded
    obtain ⟨_, _, decoded⟩ := Option.bind_eq_some_iff.mp decoded
    cases decoded
    obtain ⟨bound, ⟨tail, here⟩, _⟩ := index?_eq_some_iff.mp found
    have whole : rest.take idx ++ '-' :: '-' :: tail = rest := by
      rw [← take_append_drop idx rest, ← here, take_left' (by simpa using bound)]
      rfl
    rw [← index?_pairSubject_iff _ tail, whole, found, length_take, Nat.min_eq_left bound]
  · cases voted

theorem key_injective {left right : CastVote} (first : SourceRecovered left.source)
    (second : SourceRecovered right.source) (same : left.key = right.key) :
    left.source = right.source ∧ left.target = right.target := by
  have position := (index?_pairSubject_iff left.source left.target).mpr first
  have other := (index?_pairSubject_iff right.source right.target).mpr second
  have joined : left.source ++ '-' :: '-' :: left.target =
      right.source ++ '-' :: '-' :: right.target := same
  rw [joined, other, Option.some.injEq] at position
  obtain ⟨sources, ends⟩ := append_inj joined position.symm
  exact ⟨sources, (List.cons.inj (List.cons.inj ends).2).2⟩
structure PairGroup where
  source : Text
  target : Text
  casts : List CastVote
deriving DecidableEq

def PairGroup.extended (existing : Option PairGroup) (cast : CastVote) : PairGroup :=
  match existing with
  | none => { source := cast.source, target := cast.target, casts := [cast] }
  | some group => { group with casts := group.casts ++ [cast] }

def addCast (groups : Table Text PairGroup) (cast : CastVote) : Table Text PairGroup :=
  groups.insert cast.key (PairGroup.extended (groups.lookup cast.key) cast)

def groupCasts (casts : List CastVote) : Table Text PairGroup :=
  casts.foldl addCast ∅

structure Grouped (casts : List CastVote) (groups : Table Text PairGroup) : Prop where
  named : ∀ key group, groups.lookup key = some group →
    pairSubject group.source group.target = key
  gathered : ∀ key group, groups.lookup key = some group →
    group.casts = casts.filter fun cast => cast.key = key
  cast : ∀ key group, groups.lookup key = some group →
    ∃ cast ∈ casts, cast.source = group.source ∧ cast.target = group.target
  absent : ∀ key, groups.lookup key = none → ∀ cast ∈ casts, cast.key ≠ key

variable {groups : Table Text PairGroup} {casts : List CastVote}

theorem Grouped.extended (grouped : Grouped casts groups) (cast : CastVote) :
    let group := PairGroup.extended (groups.lookup cast.key) cast
    pairSubject group.source group.target = cast.key ∧
      group.casts = (casts.filter fun other => other.key = cast.key) ++ [cast] ∧
      ∃ other ∈ casts ++ [cast], other.source = group.source ∧ other.target = group.target := by
  cases found : groups.lookup cast.key with
  | none =>
    have none : (casts.filter fun other => other.key = cast.key) = [] := by
      apply filter_eq_nil_iff.mpr
      intro other mem
      simpa using grouped.absent cast.key found other mem
    rw [none]
    exact ⟨rfl, rfl, cast, mem_append_right _ mem_cons_self, rfl, rfl⟩
  | some group =>
    obtain ⟨first, earlier, same⟩ := grouped.cast cast.key group found
    rw [← grouped.gathered cast.key group found]
    exact ⟨grouped.named cast.key group found, rfl, first, mem_append_left _ earlier, same⟩

theorem Grouped.addCast (grouped : Grouped casts groups) (cast : CastVote) :
    Grouped (casts ++ [cast]) (addCast groups cast) := by
  obtain ⟨named, gathered, first⟩ := grouped.extended cast
  refine ⟨?_, ?_, ?_, ?_⟩
  · intro key group lookup
    rw [Analyzer.addCast, lookup_insert_eq] at lookup
    split at lookup
    · rename_i same
      cases lookup
      exact named.trans same
    · exact grouped.named key group lookup
  · intro key group lookup
    rw [Analyzer.addCast, lookup_insert_eq] at lookup
    rw [filter_append]
    split at lookup
    · rename_i same
      cases lookup
      simp [gathered, same]
    · rename_i ne
      simp [ne, grouped.gathered key group lookup]
  · intro key group lookup
    rw [Analyzer.addCast, lookup_insert_eq] at lookup
    split at lookup
    · cases lookup
      exact first
    · obtain ⟨other, earlier, same⟩ := grouped.cast key group lookup
      exact ⟨other, mem_append_left _ earlier, same⟩
  · intro key lookup
    rw [Analyzer.addCast, lookup_insert_eq] at lookup
    split at lookup
    · cases lookup
    · rename_i ne
      exact forall_mem_concat (grouped.absent key lookup) ne

theorem groupCasts_grouped (casts : List CastVote) : Grouped casts (groupCasts casts) := by
  have extend : ∀ (later : List CastVote) (earlier : List CastVote) (groups : Table Text PairGroup),
      Grouped earlier groups → Grouped (earlier ++ later) (later.foldl addCast groups) := by
    intro later
    induction later with
    | nil =>
      intro earlier groups grouped
      rw [append_nil]
      exact grouped
    | cons cast rest ih =>
      intro earlier groups grouped
      have next := ih (earlier ++ [cast]) (addCast groups cast) (grouped.addCast cast)
      rwa [append_assoc, singleton_append] at next
  refine extend casts [] ∅ ⟨?_, ?_, ?_, ?_⟩
  · intro key group lookup
    cases lookup
  · intro key group lookup
    cases lookup
  · intro key group lookup
    cases lookup
  · intro key _ cast mem
    cases mem

def Readable (models : List Text) (pairs : List CandidatePair) : Prop :=
  ∀ pair ∈ pairs, SourceRecovered pair.sourceControlID ∧
    ∀ model ∈ models, ModelRecovered models pair.targetControlID model

instance decidableReadable (models : List Text) (pairs : List CandidatePair) :
    Decidable (Readable models pairs) :=
  inferInstanceAs (Decidable (∀ _ ∈ _, _))

section Planned

variable {analyzerName : Text} {cfg : PanelConfig} {pairs : List CandidatePair}
  {pair : CandidatePair} {taskID : Text} {group : PairGroup} {key : Text}

section

variable (readable : Readable cfg.models pairs) (samples : cfg.samplesPerModel ≤ 2 ^ 63)
include readable samples

theorem parsePairTaskID_planned (listed : pair ∈ pairs)
    (planned : taskID ∈ panelTaskIDs analyzerName pair.subject cfg) :
    ∃ model sample, parsePairTaskID taskID analyzerName cfg.models = some
      { source := pair.sourceControlID, target := pair.targetControlID, model, sample } := by
  obtain ⟨model, known, sample, bounded, rfl⟩ := mem_panelTaskIDs.mp planned
  obtain ⟨sourceRecovered, modelRecovered⟩ := readable pair listed
  exact ⟨model, sample, (parsePairTaskID_eq_some_iff known (bounded.trans_le samples)).mpr
    ⟨sourceRecovered, modelRecovered model known⟩⟩

theorem castVote_planned (listed : pair ∈ pairs)
    (planned : taskID ∈ panelTaskIDs analyzerName pair.subject cfg)
    {outcome : Except TaskError (Option Text)} {vote : CastVote}
    (voted : castVote analyzerName cfg.models { taskID, outcome } = some vote) :
    vote.source = pair.sourceControlID ∧ vote.target = pair.targetControlID ∧
      outcome = .ok (some vote.raw) := by
  obtain ⟨model, sample, decoded⟩ := parsePairTaskID_planned readable samples listed planned
  unfold castVote at voted
  rw [decoded] at voted
  split at voted
  · rename_i raw task answered same
    cases same
    cases voted
    exact ⟨rfl, rfl, answered⟩
  · cases voted

def OfPairs (analyzerName : Text) (cfg : PanelConfig) (pairs : List CandidatePair)
    (results : List TaskResult) : Prop :=
  ∀ result ∈ results, ∃ pair ∈ pairs,
    result.taskID ∈ panelTaskIDs analyzerName pair.subject cfg

theorem groupCasts_pair (planned : OfPairs analyzerName cfg pairs results)
    (lookup : (groupCasts (results.filterMap (castVote analyzerName cfg.models))).lookup key =
      some group) :
    ∃ pair ∈ pairs, group.source = pair.sourceControlID ∧
      group.target = pair.targetControlID ∧ pair.subject = key := by
  have grouped := groupCasts_grouped (results.filterMap (castVote analyzerName cfg.models))
  obtain ⟨vote, cast, source, target⟩ := grouped.cast key group lookup
  obtain ⟨result, inResults, voted⟩ := mem_filterMap.mp cast
  obtain ⟨pair, listed, ofPair⟩ := planned result inResults
  obtain ⟨ownSource, ownTarget, _⟩ := castVote_planned readable samples listed ofPair voted
  refine ⟨pair, listed, source.symm.trans ownSource, target.symm.trans ownTarget, ?_⟩
  rw [← grouped.named key group lookup, ← source, ← target, ownSource, ownTarget]
  rfl

theorem groupCasts_length_le (planned : OfPairs analyzerName cfg pairs results) :
    (groupCasts (results.filterMap (castVote analyzerName cfg.models))).keys.length ≤
      pairs.length := by
  have included : (groupCasts (results.filterMap (castVote analyzerName cfg.models))).keys ⊆
      pairs.map CandidatePair.subject := by
    intro key present
    obtain ⟨group, lookup⟩ := Option.isSome_iff_exists.mp
      (AList.lookup_isSome.mpr (AList.mem_keys.mpr present))
    obtain ⟨pair, listed, _, _, subject⟩ := groupCasts_pair readable samples planned lookup
    exact mem_map.mpr ⟨pair, listed, subject⟩
  have bound := ((AList.keys_nodup _).subperm included).length_le
  rwa [length_map] at bound

end

theorem group_casts_length_le {models : List Text}
    (lookup : (groupCasts (results.filterMap (castVote analyzerName models))).lookup key =
      some group) : group.casts.length ≤ results.length := by
  rw [(groupCasts_grouped _).gathered key group lookup]
  exact (length_filter_le _ _).trans (length_filterMap_le _ _)

end Planned

end CrossCodex.Analyzer
