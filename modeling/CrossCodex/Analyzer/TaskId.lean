/-
Task IDs and their decoding (internal/analyzer/taskid.go). Texts are sequences of
characters; every pattern searched for is ASCII.
-/

import CrossCodex.Library.Encoding
import CrossCodex.Library.Segment
import Mathlib.Algebra.Group.Nat.Defs

namespace CrossCodex.Analyzer

open Library List Option

abbrev Text := List Char

def formatSample (sample : Nat) : Text := Nat.toDigits 10 sample

/-- `"%s-%s"`, the ID of a task that depends on nothing but its subject. -/
def subjectTaskID (analyzerName subject : Text) : Text :=
  analyzerName ++ '-' :: subject

/-- `"%s-%s-skip"`. -/
def skipTaskID (analyzerName controlID : Text) : Text :=
  subjectTaskID analyzerName (controlID ++ "-skip".toList)

/-- `"%s-%s-%s-s%d"`. -/
def controlTaskID (analyzerName controlID model : Text) (sample : Nat) : Text :=
  subjectTaskID analyzerName
    (controlID ++ '-' :: (model ++ '-' :: 's' :: formatSample sample))

/-- The subject of a pair task: `"%s--%s"`. -/
def pairSubject (source target : Text) : Text :=
  source ++ '-' :: '-' :: target

/-- `"%s-%s--%s-%s-s%d"`. -/
def pairTaskID (analyzerName source target model : Text) (sample : Nat) : Text :=
  controlTaskID analyzerName (pairSubject source target) model sample

def stripTaskIDPrefix (taskID analyzerName : Text) : Option Text :=
  let lead := analyzerName ++ ['-']
  if lead <+: taskID then some (taskID.drop lead.length) else none

/-- The group of `-s(\d+)$` when the match starts at the head of the text. -/
def sampleDigitsHere : Text → Option Text
  | '-' :: 's' :: digits =>
    if digits ≠ [] ∧ digits.all Char.isDigit = true then some digits else none
  | _ => none

/-- The group of the leftmost match of `-s(\d+)$`. -/
def reSampleSuffix : Text → Option Text
  | [] => none
  | symbol :: rest =>
    match sampleDigitsHere (symbol :: rest) with
    | some digits => some digits
    | none => reSampleSuffix rest

/-- `strconv.Atoi` of a run of digits: an error outside a 64-bit `int`. -/
def atoi (digits : Text) : Option Nat :=
  let value := Nat.ofDigitChars 10 digits 0
  if value < 2 ^ 63 then some value else none

/-- The end both decoders share: the sample number behind the last `-s`, then the
first configured model that the remaining text ends with. -/
def cutModelAndSample (tail : Text) (models : List Text) : Option (Text × Text × Nat) := do
  let digits ← reSampleSuffix tail
  let sample ← atoi digits
  let subjectModel := trimSuffix tail ('-' :: 's' :: digits)
  let model ← models.find? (fun model => decide (('-' :: model) <:+ subjectModel))
  return (trimSuffix subjectModel ('-' :: model), model, sample)

structure PairTask where
  source : Text
  target : Text
  model : Text
  sample : Nat
deriving DecidableEq, Repr

def parsePairTaskID (taskID analyzerName : Text) (models : List Text) : Option PairTask := do
  let rest ← stripTaskIDPrefix taskID analyzerName
  let idx ← index? "--".toList rest
  let (target, model, sample) ← cutModelAndSample (rest.drop (idx + 2)) models
  return { source := rest.take idx, target, model, sample }

structure ControlTask where
  controlID : Text
  model : Text
  sample : Nat
  skipped : Bool
deriving DecidableEq, Repr

def parseControlTaskID (taskID analyzerName : Text) (models : List Text) :
    Option ControlTask := do
  let rest ← stripTaskIDPrefix taskID analyzerName
  if "-skip".toList <:+ rest then
    return { controlID := trimSuffix rest "-skip".toList, model := [], sample := 0,
             skipped := true }
  let (controlID, model, sample) ← cutModelAndSample rest models
  return { controlID, model, sample, skipped := false }

@[simp] theorem stripTaskIDPrefix_subjectTaskID (analyzerName subject : Text) :
    stripTaskIDPrefix (subjectTaskID analyzerName subject) analyzerName = some subject := by
  have lead : analyzerName ++ ['-'] <+: subjectTaskID analyzerName subject :=
    ⟨subject, by simp [subjectTaskID]⟩
  simp only [stripTaskIDPrefix, lead, if_true, Option.some.injEq]
  simp [subjectTaskID, drop_append]

variable {sample : Nat}

theorem formatSample_isDigit {symbol : Char} (mem : symbol ∈ formatSample sample) :
    symbol.isDigit = true :=
  Nat.isDigit_of_mem_toDigits (by decide) (by decide) mem

theorem formatSample_ne_nil (sample : Nat) : formatSample sample ≠ [] :=
  Nat.toDigits_ne_nil

theorem formatSample_injective : Function.Injective formatSample := toDigits_injective

@[simp] theorem atoi_formatSample (bounded : sample < 2 ^ 63) :
    atoi (formatSample sample) = some sample := by
  have value : Nat.ofDigitChars 10 (formatSample sample) 0 = sample :=
    Nat.ofDigitChars_toDigits (by decide) (by decide)
  simp only [atoi, value, if_pos bounded]

theorem sampleDigitsHere_formatSample (sample : Nat) :
    sampleDigitsHere ('-' :: 's' :: formatSample sample) = some (formatSample sample) := by
  have digits : (formatSample sample).all Char.isDigit = true :=
    all_eq_true.mpr fun _symbol mem => formatSample_isDigit mem
  simp [sampleDigitsHere, formatSample_ne_nil, digits]

/-- Before the sample suffix of an ID there is no earlier match: the digits of
such a match would run over the hyphen of the real one. -/
theorem sampleDigitsHere_before (symbol : Char) (body digits : Text) :
    sampleDigitsHere (symbol :: (body ++ '-' :: 's' :: digits)) = none := by
  cases body with
  | nil => simp [sampleDigitsHere]
  | cons second body =>
    by_cases match2 : symbol = '-' ∧ second = 's'
    · obtain ⟨rfl, rfl⟩ := match2
      simp [sampleDigitsHere, show Char.isDigit '-' = false by decide]
    · unfold sampleDigitsHere
      split
      · rename_i shape
        simp only [cons_append, List.cons.injEq] at shape
        exact absurd ⟨shape.1, shape.2.1⟩ match2
      · rfl

@[simp] theorem reSampleSuffix_join (body : Text) (sample : Nat) :
    reSampleSuffix (body ++ '-' :: 's' :: formatSample sample) = some (formatSample sample) := by
  induction body with
  | nil => simp [reSampleSuffix, sampleDigitsHere_formatSample]
  | cons symbol body ih =>
    rw [cons_append, reSampleSuffix, sampleDigitsHere_before]
    exact ih

/-! ### When decoding inverts encoding -/

def triedBefore (models : List Text) (model : Text) : List Text :=
  models.takeWhile (fun candidate => decide (candidate ≠ model))

/-- No model tried before `model` is a tail of `subject-model`. -/
def ModelRecovered (models : List Text) (subject model : Text) : Prop :=
  ∀ earlier ∈ triedBefore models model, ¬ ('-' :: earlier) <:+ subject ++ '-' :: model

/-- The first `--` of `source--…` is the separator. -/
def SourceRecovered (source : Text) : Prop :=
  ¬ "--".toList <:+: source ++ ['-']

instance (models : List Text) (subject model : Text) :
    Decidable (ModelRecovered models subject model) :=
  inferInstanceAs (Decidable (∀ _ ∈ _, _))

instance (source : Text) : Decidable (SourceRecovered source) :=
  inferInstanceAs (Decidable (¬ _))

variable {models : List Text} {model analyzerName : Text}

theorem find?_eq_some_iff_triedBefore {wanted : Text} (accepts : Text → Bool)
    (listed : wanted ∈ models) (accepted : accepts wanted = true) :
    models.find? accepts = some wanted ↔
      ∀ earlier ∈ triedBefore models wanted, accepts earlier = false := by
  induction models with
  | nil => cases listed
  | cons head rest ih =>
    by_cases same : head = wanted
    · subst head
      simp [triedBefore, accepted]
    · have restListed : wanted ∈ rest :=
        (mem_cons.mp listed).resolve_left (fun equal => same equal.symm)
      have step : triedBefore (head :: rest) wanted = head :: triedBefore rest wanted := by
        simp [triedBefore, same]
      rw [step, forall_mem_cons, ← ih restListed]
      cases tried : accepts head with
      | true => simp [tried, same]
      | false => simp [tried]

theorem cutModelAndSample_eq_some_iff (subject : Text) (listed : model ∈ models)
    (bounded : sample < 2 ^ 63) :
    cutModelAndSample (subject ++ '-' :: (model ++ '-' :: 's' :: formatSample sample)) models =
        some (subject, model, sample) ↔
      ModelRecovered models subject model := by
  have shape : subject ++ '-' :: (model ++ '-' :: 's' :: formatSample sample) =
      (subject ++ '-' :: model) ++ '-' :: 's' :: formatSample sample := by simp
  have found := find?_eq_some_iff_triedBefore
    (fun candidate => decide (('-' :: candidate) <:+ subject ++ '-' :: model))
    listed (by simp)
  rw [shape]
  simp only [cutModelAndSample, reSampleSuffix_join, atoi_formatSample bounded,
    trimSuffix_append, bind_eq_bind, bind_some]
  constructor
  · intro decoded
    obtain ⟨chosen, first, result⟩ := bind_eq_some_iff.mp decoded
    have chosenModel : chosen = model := by
      simpa using congrArg (fun triple => triple.map (fun parts => parts.2.1)) result
    subst chosenModel
    simpa [ModelRecovered] using found.mp first
  · intro recovered
    have first := found.mpr (by simpa [ModelRecovered] using recovered)
    simp [first]

theorem index?_pairSubject_iff (source tail : Text) :
    index? "--".toList (source ++ '-' :: '-' :: tail) = some source.length ↔
      SourceRecovered source := by
  rw [index?_eq_some_iff]
  constructor
  · rintro ⟨_bound, _here, none⟩ ⟨before, after, occurrence⟩
    have lengths := congrArg List.length occurrence
    simp only [length_append, length_cons, length_nil,
      show "--".toList.length = 2 from rfl] at lengths
    refine none before.length (by omega) ⟨after ++ '-' :: tail, ?_⟩
    have whole : source ++ '-' :: '-' :: tail =
        before ++ ("--".toList ++ (after ++ '-' :: tail)) := by
      calc source ++ '-' :: '-' :: tail
          = (source ++ ['-']) ++ '-' :: tail := by simp
        _ = before ++ ("--".toList ++ (after ++ '-' :: tail)) := by
            rw [← occurrence]
            simp
    rw [whole, drop_left]
  · intro recovered
    refine ⟨by simp, by simp, ?_⟩
    rintro earlier before ⟨after, occurrence⟩
    apply recovered
    have inside : "--".toList <+: (source ++ ['-']).drop earlier := by
      have cut : (source ++ '-' :: '-' :: tail).drop earlier =
          (source ++ ['-']).drop earlier ++ '-' :: tail := by
        rw [show source ++ '-' :: '-' :: tail = (source ++ ['-']) ++ '-' :: tail by simp,
          drop_append_of_le_length (by simp; omega)]
      have longer : "--".toList <+: (source ++ ['-']).drop earlier ++ '-' :: tail :=
        ⟨after, by rw [occurrence, cut]⟩
      exact prefix_of_prefix_length_le longer (prefix_append _ _)
        (by simp; omega)
    exact inside.isInfix.trans (drop_suffix _ _).isInfix

theorem parsePairTaskID_eq_some_iff {source target : Text} (listed : model ∈ models)
    (bounded : sample < 2 ^ 63) :
    parsePairTaskID (pairTaskID analyzerName source target model sample) analyzerName models =
        some { source, target, model, sample } ↔
      SourceRecovered source ∧ ModelRecovered models target model := by
  let tail := target ++ '-' :: (model ++ '-' :: 's' :: formatSample sample)
  have shape : pairTaskID analyzerName source target model sample =
      subjectTaskID analyzerName (source ++ '-' :: '-' :: tail) := by
    simp [pairTaskID, controlTaskID, pairSubject, tail]
  have separator := index?_pairSubject_iff source tail
  have ending := cutModelAndSample_eq_some_iff target listed bounded
  have takeSource : (source ++ '-' :: '-' :: tail).take source.length = source := by simp
  have dropSource : (source ++ '-' :: '-' :: tail).drop (source.length + 2) = tail := by
    simp [drop_append]
  rw [shape, parsePairTaskID, stripTaskIDPrefix_subjectTaskID]
  simp only [bind_eq_bind, bind_some]
  constructor
  · intro decoded
    obtain ⟨idx, found, rest⟩ := bind_eq_some_iff.mp decoded
    obtain ⟨⟨decodedTarget, decodedModel, decodedSample⟩, cut, result⟩ :=
      bind_eq_some_iff.mp rest
    simp only [Option.pure_def, Option.some.injEq, PairTask.mk.injEq] at result
    obtain ⟨sourceTaken, rfl, rfl, rfl⟩ := result
    have bound := (index?_eq_some_iff.mp found).1
    have position : idx = source.length := by
      have lengths := congrArg List.length sourceTaken
      rw [length_take, Nat.min_eq_left bound] at lengths
      exact lengths
    subst position
    rw [dropSource] at cut
    exact ⟨separator.mp found, ending.mp cut⟩
  · rintro ⟨sourceRecovered, modelRecovered⟩
    have cut : cutModelAndSample tail models = some (target, model, sample) :=
      ending.mpr modelRecovered
    rw [separator.mpr sourceRecovered, bind_some, takeSource, dropSource, cut]
    rfl

theorem not_skip_suffix_sample (body : Text) (sample : Nat) :
    ¬ "-skip".toList <:+ body ++ '-' :: 's' :: formatSample sample := by
  rintro ⟨front, same⟩
  have lastDigit : ∃ symbol, (formatSample sample).getLast? = some symbol ∧
      symbol.isDigit = true := by
    refine ⟨_, getLast?_eq_some_getLast (formatSample_ne_nil sample), ?_⟩
    exact formatSample_isDigit (getLast_mem _)
  obtain ⟨symbol, isLast, digit⟩ := lastDigit
  have lasts := congrArg List.getLast? same
  have skipLast : (front ++ "-skip".toList).getLast? = some 'p' := by
    simp [getLast?_append]
  have sampleLast : (body ++ '-' :: 's' :: formatSample sample).getLast? = some symbol := by
    simp [getLast?_append, getLast?_cons, isLast]
  rw [skipLast, sampleLast, Option.some.injEq] at lasts
  rw [← lasts] at digit
  exact absurd digit (by decide)

theorem parseControlTaskID_eq_some_iff {controlID : Text} (listed : model ∈ models)
    (bounded : sample < 2 ^ 63) :
    parseControlTaskID (controlTaskID analyzerName controlID model sample) analyzerName models =
        some { controlID, model, sample, skipped := false } ↔
      ModelRecovered models controlID model := by
  have ending := cutModelAndSample_eq_some_iff controlID listed bounded
  have sampled := not_skip_suffix_sample (controlID ++ '-' :: model) sample
  rw [append_assoc, cons_append] at sampled
  rw [parseControlTaskID, controlTaskID, stripTaskIDPrefix_subjectTaskID]
  simp only [bind_eq_bind, bind_some, sampled, if_false]
  rw [← ending]
  constructor
  · intro decoded
    obtain ⟨⟨decodedID, decodedModel, decodedSample⟩, cut, result⟩ :=
      bind_eq_some_iff.mp decoded
    obtain ⟨rfl, rfl, rfl⟩ := result
    exact cut
  · intro cut
    simp [cut]

theorem parseControlTaskID_skipTaskID (analyzerName controlID : Text) (models : List Text) :
    parseControlTaskID (skipTaskID analyzerName controlID) analyzerName models =
      some { controlID, model := [], sample := 0, skipped := true } := by
  rw [parseControlTaskID, skipTaskID, stripTaskIDPrefix_subjectTaskID]
  simp only [bind_eq_bind, bind_some, suffix_append, if_true, trimSuffix_append, Option.pure_def]

/-- Decoding returns the parts an ID was built from exactly when no `--` occurs in
`source-` and no model tried before the ID's own is a tail of `subject-model`.
The IDs of skipped controls always decode. -/
theorem taskID_decoded_iff (analyzerName : Text) (models : List Text) (model : Text)
    (sample : Nat) (listed : model ∈ models) (bounded : sample < 2 ^ 63) :
    (∀ source target,
      parsePairTaskID (pairTaskID analyzerName source target model sample)
          analyzerName models = some { source, target, model, sample } ↔
        SourceRecovered source ∧ ModelRecovered models target model) ∧
    (∀ controlID,
      parseControlTaskID (controlTaskID analyzerName controlID model sample)
          analyzerName models = some { controlID, model, sample, skipped := false } ↔
        ModelRecovered models controlID model) ∧
    (∀ controlID,
      parseControlTaskID (skipTaskID analyzerName controlID) analyzerName models =
        some { controlID, model := [], sample := 0, skipped := true }) :=
  ⟨fun _source _target => parsePairTaskID_eq_some_iff listed bounded,
    fun _controlID => parseControlTaskID_eq_some_iff listed bounded,
    fun controlID => parseControlTaskID_skipTaskID analyzerName controlID models⟩

theorem taskID_decoded_single_model :
    parsePairTaskID
        (pairTaskID "requires".toList "a/ac-1".toList "b/ac-2".toList "qwen3-4b".toList 1)
        "requires".toList ["qwen3-4b".toList] =
      some ⟨"a/ac-1".toList, "b/ac-2".toList, "qwen3-4b".toList, 1⟩ :=
  ((taskID_decoded_iff "requires".toList ["qwen3-4b".toList] "qwen3-4b".toList 1
    (by decide) (by decide)).1 "a/ac-1".toList "b/ac-2".toList).mpr (by decide)

/-- With the models `4b` and `qwen3-4b` a vote of `qwen3-4b` is read as one of `4b`
on a target that does not exist; the same happens to a control's sample. -/
theorem taskID_misread_model_tail :
    let models := ["4b".toList, "qwen3-4b".toList]
    parsePairTaskID
        (pairTaskID "relationship".toList "0123456789abcdef/ac-1".toList
          "fedcba9876543210/ac-2".toList "qwen3-4b".toList 0)
        "relationship".toList models =
      some ⟨"0123456789abcdef/ac-1".toList, "fedcba9876543210/ac-2-qwen3".toList,
        "4b".toList, 0⟩ ∧
    parseControlTaskID
        (controlTaskID "artifacts".toList "ac-1".toList "qwen3-4b".toList 0)
        "artifacts".toList models =
      some ⟨"ac-1-qwen3".toList, "4b".toList, 0, false⟩ := by
  decide

end CrossCodex.Analyzer
