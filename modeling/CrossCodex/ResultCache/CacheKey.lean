/-
The encoding behind a cache key (pkg/resultcache/resultcache.go, encodeKey). Strings are Go
strings of any bytes; finite float64 values are of any type that has a text for each.
-/

import CrossCodex.ResultCache.Json

namespace CrossCodex.ResultCache

open Library List

/-- A Go string, whose length is an int. -/
structure GoString where
  bytes : Bytes
  length_lt : bytes.length < 2 ^ 63
deriving DecidableEq

def byteOf (character : Char) : UInt8 := UInt8.ofNat character.toNat

theorem length_decimal_lt (value : Int64) : (decimal value.toInt).length < 2 ^ 63 := by
  have low := Int64.le_toInt value
  have high := Int64.toInt_lt value
  have digits : (Nat.toDigits 10 value.toInt.natAbs).length ≤ 19 := by
    rw [Nat.length_toDigits_le_iff (by decide) (by decide)]
    omega
  unfold decimal
  split
  · rw [length_cons]
    omega
  · omega

def formatInt (value : Int64) : GoString where
  bytes := (decimal value.toInt).map byteOf
  length_lt := by
    rw [length_map]
    exact length_decimal_lt value

theorem char_of_byteOf {character : Char} (number : numeric character = true) :
    Char.ofNat (byteOf character).toNat = character := by
  have small : character.toNat < 256 := by
    rcases (Bool.or_eq_true _ _).mp number with digit | sign
    · simp only [Char.isDigit, Bool.and_eq_true, decide_eq_true_eq] at digit
      have high : character.val.toNat ≤ '9'.val.toNat := UInt32.le_iff_toNat_le.mp digit.2
      exact Nat.lt_of_le_of_lt high (by decide)
    · rw [beq_iff_eq.mp sign]
      decide
  rw [byteOf, UInt8.toNat_ofNat', Nat.mod_eq_of_lt small, Char.ofNat_toNat]

theorem formatInt_injective : Function.Injective formatInt := by
  intro value other same
  have chars : ∀ number : Int,
      ((decimal number).map byteOf).map (fun byte => Char.ofNat byte.toNat) = decimal number := by
    intro number
    rw [map_map]
    conv_rhs => rw [← map_id (decimal number)]
    apply map_congr_left
    intro character mem
    exact char_of_byteOf (numeric_of_mem_decimal number character mem)
  have read := congrArg (List.map fun byte => Char.ofNat byte.toNat) (congrArg GoString.bytes same)
  simp only [formatInt, chars] at read
  exact Int64.toInt_inj.mp (decimal_injective read)

def bigEndian (value : Nat) : Bytes :=
  [56, 48, 40, 32, 24, 16, 8, 0].map fun shift => UInt8.ofNat (value / 2 ^ shift)

theorem bigEndian_injective {value other : Nat} (fits : value < 2 ^ 64) (otherFits : other < 2 ^ 64)
    (same : bigEndian value = bigEndian other) : value = other := by
  have bytes := congrArg (List.map UInt8.toNat) same
  simp only [bigEndian, map_cons, map_nil, UInt8.toNat_ofNat', List.cons.injEq] at bytes
  omega

def encodeField (field : GoString) : Bytes := bigEndian field.bytes.length ++ field.bytes

theorem encodeField_readBack (field : GoString) :
    ReadBack (fun _ => True) encodeField field := by
  intro other rest otherRest _ _ same
  simp only [encodeField, append_assoc] at same
  obtain ⟨lengths, bodies⟩ := append_inj same rfl
  have sizes := bigEndian_injective (Nat.lt_trans field.length_lt (by decide))
    (Nat.lt_trans other.length_lt (by decide)) lengths
  obtain ⟨bytes, tails⟩ := append_inj bodies sizes
  cases field
  cases other
  cases bytes
  exact ⟨rfl, tails⟩

variable {FiniteFloat : Type}

/-- What makes a request that request; no temperature is sent with an embedding. -/
structure Identity (FiniteFloat : Type) where
  taskType : GoString
  modelAlias : GoString
  temperature : Option FiniteFloat
  maxTokens : Int64
  sample : Int64
  contentHash : GoString
deriving DecidableEq

/-- ModelIdentity, in the bytes of its strings. -/
structure KeyModel where
  observed : GoString
  deployment : GoString
  revision : GoString
deriving DecidableEq

def keyVersion : GoString := ⟨"crosscodex.resultcache.v2".toList.map byteOf, by decide⟩

def formatTemperature (formatFloat : FiniteFloat → GoString) : Option FiniteFloat → GoString
  | none => ⟨[], by decide⟩
  | some temperature => formatFloat temperature

def keyFields (formatFloat : FiniteFloat → GoString) (analyzerName : GoString)
    (id : Identity FiniteFloat) (model : KeyModel) : List GoString :=
  [keyVersion, analyzerName, id.taskType, id.modelAlias,
    formatTemperature formatFloat id.temperature, formatInt id.maxTokens, formatInt id.sample,
    id.contentHash, model.observed, model.deployment, model.revision]

def encodeKey (formatFloat : FiniteFloat → GoString) (analyzerName : GoString)
    (id : Identity FiniteFloat) (model : KeyModel) : Bytes :=
  (keyFields formatFloat analyzerName id model).flatMap encodeField

theorem formatTemperature_injective {formatFloat : FiniteFloat → GoString}
    (injective : Function.Injective formatFloat)
    (nonempty : ∀ temperature, (formatFloat temperature).bytes ≠ []) :
    Function.Injective (formatTemperature formatFloat) := by
  intro temperature other same
  cases temperature with
  | none =>
    cases other with
    | none => rfl
    | some other => exact absurd (congrArg GoString.bytes same).symm (nonempty other)
  | some temperature =>
    cases other with
    | none => exact absurd (congrArg GoString.bytes same) (nonempty temperature)
    | some other => rw [injective same]

/-- Encodings are equal only for equal names, identities and models, and none continues
another. -/
theorem encodeKey_injective_prefix_free {formatFloat : FiniteFloat → GoString}
    (injective : Function.Injective formatFloat)
    (nonempty : ∀ temperature, (formatFloat temperature).bytes ≠ [])
    {analyzerName otherName : GoString} {id otherID : Identity FiniteFloat}
    {model otherModel : KeyModel} {rest : Bytes}
    (same : encodeKey formatFloat analyzerName id model ++ rest =
      encodeKey formatFloat otherName otherID otherModel) :
    analyzerName = otherName ∧ id = otherID ∧ model = otherModel ∧ rest = [] := by
  rw [← append_nil (encodeKey formatFloat otherName otherID otherModel)] at same
  have aligned : (keyFields formatFloat analyzerName id model).length =
      (keyFields formatFloat otherName otherID otherModel).length := rfl
  obtain ⟨fields, tail⟩ := flatMap_readBack encodeField_readBack aligned same
  simp only [keyFields, List.cons.injEq, true_and, and_true] at fields
  obtain ⟨name, type, aliases, temperature, tokens, sample, hash, observed, deployment, revision⟩ :=
    fields
  have temperatures := formatTemperature_injective injective nonempty temperature
  refine ⟨name, ?_, ?_, tail⟩
  · cases id
    cases otherID
    simp only [Identity.mk.injEq]
    exact ⟨type, aliases, temperatures, formatInt_injective tokens,
      formatInt_injective sample, hash⟩
  · cases model
    cases otherModel
    simp only [KeyModel.mk.injEq]
    exact ⟨observed, deployment, revision⟩

def goText (text : String) (fits : (text.toList.map byteOf).length < 2 ^ 63) : GoString :=
  ⟨text.toList.map byteOf, fits⟩

/-- A request at temperature zero, and the same request without a temperature. -/
def sampledRequest (temperature : Option Unit) : Identity Unit where
  taskType := goText "artifacts" (by decide)
  modelAlias := goText "" (by decide)
  temperature
  maxTokens := 4096
  sample := 0
  contentHash := goText "00000000" (by decide)

theorem encodeKey_prefix_free_temperature :
    encodeKey (fun _ => goText "0" (by decide)) (goText "artifacts" (by decide))
        (sampledRequest none)
        ⟨goText "m" (by decide), goText "" (by decide), goText "" (by decide)⟩ ≠
      encodeKey (fun _ => goText "0" (by decide)) (goText "artifacts" (by decide))
        (sampledRequest (some ()))
        ⟨goText "m" (by decide), goText "" (by decide), goText "" (by decide)⟩ := by
  intro same
  have equal := (encodeKey_injective_prefix_free (fun _ _ _ => rfl)
    (fun _ empty => by cases empty) same).2.1
  cases congrArg Identity.temperature equal

end CrossCodex.ResultCache
