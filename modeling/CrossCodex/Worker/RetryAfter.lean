/-
The wait that shouldRetry takes from a Retry-After header (pkg/llmclient/retry.go). Durations
are nanoseconds in 64 bits and wrap around.
-/

import CrossCodex.Oscal.Catalog

namespace CrossCodex.Worker

open Analyzer (Text)
open Oscal (trimSpace isUnicodeSpace)
open List

def second : Int := 1000000000

def maxRetryAfter : Int := 60 * second

/-- `strconv.Atoi`: a sign, then digits, within 64 bits. -/
def atoi (text : Text) : Option Int :=
  let digits := if text.head? ∈ [some '+', some '-'] then text.tail else text
  let magnitude : Int := Nat.ofDigitChars 10 digits 0
  let value := if text.head? = some '-' then -magnitude else magnitude
  if digits ≠ [] ∧ digits.all Char.isDigit ∧ -2 ^ 63 ≤ value ∧ value < 2 ^ 63 then some value
  else none

section

-- The time until the HTTP date that a text is.
variable (untilDate : Text → Option Int)

def parseRetryAfter (header : Text) : Int :=
  let header := trimSpace header
  if header = [] then 0
  else
    match (atoi header).filter (0 ≤ ·) with
    | some secs =>
      let d := (secs * second).bmod (2 ^ 64)
      if d < 0 then maxRetryAfter else d
    | none => max 0 ((untilDate header).getD 0)

/-- Whether to retry, and the delay; 0 leaves it to the backoff. -/
def shouldRetry (statusCode : Int) (retryAfterHeader : Text) : Bool × Int :=
  if statusCode = 429 then
    let d := parseRetryAfter untilDate retryAfterHeader
    if 0 < d then (true, min d maxRetryAfter) else (true, 0)
  else (500 ≤ statusCode ∧ statusCode < 600, 0)

end

variable {header : Text}

theorem not_space_of_isDigit {symbol : Char} (digit : symbol.isDigit = true) :
    isUnicodeSpace symbol = false := by
  cases space : isUnicodeSpace symbol with
  | false => rfl
  | true =>
    simp only [isUnicodeSpace, Bool.or_eq_true, decide_eq_true_eq, Bool.and_eq_true] at space
    rcases space with listed | ⟨high, _⟩
    · have image := mem_map_of_mem (f := Char.isDigit) listed
      rw [digit] at image
      exact absurd image (by decide)
    · simp only [Char.isDigit, Bool.and_eq_true, decide_eq_true_eq] at digit
      exact absurd (UInt32.le_trans high digit.2) (by decide)

theorem trimSpace_digits (digits : header.all Char.isDigit = true) : trimSpace header = header := by
  have plain : ∀ text : Text, text.all Char.isDigit = true →
      text.dropWhile isUnicodeSpace = text := by
    intro text digits
    cases text with
    | nil => rfl
    | cons symbol rest =>
      have first := not_space_of_isDigit (all_eq_true.mp digits _ mem_cons_self)
      exact dropWhile_cons_of_neg (by simp [first])
  rw [trimSpace, plain header digits, plain, reverse_reverse]
  simpa using digits

theorem bmod_natCast (n : Nat) :
    let rest := n % 18446744073709551616
    (n : Int).bmod (2 ^ 64) =
      if rest < 9223372036854775808 then (rest : Int) else (rest : Int) - 18446744073709551616 := by
  rw [Int.bmod_def]
  split_ifs <;> omega

/-- A text of digits that is no date is read as its nanoseconds in 64 bits, if Atoi takes it. -/
theorem parseRetryAfter_digits {untilDate : Text → Option Int} (undated : untilDate header = none)
    (given : header ≠ []) (digits : header.all Char.isDigit = true) :
    parseRetryAfter untilDate header =
      let secs := Nat.ofDigitChars 10 header 0
      if secs < 2 ^ 63 then
        if ((secs : Int) * second).bmod (2 ^ 64) < 0 then maxRetryAfter
        else ((secs : Int) * second).bmod (2 ^ 64)
      else 0 := by
  rw [parseRetryAfter, trimSpace_digits digits, if_neg given]
  obtain ⟨symbol, rest, rfl⟩ := exists_cons_of_ne_nil given
  have first : symbol.isDigit = true := all_eq_true.mp digits _ mem_cons_self
  have plain : symbol ≠ '+' ∧ symbol ≠ '-' := by
    constructor <;> rintro rfl <;> cases first
  generalize value : Nat.ofDigitChars 10 (symbol :: rest) 0 = secs
  by_cases fits : secs < 2 ^ 63
  · have read : atoi (symbol :: rest) = some (secs : Int) := by
      simp [atoi, plain, value, digits]
      omega
    rw [read, Option.filter_some_pos (by simp)]
    simp only [fits, if_true]
  · have refused : atoi (symbol :: rest) = none := by
      simp [atoi, plain, value, digits]
      omega
    simp only [refused, undated, fits, if_false]
    rfl

/-- A header of digits is followed up to the cap exactly when Atoi takes it and its nanoseconds,
wrapped around in 64 bits, are not fewer than those of the capped wait. -/
theorem retry_after_honoured (untilDate : Text → Option Int) (undated : untilDate header = none)
    (given : header ≠ []) (digits : header.all Char.isDigit = true) :
    let secs := Nat.ofDigitChars 10 header 0
    shouldRetry untilDate 429 header = (true, min (secs : Int) 60 * second) ↔
      secs < 2 ^ 63 ∧ min secs 60 * 1000000000 ≤ secs * 1000000000 % 18446744073709551616 := by
  simp only [shouldRetry, if_true, parseRetryAfter_digits undated given digits]
  generalize Nat.ofDigitChars 10 header 0 = secs
  by_cases fits : secs < 2 ^ 63
  · have nanos : (secs : Int) * second = (secs * 1000000000 : Nat) := by simp [second]
    rw [if_pos fits, nanos, bmod_natCast, show maxRetryAfter = 60000000000 from rfl, second]
    have below := Nat.mod_le (secs * 1000000000) 18446744073709551616
    have wrapped := Nat.mod_lt (secs * 1000000000) (y := 18446744073709551616) (by decide)
    generalize secs * 1000000000 % 18446744073709551616 = rest at below wrapped ⊢
    split_ifs <;> rw [Prod.mk.injEq, and_iff_right rfl] <;> omega
  · rw [if_neg fits, if_neg (lt_irrefl 0), Prod.mk.injEq, and_iff_right rfl]
    simp only [second]
    omega

theorem retry_after_honoured_cap :
    shouldRetry (fun _ => none) 429 "9223372036854775807".toList =
      (true, min (Nat.ofDigitChars 10 "9223372036854775807".toList 0 : Int) 60 * second) :=
  (retry_after_honoured _ rfl (by decide) (by decide)).mpr (by decide)

/-- 585 years in seconds wrap around to 290 milliseconds. -/
theorem long_wait_wraps :
    shouldRetry (fun _ => none) 429 "18446744074".toList = (true, 290448384) := by
  decide +kernel

end CrossCodex.Worker
