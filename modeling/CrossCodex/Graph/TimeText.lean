/-
Times as the graph drivers store and compare them (pkg/graphdb/timefmt.go: FormatTime, the
filter of QueryAsOf and extractTime in agedriver, ValidAt of types.go). FormatTime goes through
UTC, so a time is its calendar fields there.
-/

import CrossCodex.Analyzer.TaskId
import Mathlib.Data.List.Lex
import Mathlib.Order.Monotone.Basic

namespace CrossCodex.Graph

open Analyzer (Text)
open List

def leap (year : Nat) : Bool := year % 4 = 0 ∧ (year % 100 ≠ 0 ∨ year % 400 = 0)

def monthDays (leap : Bool) : List Nat :=
  [31, if leap then 29 else 28, 31, 30, 31, 30, 31, 31, 30, 31, 30, 31]

def monthStart (leap : Bool) (month : Nat) : Nat :=
  ((monthDays leap).take month).foldr (· + ·) 0

def yearStart : Nat → Nat
  | 0 => 0
  | year + 1 => yearStart year + 365 + (leap year).toNat

/-- An instant whose UTC year has four digits. -/
structure Instant where
  year : Nat
  month : Nat
  day : Nat
  hour : Nat
  minute : Nat
  second : Nat
  nanosecond : Nat
  written : year < 10000 ∧ nanosecond < 1000000000
  date : 0 < month ∧ month ≤ 12 ∧ 0 < day ∧ day ≤ (monthDays (leap year)).getD (month - 1) 0
  clock : hour < 24 ∧ minute < 60 ∧ second < 60

namespace Instant

variable (time : Instant)

/-- Days since the start of year 0. -/
def days : Nat :=
  yearStart time.year + monthStart (leap time.year) (time.month - 1) + time.day

def nanoseconds : Nat :=
  1000000000 * (60 * (60 * (24 * time.days + time.hour) + time.minute) + time.second) +
    time.nanosecond

def fields : List Nat :=
  [time.year, time.month, time.day, time.hour, time.minute, time.second, time.nanosecond]

end Instant

/-- The fields of TimeLayout: how many digits, and what follows them. -/
def timeLayout : List (Nat × Char) :=
  [(4, '-'), (2, '-'), (2, 'T'), (2, ':'), (2, ':'), (2, '.'), (9, 'Z')]

def padded : Nat → Nat → Text
  | 0, _ => []
  | width + 1, value => (value / 10 ^ width).digitChar :: padded width (value % 10 ^ width)

def render : List (Nat × Char) → List Nat → Text
  | (width, mark) :: layout, value :: values => padded width value ++ mark :: render layout values
  | _, _ => []

def formatTime (time : Instant) : Text := render timeLayout time.fields

def read : List (Nat × Char) → Text → Option (List Nat)
  | [], text => if text = [] then some [] else none
  | (width, mark) :: layout, text =>
    if (text.take width).all Char.isDigit ∧ (text.drop width).head? = some mark then
      (read layout (text.drop (width + 1))).map (Nat.ofDigitChars 10 (text.take width) 0 :: ·)
    else none

/-- `time.Parse`, of texts with all nine digits of the fraction and the zone Z. -/
def parseTime (text : Text) : Option Instant :=
  match read timeLayout text with
  | some [year, month, day, hour, minute, second, nanosecond] =>
    if valid : (year < 10000 ∧ nanosecond < 1000000000) ∧ (0 < month ∧ month ≤ 12 ∧ 0 < day ∧
        day ≤ (monthDays (leap year)).getD (month - 1) 0) ∧ hour < 24 ∧ minute < 60 ∧ second < 60
    then some ⟨year, month, day, hour, minute, second, nanosecond, valid.1, valid.2.1, valid.2.2⟩
    else none
  | _ => none

theorem padded_lt {width value other : Nat} (less : value < other) (fits : other < 10 ^ width)
    (rest more : Text) : padded width value ++ rest < padded width other ++ more := by
  induction width generalizing value other with
  | zero => omega
  | succ width ih =>
    rw [padded, padded, cons_append, cons_append, cons_lt_cons_iff]
    have power : 0 < 10 ^ width := Nat.pow_pos (by decide)
    rcases Nat.lt_or_eq_of_le (Nat.div_le_div_right less.le) with first | same
    · left
      have digit : other / 10 ^ width < 10 := by
        rw [Nat.div_lt_iff_lt_mul power]
        rwa [pow_succ'] at fits
      have digits : ∀ high < 10, ∀ low < high, low.digitChar < high.digitChar := by decide
      exact digits _ digit _ first
    · right
      refine ⟨congrArg Nat.digitChar same, ih ?_ (Nat.mod_lt _ power)⟩
      have one := Nat.div_add_mod value (10 ^ width)
      have two := Nat.div_add_mod other (10 ^ width)
      rw [same] at one
      omega

theorem padded_digits (width value acc : Nat) (fits : value < 10 ^ width) :
    (padded width value).length = width ∧ (padded width value).all Char.isDigit = true ∧
      Nat.ofDigitChars 10 (padded width value) acc = acc * 10 ^ width + value := by
  induction width generalizing value acc with
  | zero =>
    obtain rfl : value = 0 := by omega
    exact ⟨rfl, rfl, by simp [padded]⟩
  | succ width ih =>
    have power : 0 < 10 ^ width := Nat.pow_pos (by decide)
    have digit : value / 10 ^ width < 10 := by
      rw [Nat.div_lt_iff_lt_mul power]
      rwa [pow_succ'] at fits
    have digits : ∀ one < 10, one.digitChar.isDigit = true ∧ one.digitChar.toNat = 48 + one := by
      decide
    obtain ⟨isDigit, code⟩ := digits _ digit
    obtain ⟨length, rest, number⟩ := ih (value % 10 ^ width) (10 * acc + value / 10 ^ width)
      (Nat.mod_lt _ power)
    refine ⟨by rw [padded, length_cons, length], by rw [padded, all_cons, isDigit, rest]; rfl, ?_⟩
    rw [padded, Nat.ofDigitChars_cons, code]
    change Nat.ofDigitChars 10 _ (10 * acc + (48 + value / 10 ^ width - 48)) = _
    rw [Nat.add_sub_cancel_left, number, Nat.add_mul, Nat.add_assoc, Nat.div_add_mod', pow_succ',
      Nat.mul_left_comm, Nat.mul_assoc]

def Fits : List (Nat × Char) → List Nat → Prop := Forall₂ fun cell value => value < 10 ^ cell.1

variable {layout : List (Nat × Char)} {values others : List Nat}

theorem render_lt (fits : Fits layout values) (otherFits : Fits layout others)
    (less : values < others) : render layout values < render layout others := by
  induction fits generalizing others with
  | nil =>
    cases otherFits
    exact absurd less (lt_irrefl _)
  | cons here _ ih =>
    cases otherFits with
    | cons there later =>
      rw [render, render]
      rcases cons_lt_cons_iff.mp less with first | ⟨rfl, rest⟩
      · exact padded_lt first there _ _
      · exact append_left_lt (cons_lt_cons_iff.mpr (.inr ⟨rfl, ih later rest⟩))

theorem read_render (fits : Fits layout values) :
    read layout (render layout values) = some values := by
  induction fits with
  | nil => rfl
  | @cons cell value layout values here _ ih =>
    obtain ⟨length, digits, number⟩ := padded_digits cell.1 value 0 here
    have text : render (cell :: layout) (value :: values) =
        padded cell.1 value ++ cell.2 :: render layout values := rfl
    rw [text, read, take_left' length, drop_left' length, if_pos ⟨digits, rfl⟩, ← drop_drop,
      drop_left' length, drop_one, tail_cons, ih, number]
    simp

namespace Instant

variable {time other : Instant}

theorem fits (time : Instant) : Fits timeLayout time.fields := by
  have days : ∀ leap : Bool, ∀ month < 12, (monthDays leap).getD month 0 < 100 := by decide
  obtain ⟨short, small⟩ := time.written
  obtain ⟨first, last, _, listed⟩ := time.date
  obtain ⟨hour, minute, second⟩ := time.clock
  have day := days (leap time.year) (time.month - 1) (by omega)
  simp only [Fits, timeLayout, fields, forall₂_cons, Forall₂.nil, and_true]
  omega

theorem days_lt (less : time.year < other.year ∨ time.year = other.year ∧
    (time.month < other.month ∨ time.month = other.month ∧ time.day < other.day)) :
    time.days < other.days := by
  have within : ∀ leap : Bool, ∀ month < 12,
      monthStart leap month + (monthDays leap).getD month 0 ≤ 365 + leap.toNat := by decide
  have months : ∀ leap : Bool, ∀ later < 12, ∀ month < later,
      monthStart leap month + (monthDays leap).getD month 0 ≤ monthStart leap later := by decide
  obtain ⟨first, last, _, listed⟩ := time.date
  obtain ⟨otherFirst, otherLast, started, _⟩ := other.date
  simp only [days]
  rcases less with years | ⟨year, month | ⟨month, day⟩⟩
  · have inYear := within (leap time.year) (time.month - 1) (by omega)
    have next : yearStart (time.year + 1) ≤ yearStart other.year :=
      monotone_nat_of_le_succ (fun year => by rw [yearStart]; omega) years
    rw [yearStart] at next
    omega
  · have before := months (leap time.year) (other.month - 1) (by omega) (time.month - 1) (by omega)
    rw [← year]
    omega
  · rw [year, month]
    omega

theorem nanoseconds_lt (less : time.fields < other.fields) :
    time.nanoseconds < other.nanoseconds := by
  have clock := time.clock
  have otherClock := other.clock
  have small := time.written.2
  have dates := @days_lt time other
  simp only [fields, cons_lt_cons_iff, lt_irrefl, and_false, or_false] at less
  have same : time.year = other.year → time.month = other.month → time.day = other.day →
      time.days = other.days := by
    intro year month day
    rw [days, days, year, month, day]
  unfold nanoseconds
  omega

end Instant

variable {time other : Instant}

theorem parseTime_formatTime (time : Instant) : parseTime (formatTime time) = some time := by
  rw [parseTime, formatTime, read_render time.fits]
  exact dif_pos ⟨time.written, time.date, time.clock⟩

theorem formatTime_injective : Function.Injective formatTime := by
  intro time other same
  have parsed := parseTime_formatTime time
  rw [same, parseTime_formatTime] at parsed
  exact (Option.some.inj parsed).symm

theorem formatTime_lt_iff : formatTime time < formatTime other ↔
    time.nanoseconds < other.nanoseconds := by
  rcases lt_trichotomy time.fields other.fields with before | same | after
  · exact iff_of_true (render_lt time.fits other.fits before) (Instant.nanoseconds_lt before)
  · obtain rfl := formatTime_injective (congrArg (render timeLayout) same)
    exact iff_of_false (List.lt_irrefl _) (Nat.lt_irrefl _)
  · exact iff_of_false (List.lt_asymm (render_lt other.fits time.fits after))
      (Instant.nanoseconds_lt after).asymm

structure Validity (Time : Type) where
  validFrom : Time
  validTo : Option Time

namespace Validity

/-- The conditions on an edge in QueryAsOf. -/
def queriedAt (stored : Validity Text) (asOf : Instant) : Bool :=
  !(formatTime asOf < stored.validFrom) && stored.validTo.all (formatTime asOf < ·)

def validAt (nodes edges : List (Validity Instant)) (asOf : Instant) : Bool :=
  (nodes ++ edges).all fun timed => !(asOf.nanoseconds < timed.validFrom.nanoseconds ||
    timed.validTo.any fun ended => !(asOf.nanoseconds < ended.nanoseconds))

def store (edge : Validity Instant) : Validity Text :=
  ⟨formatTime edge.validFrom, edge.validTo.map formatTime⟩

/-- extractTime, with the time it gives for no text, and extractTimePtr. -/
def extract (zero : Instant) (stored : Validity Text) : Validity Instant :=
  ⟨(parseTime stored.validFrom).getD zero, stored.validTo.bind parseTime⟩

end Validity

/-- Stored times are ordered as the times are, so the query accepts an edge exactly when ValidAt
accepts it on the times read back. -/
theorem stored_times_compare (time other zero : Instant) (edge : Validity Instant) :
    (formatTime time < formatTime other ↔ time.nanoseconds < other.nanoseconds) ∧
      (formatTime time = formatTime other → time = other) ∧
      edge.store.queriedAt time = Validity.validAt [] [edge.store.extract zero] time := by
  refine ⟨formatTime_lt_iff, fun same => formatTime_injective same, ?_⟩
  rw [Bool.eq_iff_iff]
  rcases edge with ⟨started, _ | ended⟩
  · simp [Validity.queriedAt, Validity.validAt, Validity.store, Validity.extract,
      parseTime_formatTime, formatTime_lt_iff]
  · simp [Validity.queriedAt, Validity.validAt, Validity.store, Validity.extract,
      parseTime_formatTime, formatTime_lt_iff]

end CrossCodex.Graph
