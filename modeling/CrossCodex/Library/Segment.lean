/-
Searching and cutting of finite sequences.
-/

import Mathlib.Data.List.Infix

namespace CrossCodex.Library

open List

variable {Symbol : Type*}

theorem forall_mem_concat {items : List Symbol} {last : Symbol} {P : Symbol → Prop}
    (before : ∀ item ∈ items, P item) (newest : P last) : ∀ item ∈ items ++ [last], P item :=
  forall_mem_append.mpr ⟨before, forall_mem_singleton.mpr newest⟩

section Search

variable [DecidableEq Symbol]

def index? (pattern : List Symbol) : List Symbol → Option Nat
  | [] => if pattern = [] then some 0 else none
  | symbol :: rest =>
    if pattern <+: symbol :: rest then some 0
    else (index? pattern rest).map (· + 1)

/-- The sequence without `tail` at its end; unchanged when it does not end so. -/
def trimSuffix (sequence tail : List Symbol) : List Symbol :=
  if tail <:+ sequence then sequence.take (sequence.length - tail.length) else sequence

@[simp] theorem trimSuffix_append (body tail : List Symbol) :
    trimSuffix (body ++ tail) tail = body := by
  simp [trimSuffix]

theorem index?_eq_some_iff {pattern sequence : List Symbol} {position : Nat} :
    index? pattern sequence = some position ↔
      position ≤ sequence.length ∧ pattern <+: sequence.drop position ∧
        ∀ earlier < position, ¬ pattern <+: sequence.drop earlier := by
  induction sequence generalizing position with
  | nil =>
    by_cases empty : pattern = []
    · subst pattern
      simp only [index?, if_true, Option.some.injEq, length_nil, Nat.le_zero]
      constructor
      · rintro rfl
        simp
      · exact fun bounds => bounds.1.symm
    · simp [index?, empty]
  | cons symbol rest ih =>
    by_cases here : pattern <+: symbol :: rest
    · simp only [index?, here, if_true, Option.some.injEq]
      constructor
      · rintro rfl
        simpa using here
      · rintro ⟨_bound, _found, none⟩
        by_contra later
        exact none 0 (by omega) (by simpa using here)
    · simp only [index?, here, if_false, Option.map_eq_some_iff]
      constructor
      · rintro ⟨shorter, found, rfl⟩
        obtain ⟨bound, occurs, none⟩ := ih.mp found
        refine ⟨by simpa using bound, by simpa using occurs, ?_⟩
        intro earlier before
        cases earlier with
        | zero => simpa using here
        | succ earlier => simpa using none earlier (by omega)
      · rintro ⟨bound, occurs, none⟩
        cases position with
        | zero => exact absurd (by simpa using occurs) here
        | succ shorter =>
          refine ⟨shorter, ih.mpr ⟨by simpa using bound, by simpa using occurs, ?_⟩, rfl⟩
          intro earlier before
          simpa using none (earlier + 1) (by omega)

end Search

section Joining

/-- `right` continues `left` by a piece that `leftEnd` starts with, so that
`left`, separator, `leftEnd` and `right`, separator, `rightEnd` are one text. -/
def Splices (separator : Symbol) (left leftEnd right rightEnd : List Symbol) : Prop :=
  ∃ piece, right = left ++ separator :: piece ∧ leftEnd = piece ++ separator :: rightEnd

theorem join_eq_join_iff {separator : Symbol} {left leftEnd right rightEnd : List Symbol} :
    left ++ separator :: leftEnd = right ++ separator :: rightEnd ↔
      (left = right ∧ leftEnd = rightEnd) ∨
        Splices separator left leftEnd right rightEnd ∨
        Splices separator right rightEnd left leftEnd := by
  constructor
  · intro joined
    rcases append_eq_append_iff.mp joined with
      ⟨piece, rightForm, endForm⟩ | ⟨piece, leftForm, endForm⟩
    · cases piece with
      | nil =>
        simp only [append_nil, nil_append, cons.injEq, true_and]
          at rightForm endForm
        exact Or.inl ⟨rightForm.symm, endForm⟩
      | cons first piece =>
        rw [cons_append, cons.injEq] at endForm
        obtain ⟨rfl, endForm⟩ := endForm
        exact Or.inr (Or.inl ⟨piece, rightForm, endForm⟩)
    · cases piece with
      | nil =>
        simp only [append_nil, nil_append, cons.injEq, true_and]
          at leftForm endForm
        exact Or.inl ⟨leftForm, endForm.symm⟩
      | cons first piece =>
        rw [cons_append, cons.injEq] at endForm
        obtain ⟨rfl, endForm⟩ := endForm
        exact Or.inr (Or.inr ⟨piece, leftForm, endForm⟩)
  · rintro (⟨rfl, rfl⟩ | ⟨piece, rfl, rfl⟩ | ⟨piece, rfl, rfl⟩)
    · rfl
    · simp
    · simp

end Joining

end CrossCodex.Library
