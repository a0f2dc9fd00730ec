/-
Unique readability: a value is read back from the front of a longer text when its code fixes
the value and the text that follows it. Codes may need a follower that closes them.
-/

import Mathlib.Data.List.TakeWhile

namespace CrossCodex.Library

open List

-- Texts are lists of characters throughout, and looking one up in a list of texts rests on
-- this. It has a name so that such a test unfolds to the same term wherever it is written.
instance charsLawfulBEq : LawfulBEq (List Char) := List.instLawfulBEq

variable {Value Symbol : Type*}

/-- Before a text that `follow` admits, the code of `value` can be taken for no
other value's code, and the text after it is fixed as well. -/
def ReadBack (follow : List Symbol → Prop) (encode : Value → List Symbol) (value : Value) : Prop :=
  ∀ other rest otherRest, follow rest → follow otherRest →
    encode value ++ rest = encode other ++ otherRest → value = other ∧ rest = otherRest

theorem injective_of_readBack {follow : List Symbol → Prop} {encode : Value → List Symbol}
    (ending : follow []) (readBack : ∀ value, ReadBack follow encode value) :
    Function.Injective encode := by
  intro value other same
  exact (readBack value other [] [] ending ending (by rw [same])).1

theorem readBack_of_decoder {follow : List Symbol → Prop} {encode : Value → List Symbol}
    (decode : List Symbol → Option (Value × List Symbol))
    (decodes : ∀ value rest, follow rest → decode (encode value ++ rest) = some (value, rest))
    (value : Value) : ReadBack follow encode value := by
  intro other rest otherRest follows otherFollows same
  have decoded := decodes value rest follows
  rw [same, decodes other otherRest otherFollows] at decoded
  cases decoded
  exact ⟨rfl, rfl⟩

theorem flatMap_injective {Letter : Type*} {encode : Letter → List Symbol}
    (readBack : ∀ letter, ReadBack (fun _ => True) encode letter)
    (nonempty : ∀ letter, encode letter ≠ []) :
    Function.Injective (List.flatMap encode) := by
  intro word
  induction word with
  | nil =>
    intro other same
    cases other with
    | nil => rfl
    | cons letter letters => simp [nonempty] at same
  | cons letter letters ih =>
    intro other same
    cases other with
    | nil => simp [nonempty] at same
    | cons otherLetter otherLetters =>
      obtain ⟨head, tail⟩ := readBack letter otherLetter _ _ trivial trivial same
      rw [head, ih tail]

theorem flatMap_readBack {encode : Value → List Symbol}
    (readBack : ∀ value, ReadBack (fun _ => True) encode value) {values others : List Value}
    (aligned : values.length = others.length) {rest otherRest : List Symbol}
    (same : values.flatMap encode ++ rest = others.flatMap encode ++ otherRest) :
    values = others ∧ rest = otherRest := by
  induction values generalizing others with
  | nil =>
    cases length_eq_zero_iff.mp aligned.symm
    exact ⟨rfl, same⟩
  | cons value values ih =>
    cases others with
    | nil => cases aligned
    | cons other others =>
      simp only [flatMap_cons, append_assoc] at same
      obtain ⟨head, tail⟩ := readBack value other _ _ trivial trivial same
      obtain ⟨values, rest⟩ := ih (Nat.succ.inj aligned) tail
      exact ⟨by rw [head, values], rest⟩

theorem readBack_of_alphabet {encode : Value → List Symbol} (alphabet : Symbol → Bool)
    (within : ∀ value, ∀ symbol ∈ encode value, alphabet symbol = true)
    (injective : Function.Injective encode) (value : Value) :
    ReadBack (fun rest => rest.takeWhile alphabet = []) encode value := by
  intro other rest otherRest closed otherClosed same
  have codes := congrArg (List.takeWhile alphabet) same
  rw [takeWhile_append_of_pos (within value), takeWhile_append_of_pos (within other),
    closed, otherClosed, append_nil, append_nil] at codes
  have equal := injective codes
  subst equal
  exact ⟨rfl, append_cancel_left same⟩

theorem toDigits_injective : Function.Injective (Nat.toDigits 10) := by
  intro value other same
  have read := congrArg (fun digits => Nat.ofDigitChars 10 digits 0) same
  simpa only [Nat.ofDigitChars_toDigits (by decide : 1 < 10) (by decide : 10 ≤ 10)] using read

def separated (separator : Symbol) (encode : Value → List Symbol) (items : List Value) :
    List Symbol :=
  items.flatMap fun item => separator :: encode item

@[simp] theorem separated_nil (separator : Symbol) (encode : Value → List Symbol) :
    separated separator encode [] = [] := rfl

@[simp] theorem separated_cons (separator : Symbol) (encode : Value → List Symbol)
    (item : Value) (items : List Value) :
    separated separator encode (item :: items) =
      separator :: (encode item ++ separated separator encode items) := rfl

section Sequences

variable {follow : List Symbol → Prop} {encode : Value → List Symbol}
  {separator close : Symbol}
  (separates : ∀ rest, follow (separator :: rest)) (closes : ∀ rest, follow (close :: rest))
  (nodup : separator ≠ close) {items : List Value}

include separates closes

theorem follow_separated (items : List Value) (rest : List Symbol) :
    follow (separated separator encode items ++ close :: rest) := by
  cases items with
  | nil => exact closes rest
  | cons item items => exact separates _

include nodup

theorem separated_readBack (readBack : ∀ item ∈ items, ReadBack follow encode item)
    (others : List Value) (rest otherRest : List Symbol)
    (same : separated separator encode items ++ close :: rest =
      separated separator encode others ++ close :: otherRest) :
    items = others ∧ rest = otherRest := by
  induction items generalizing others with
  | nil =>
    cases others with
    | nil =>
      simp only [separated_nil, nil_append, List.cons.injEq, true_and] at same
      exact ⟨rfl, same⟩
    | cons other others =>
      simp only [separated_nil, separated_cons, nil_append, cons_append, List.cons.injEq] at same
      exact absurd same.1.symm nodup
  | cons item items ih =>
    cases others with
    | nil =>
      simp only [separated_nil, separated_cons, nil_append, cons_append, List.cons.injEq] at same
      exact absurd same.1 nodup
    | cons other others =>
      simp only [separated_cons, cons_append, append_assoc, List.cons.injEq, true_and] at same
      have head := readBack item mem_cons_self other _ _
        (follow_separated separates closes items rest)
        (follow_separated separates closes others otherRest) same
      have tail := ih (fun later mem => readBack later (mem_cons_of_mem _ mem))
        others head.2
      exact ⟨by rw [head.1, tail.1], tail.2⟩

theorem bracketed_readBack
    (opens : ∀ item rest otherRest, encode item ++ rest ≠ close :: otherRest)
    (openSymbol : Symbol) (readBack : ∀ item ∈ items, ReadBack follow encode item)
    (admits : List Symbol → Prop) :
    ReadBack admits
      (fun items => openSymbol :: ((separated separator encode items).drop 1 ++ [close])) items := by
  intro others rest otherRest _follows _otherFollows same
  simp only [cons_append, append_assoc, nil_append, List.cons.injEq, true_and] at same
  cases items with
  | nil =>
    cases others with
    | nil =>
      simp only [separated_nil, drop_nil, nil_append, List.cons.injEq, true_and] at same
      exact ⟨rfl, same⟩
    | cons other others =>
      simp only [separated_nil, separated_cons, drop_nil, nil_append,
        drop_succ_cons, drop_zero, append_assoc] at same
      exact absurd same.symm (opens other _ _)
  | cons item items =>
    cases others with
    | nil =>
      simp only [separated_nil, separated_cons, drop_nil, nil_append,
        drop_succ_cons, drop_zero, append_assoc] at same
      exact absurd same (opens item _ _)
    | cons other others =>
      -- Both first separators are put back, so that the sequences can be compared whole.
      apply separated_readBack separates closes nodup readBack
      simpa only [separated_cons, drop_succ_cons, drop_zero, cons_append,
        List.cons.injEq, true_and] using same

end Sequences

end CrossCodex.Library
