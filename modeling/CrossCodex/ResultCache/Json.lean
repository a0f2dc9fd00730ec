/-
The JSON text that `encoding/json` marshals for the values of a manifest, HTML-safe escapes
included. Strings are Unicode text.
-/

import CrossCodex.Library.Encoding
import Mathlib.Algebra.GroupWithZero.Nat
import Mathlib.Data.Char
import Mathlib.Data.List.Lex

namespace CrossCodex.ResultCache

open Library List

/-- A Go string of valid UTF-8. -/
abbrev Text := List Char

abbrev Bytes := List UInt8

def quoteMark : Char := '\x22'

def backslash : Char := '\x5c'

def unicodeEscape (code : Nat) : List Char :=
  [backslash, 'u', Nat.digitChar (code / 4096 % 16), Nat.digitChar (code / 256 % 16),
    Nat.digitChar (code / 16 % 16), Nat.digitChar (code % 16)]

/-- The characters written with a four-digit escape: the other controls, the ones
HTML would read, and the two line separators of JavaScript. -/
def needsUnicodeEscape (character : Char) : Bool :=
  character.toNat < 32 || character == '<' || character == '>' || character == '&' ||
    character.toNat == 0x2028 || character.toNat == 0x2029

def escapeChar (character : Char) : List Char :=
  if character = quoteMark ∨ character = backslash then [backslash, character]
  else if character = '\x08' then [backslash, 'b']
  else if character = '\x0c' then [backslash, 'f']
  else if character = '\n' then [backslash, 'n']
  else if character = '\r' then [backslash, 'r']
  else if character = '\t' then [backslash, 't']
  else if needsUnicodeEscape character then unicodeEscape character.toNat
  else [character]

def hexValue (digit : Char) : Nat :=
  if digit.isDigit then digit.toNat - 48 else digit.toNat - 87

/-- Reads one character of a quoted string; `none` at its closing quote. -/
def unescapeChar : List Char → Option (Char × List Char)
  | [] => none
  | first :: rest =>
    if first = quoteMark then none
    else if first = backslash then
      match rest with
      | 'u' :: a :: b :: c :: d :: rest =>
        some (Char.ofNat (hexValue a * 4096 + hexValue b * 256 + hexValue c * 16 + hexValue d), rest)
      | 'b' :: rest => some ('\x08', rest)
      | 'f' :: rest => some ('\x0c', rest)
      | 'n' :: rest => some ('\n', rest)
      | 'r' :: rest => some ('\r', rest)
      | 't' :: rest => some ('\t', rest)
      | other :: rest => some (other, rest)
      | [] => none
    else some (first, rest)

theorem hexValue_digitChar {digit : Nat} (small : digit < 16) :
    hexValue (Nat.digitChar digit) = digit := by
  revert digit
  decide

theorem unescapeChar_unicodeEscape {code : Nat} (small : code < 65536) (rest : List Char) :
    unescapeChar (unicodeEscape code ++ rest) = some (Char.ofNat code, rest) := by
  have digits : code / 4096 % 16 * 4096 + code / 256 % 16 * 256 + code / 16 % 16 * 16 +
      code % 16 = code := by omega
  simp only [unicodeEscape, unescapeChar, cons_append, nil_append,
    show backslash ≠ quoteMark by decide, if_false, if_true]
  rw [hexValue_digitChar (Nat.mod_lt _ (by decide)), hexValue_digitChar (Nat.mod_lt _ (by decide)),
    hexValue_digitChar (Nat.mod_lt _ (by decide)), hexValue_digitChar (Nat.mod_lt _ (by decide)),
    digits]

variable {character : Char}

theorem toNat_lt_of_needsUnicodeEscape (needs : needsUnicodeEscape character = true) :
    character.toNat < 65536 := by
  simp only [needsUnicodeEscape, Bool.or_eq_true, decide_eq_true_eq, beq_iff_eq] at needs
  rcases needs with ((((control | rfl) | rfl) | rfl) | line) | line
  · omega
  · decide
  · decide
  · decide
  · omega
  · omega

theorem unescapeChar_escapeChar (character : Char) (rest : List Char) :
    unescapeChar (escapeChar character ++ rest) = some (character, rest) := by
  unfold escapeChar
  split
  case isTrue special =>
    rcases special with rfl | rfl <;> rfl
  case isFalse plain =>
    -- The five short escapes compute; only the last two branches depend on the character.
    split
    · subst character; rfl
    split
    · subst character; rfl
    split
    · subst character; rfl
    split
    · subst character; rfl
    split
    · subst character; rfl
    split
    case isTrue needs =>
      rw [unescapeChar_unicodeEscape (toNat_lt_of_needsUnicodeEscape needs), Char.ofNat_toNat]
    case isFalse =>
      rw [not_or] at plain
      simp only [unescapeChar, cons_append, nil_append, plain.1, plain.2, if_false]

theorem escapeChar_readBack (character : Char) : ReadBack (fun _ => True) escapeChar character :=
  readBack_of_decoder unescapeChar (fun character rest _ => unescapeChar_escapeChar character rest)
    character

def escapeChars (characters : List Char) : List Char := characters.flatMap escapeChar

def quote (text : Text) : List Char :=
  quoteMark :: (escapeChars text ++ [quoteMark])

theorem escapeChars_readBack (characters others rest otherRest : List Char)
    (same : escapeChars characters ++ quoteMark :: rest =
      escapeChars others ++ quoteMark :: otherRest) :
    characters = others ∧ rest = otherRest := by
  have closed : ∀ tail, unescapeChar (quoteMark :: tail) = none := fun _ => rfl
  induction characters generalizing others with
  | nil =>
    cases others with
    | nil =>
      simp only [escapeChars, flatMap_nil, nil_append, List.cons.injEq, true_and] at same
      exact ⟨rfl, same⟩
    | cons other others =>
      simp only [escapeChars, flatMap_nil, nil_append, flatMap_cons, append_assoc] at same
      have read := closed rest
      rw [same, unescapeChar_escapeChar] at read
      cases read
  | cons character characters ih =>
    cases others with
    | nil =>
      simp only [escapeChars, flatMap_nil, nil_append, flatMap_cons, append_assoc] at same
      have read := closed otherRest
      rw [← same, unescapeChar_escapeChar] at read
      cases read
    | cons other others =>
      simp only [escapeChars, flatMap_cons, append_assoc] at same
      obtain ⟨first, later⟩ := escapeChar_readBack character other _ _ trivial trivial same
      obtain ⟨equal, tails⟩ := ih others later
      exact ⟨by rw [first, equal], tails⟩

theorem quote_readBack (follow : List Char → Prop) (text : Text) : ReadBack follow quote text := by
  intro other rest otherRest _follows _otherFollows same
  simp only [quote, cons_append, append_assoc, nil_append, List.cons.injEq, true_and] at same
  exact escapeChars_readBack _ _ _ _ same

def decimal (value : Int) : List Char :=
  if value < 0 then '-' :: Nat.toDigits 10 value.natAbs else Nat.toDigits 10 value.natAbs

def numeric (character : Char) : Bool := character.isDigit || character == '-'

/-- Texts that may follow a number: the number's own characters do not go on. -/
def EndsNumber (rest : List Char) : Prop := rest.takeWhile numeric = []

theorem isDigit_of_mem_toDigits {value : Nat} (mem : character ∈ Nat.toDigits 10 value) :
    character.isDigit = true :=
  Nat.isDigit_of_mem_toDigits (by decide) (by decide) mem

theorem numeric_of_mem_decimal (value : Int) (character : Char) (mem : character ∈ decimal value) :
    numeric character = true := by
  unfold decimal at mem
  split at mem
  · rcases mem_cons.mp mem with rfl | digit
    · rfl
    · simp [numeric, isDigit_of_mem_toDigits digit]
  · simp [numeric, isDigit_of_mem_toDigits mem]

theorem decimal_ne_of_sign {negative other : Nat} :
    '-' :: Nat.toDigits 10 negative ≠ Nat.toDigits 10 other := by
  intro same
  have sign : '-' ∈ Nat.toDigits 10 other := by
    rw [← same]
    exact mem_cons_self
  exact absurd (isDigit_of_mem_toDigits sign) (by decide)

theorem decimal_injective : Function.Injective decimal := by
  intro value other same
  unfold decimal at same
  split at same <;> split at same
  · have magnitudes := toDigits_injective (List.cons.inj same).2
    omega
  · exact absurd same decimal_ne_of_sign
  · exact absurd same.symm decimal_ne_of_sign
  · have magnitudes := toDigits_injective same
    omega

theorem decimal_readBack (value : Int) : ReadBack EndsNumber decimal value :=
  readBack_of_alphabet numeric numeric_of_mem_decimal decimal_injective value

inductive Json where
  | str (text : Text)
  | int (value : Int)
  | arr (items : List Json)
  | obj (fields : List (Text × Json))

namespace Json

mutual

def render : Json → List Char
  | .str text => quote text
  | .int value => decimal value
  | .arr items => '\x5b' :: ((renderItems items).drop 1 ++ ['\x5d'])
  | .obj fields => '\x7b' :: ((renderFields fields).drop 1 ++ ['\x7d'])
  termination_by structural json => json

/-- Every item behind a comma; the first comma is dropped by the caller. -/
def renderItems : List Json → List Char
  | [] => []
  | item :: rest => ',' :: (item.render ++ renderItems rest)
  termination_by structural items => items

def renderFields : List (Text × Json) → List Char
  | [] => []
  | (name, value) :: rest => ',' :: ((quote name ++ ':' :: value.render) ++ renderFields rest)
  termination_by structural fields => fields

end

def renderField (field : Text × Json) : List Char := quote field.1 ++ ':' :: field.2.render

theorem renderItems_eq_separated (items : List Json) :
    renderItems items = separated ',' render items := by
  induction items with
  | nil => rfl
  | cons item rest ih => rw [renderItems, separated_cons, ih]

theorem renderFields_eq_separated (fields : List (Text × Json)) :
    renderFields fields = separated ',' renderField fields := by
  induction fields with
  | nil => rfl
  | cons field rest ih =>
    obtain ⟨name, value⟩ := field
    rw [renderFields, separated_cons, ih, renderField]

inductive Shape where
  | str | int | arr | obj
  deriving DecidableEq

def shape : Json → Shape
  | .str _ => .str
  | .int _ => .int
  | .arr _ => .arr
  | .obj _ => .obj

def shapeOf (first : Char) : Shape :=
  if first = quoteMark then .str
  else if first = '\x5b' then .arr
  else if first = '\x7b' then .obj
  else .int

theorem shapeOf_numeric (isNumeric : numeric character = true) : shapeOf character = .int := by
  have other : ∀ symbol : Char, numeric symbol = false → character ≠ symbol := by
    rintro symbol not rfl
    rw [isNumeric] at not
    cases not
  simp only [shapeOf, other quoteMark (by decide), other '\x5b' (by decide),
    other '\x7b' (by decide), if_false]

theorem decimal_ne_nil (value : Int) : decimal value ≠ [] := by
  unfold decimal
  split
  · exact cons_ne_nil _ _
  · exact Nat.toDigits_ne_nil

theorem render_first (json : Json) :
    ∃ first tail, json.render = first :: tail ∧ shapeOf first = json.shape := by
  cases json with
  | str text => exact ⟨_, _, by rw [render, quote], rfl⟩
  | arr items => exact ⟨_, _, by rw [render], rfl⟩
  | obj fields => exact ⟨_, _, by rw [render], rfl⟩
  | int value =>
    rcases code : decimal value with _ | ⟨first, tail⟩
    · exact absurd code (decimal_ne_nil value)
    · refine ⟨first, tail, by rw [render, code], shapeOf_numeric ?_⟩
      exact numeric_of_mem_decimal value first (by rw [code]; exact mem_cons_self)

theorem shape_eq_of_render_append {json other : Json} {rest otherRest : List Char}
    (same : json.render ++ rest = other.render ++ otherRest) : json.shape = other.shape := by
  obtain ⟨first, tail, code, kind⟩ := render_first json
  obtain ⟨otherFirst, otherTail, otherCode, otherKind⟩ := render_first other
  rw [code, otherCode] at same
  rw [← kind, ← otherKind, (List.cons.inj same).1]

theorem render_append_ne {close : Char} (noValue : close = '\x5d' ∨ close = '\x7d')
    (json : Json) (rest otherRest : List Char) : json.render ++ rest ≠ close :: otherRest := by
  intro same
  cases json with
  | str text =>
    rcases noValue with rfl | rfl <;> exact absurd (List.cons.inj same).1 (by decide)
  | arr items =>
    rcases noValue with rfl | rfl <;> exact absurd (List.cons.inj same).1 (by decide)
  | obj fields =>
    rw [render] at same
    rcases noValue with rfl | rfl <;> exact absurd (List.cons.inj same).1 (by decide)
  | int value =>
    rcases code : decimal value with _ | ⟨first, tail⟩
    · exact absurd code (decimal_ne_nil value)
    · have isNumeric := numeric_of_mem_decimal value first (by rw [code]; exact mem_cons_self)
      rw [render, code] at same
      rw [(List.cons.inj same).1] at isNumeric
      rcases noValue with rfl | rfl <;> exact absurd isNumeric (by decide)

theorem renderField_readBack {field : Text × Json}
    (value : ReadBack EndsNumber render field.2) : ReadBack EndsNumber renderField field := by
  intro other rest otherRest follows otherFollows same
  simp only [renderField, append_assoc, cons_append] at same
  obtain ⟨names, values⟩ := quote_readBack (fun _ => True) field.1 other.1 _ _ trivial trivial same
  obtain ⟨equal, tails⟩ :=
    value other.2 rest otherRest follows otherFollows (List.cons.inj values).2
  exact ⟨Prod.ext names equal, tails⟩

theorem render_arr_readBack {items : List Json}
    (each : ∀ item ∈ items, ReadBack EndsNumber render item) :
    ReadBack EndsNumber (fun items => (arr items).render) items := by
  have written : (fun items => (arr items).render) =
      fun items => '\x5b' :: ((separated ',' render items).drop 1 ++ ['\x5d']) := by
    funext items
    rw [render, renderItems_eq_separated]
  rw [written]
  exact bracketed_readBack (fun _ => rfl) (fun _ => rfl) (by decide)
    (render_append_ne (.inl rfl)) _ each _

theorem render_obj_readBack {fields : List (Text × Json)}
    (each : ∀ field ∈ fields, ReadBack EndsNumber render field.2) :
    ReadBack EndsNumber (fun fields => (obj fields).render) fields := by
  have written : (fun fields => (obj fields).render) =
      fun fields => '\x7b' :: ((separated ',' renderField fields).drop 1 ++ ['\x7d']) := by
    funext fields
    rw [render, renderFields_eq_separated]
  rw [written]
  refine bracketed_readBack (fun _ => rfl) (fun _ => rfl) (by decide) ?_ _
    (fun field mem => renderField_readBack (each field mem)) _
  intro field rest otherRest same
  exact absurd (List.cons.inj same).1 (by decide)

mutual

theorem render_readBack : (json : Json) → ReadBack EndsNumber render json
  | .str text => by
      intro other rest otherRest follows otherFollows same
      cases other with
      | str otherText =>
        obtain ⟨texts, tails⟩ := quote_readBack _ text otherText _ _ follows otherFollows same
        exact ⟨by rw [texts], tails⟩
      | int _ | arr _ | obj _ => cases shape_eq_of_render_append same
  | .int value => by
      intro other rest otherRest follows otherFollows same
      cases other with
      | int otherValue =>
        rw [render, render] at same
        obtain ⟨values, tails⟩ := decimal_readBack value otherValue _ _ follows otherFollows same
        exact ⟨by rw [values], tails⟩
      | str _ | arr _ | obj _ => cases shape_eq_of_render_append same
  | .arr items => by
      intro other rest otherRest follows otherFollows same
      cases other with
      | arr others =>
        obtain ⟨equal, tails⟩ := render_arr_readBack (items_readBack items) others _ _
          follows otherFollows same
        exact ⟨by rw [equal], tails⟩
      | str _ | int _ | obj _ => cases shape_eq_of_render_append same
  | .obj fields => by
      intro other rest otherRest follows otherFollows same
      cases other with
      | obj others =>
        obtain ⟨equal, tails⟩ := render_obj_readBack (fields_readBack fields) others _ _
          follows otherFollows same
        exact ⟨by rw [equal], tails⟩
      | str _ | int _ | arr _ => cases shape_eq_of_render_append same

theorem items_readBack : (items : List Json) → ∀ item ∈ items, ReadBack EndsNumber render item
  | [], _, mem => absurd mem not_mem_nil
  | head :: rest, item, mem => by
      rcases mem_cons.mp mem with first | later
      · rw [first]
        exact render_readBack head
      · exact items_readBack rest item later

theorem fields_readBack : (fields : List (Text × Json)) →
    ∀ field ∈ fields, ReadBack EndsNumber render field.2
  | [], _, mem => absurd mem not_mem_nil
  | (name, value) :: rest, field, mem => by
      rcases mem_cons.mp mem with first | later
      · rw [first]
        exact render_readBack value
      · exact fields_readBack rest field later

end

theorem render_injective : Function.Injective render := by
  have ending : EndsNumber [] := rfl
  exact injective_of_readBack ending render_readBack

/-- The bytes `json.Marshal` returns: the text in UTF-8. -/
def marshal (json : Json) : Bytes := json.render.flatMap String.utf8EncodeChar

theorem marshal_injective : Function.Injective marshal := by
  intro json other same
  have encoded : (String.ofList json.render).toByteArray = (String.ofList other.render).toByteArray := by
    rw [String.toByteArray_ofList, String.toByteArray_ofList]
    exact toByteArray_inj.mpr same
  exact render_injective (String.ofList_injective (String.toByteArray_inj.mp encoded))

end Json

/-- A stand-in for SHA-256 that has no collisions. -/
def distinctSum (data : Bytes) : Text := data.map fun byte => Char.ofNat byte.toNat

theorem distinctSum_injective : Function.Injective distinctSum := by
  apply Function.Injective.list_map
  have code : ∀ byte : UInt8, (Char.ofNat byte.toNat).toNat = byte.toNat := by
    intro byte
    have small := byte.toNat_lt
    rw [Char.ofNat, dif_pos (Or.inl (by omega))]
    rfl
  intro byte other same
  rw [← UInt8.toNat_inj, ← code byte, ← code other]
  exact congrArg Char.toNat same

end CrossCodex.ResultCache
