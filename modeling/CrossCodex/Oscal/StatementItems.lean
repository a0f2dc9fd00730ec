/-
The item parts of a statement. The decomposition goes two levels deep, through item parts
only, so it lists a statement exactly when no item part lies elsewhere.
-/

import CrossCodex.Oscal.Catalog

namespace CrossCodex.Oscal

open Analyzer (Text)
open Library List

mutual

/-- One item for each item part of the tree, in the order of the document. -/
def Part.Listed (params : Table Text Text) : Text → Part → List ControlItem → Prop
  | parentID, .mk _ name prose parts, listing =>
    if name = "item".toList then
      ∃ item inside, listing = item :: inside ∧ item.text = cleanProse prose params ∧
        item.parentID = parentID ∧ PartsListed params item.id parts inside
    else PartsListed params parentID parts listing

def PartsListed (params : Table Text Text) : Text → List Part → List ControlItem → Prop
  | _, [], listing => listing = []
  | parentID, part :: rest, listing =>
    ∃ first last, listing = first ++ last ∧ part.Listed params parentID first ∧
      PartsListed params parentID rest last

end

mutual

def Part.itemCount : Part → Nat
  | .mk _ name _ parts => (if name = "item".toList then 1 else 0) + itemCounts parts

def itemCounts : List Part → Nat
  | [] => 0
  | part :: rest => part.itemCount + itemCounts rest

end

theorem Part.itemCount_eq (part : Part) :
    part.itemCount = (if part.isItem then 1 else 0) + itemCounts part.parts := by
  cases part with
  | mk id name prose parts =>
    rw [Part.itemCount]
    exact congrArg (· + itemCounts parts) (if_congr decide_eq_true_iff.symm rfl rfl)

theorem Part.listed_iff (params : Table Text Text) (parentID : Text) (part : Part)
    (listing : List ControlItem) :
    part.Listed params parentID listing ↔
      if part.isItem then
        ∃ item inside, listing = item :: inside ∧ item.text = cleanProse part.prose params ∧
          item.parentID = parentID ∧ PartsListed params item.id part.parts inside
      else PartsListed params parentID part.parts listing := by
  cases part with
  | mk id name prose parts =>
    rw [Part.Listed]
    exact iff_of_eq (if_congr decide_eq_true_iff.symm rfl rfl)

mutual

theorem Part.Listed.length {params : Table Text Text} :
    ∀ {parentID : Text} {part : Part} {listing : List ControlItem},
      part.Listed params parentID listing → listing.length = part.itemCount
  | parentID, .mk id name prose parts, listing, listed => by
      rw [Part.Listed] at listed
      rw [Part.itemCount]
      by_cases item : name = "item".toList
      · rw [if_pos item] at listed ⊢
        obtain ⟨made, inside, rfl, _text, _parent, below⟩ := listed
        have shorter := PartsListed.length below
        rw [length_cons]
        omega
      · rw [if_neg item] at listed ⊢
        have same := PartsListed.length listed
        omega

theorem PartsListed.length {params : Table Text Text} :
    ∀ {parentID : Text} {parts : List Part} {listing : List ControlItem},
      PartsListed params parentID parts listing → listing.length = itemCounts parts
  | parentID, [], listing, listed => by
      rw [listed, itemCounts, length_nil]
  | parentID, part :: rest, listing, listed => by
      rw [PartsListed] at listed
      obtain ⟨first, last, rfl, here, later⟩ := listed
      have firstLength := Part.Listed.length here
      have lastLength := PartsListed.length later
      rw [length_append, itemCounts]
      omega

end

theorem partsListed_nil (params : Table Text Text) (parentID : Text) (parts : List Part)
    (none : itemCounts parts = 0) : PartsListed params parentID parts [] := by
  match parts with
  | [] => rw [PartsListed]
  | .mk id name prose inner :: rest =>
    rw [itemCounts, Part.itemCount] at none
    have notItem : ¬ name = "item".toList := by
      intro item
      rw [if_pos item] at none
      omega
    rw [PartsListed]
    refine ⟨[], [], rfl, ?_, partsListed_nil params parentID rest (by omega)⟩
    rw [Part.Listed, if_neg notItem]
    exact partsListed_nil params parentID inner (by omega)

/-- Below the part there are no item parts but its own children, or none at all when the part
is not an item itself. -/
def Part.Flat (part : Part) : Prop :=
  if part.isItem then ∀ sub ∈ part.parts, itemCounts sub.parts = 0
  else itemCounts part.parts = 0

/-- No item part below a sub-item, and none below a part that is not an item. -/
def Shallow (statement : Part) : Prop := ∀ part ∈ statement.parts, part.Flat

theorem length_filter_le_itemCounts (parts : List Part) :
    (parts.filter Part.isItem).length ≤ itemCounts parts ∧
      ((parts.filter Part.isItem).length = itemCounts parts ↔
        ∀ part ∈ parts, itemCounts part.parts = 0) := by
  induction parts with
  | nil => simp [itemCounts]
  | cons part rest ih =>
    obtain ⟨bound, same⟩ := ih
    rw [itemCounts, part.itemCount_eq, forall_mem_cons, ← same]
    by_cases item : part.isItem = true
    · rw [filter_cons_of_pos item, length_cons, if_pos item]
      omega
    · rw [filter_cons_of_neg item, if_neg item]
      omega

section

variable {params : Table Text Text} {groupID controlID parentID : Text}

theorem decomposeItem_eq (item : Part) (index : Nat) :
    ∃ class_, decomposeItem params groupID controlID item index =
      partItem params groupID controlID (deriveChildID controlID item index) class_ item ::
        (collectItems item).zipIdx.map fun sub =>
          partItem params groupID (deriveChildID controlID item index)
            (deriveChildID (deriveChildID controlID item index) sub.1 sub.2) classRequirement
            sub.1 := by
  unfold decomposeItem
  dsimp only
  split_ifs with none
  · exact ⟨classRequirement, by rw [none]; rfl⟩
  · exact ⟨classSection, rfl⟩

theorem length_decomposeItem (item : Part) (index : Nat) :
    (decomposeItem params groupID controlID item index).length =
      1 + (item.parts.filter Part.isItem).length := by
  obtain ⟨class_, same⟩ := @decomposeItem_eq params groupID controlID item index
  rw [same, length_cons, length_map, length_zipIdx, collectItems]
  omega

theorem partsListed_items {list : Part × Nat → List ControlItem} (parts : List Part) (start : Nat)
    (flat : ∀ part ∈ parts, if part.isItem then
      ∀ index, part.Listed params parentID (list (part, index)) else itemCounts part.parts = 0) :
    PartsListed params parentID parts (((parts.filter Part.isItem).zipIdx start).flatMap list) := by
  induction parts generalizing start with
  | nil => rw [PartsListed]; rfl
  | cons part rest ih =>
    obtain ⟨here, later⟩ := forall_mem_cons.mp flat
    rw [PartsListed]
    by_cases item : part.isItem = true
    · rw [if_pos item] at here
      rw [filter_cons_of_pos item, zipIdx_cons, flatMap_cons]
      exact ⟨_, _, rfl, here start, ih (start + 1) later⟩
    · rw [if_neg item] at here
      rw [filter_cons_of_neg item]
      refine ⟨[], _, rfl, ?_, ih start later⟩
      rw [Part.listed_iff, if_neg item]
      exact partsListed_nil params parentID part.parts here

theorem partsListed_subItems (parts : List Part)
    (flat : ∀ part ∈ parts, itemCounts part.parts = 0) :
    PartsListed params parentID parts ((parts.filter Part.isItem).zipIdx.map fun sub =>
      partItem params groupID parentID (deriveChildID parentID sub.1 sub.2) classRequirement
        sub.1) := by
  rw [← flatMap_pure_eq_map]
  apply partsListed_items
  intro part mem
  split_ifs with item
  · intro index
    rw [Part.listed_iff, if_pos item]
    exact ⟨_, [], rfl, rfl, rfl, partsListed_nil params _ part.parts (flat part mem)⟩
  · exact flat part mem

theorem partsListed_decompose (parts : List Part) (start : Nat) (flat : ∀ part ∈ parts, part.Flat) :
    PartsListed params controlID parts
      (((parts.filter Part.isItem).zipIdx start).flatMap fun item =>
        decomposeItem params groupID controlID item.1 item.2) := by
  apply partsListed_items
  intro part mem
  have here := flat part mem
  rw [Part.Flat] at here
  split_ifs at here ⊢ with item
  · intro index
    obtain ⟨class_, same⟩ := @decomposeItem_eq params groupID controlID part index
    rw [Part.listed_iff, if_pos item, same]
    exact ⟨_, _, rfl, rfl, rfl, partsListed_subItems part.parts here⟩
  · exact here

theorem length_decompose_le (parts : List Part) (start : Nat) :
    (((parts.filter Part.isItem).zipIdx start).flatMap fun item =>
        decomposeItem params groupID controlID item.1 item.2).length ≤ itemCounts parts ∧
      ((((parts.filter Part.isItem).zipIdx start).flatMap fun item =>
        decomposeItem params groupID controlID item.1 item.2).length = itemCounts parts ↔
          ∀ part ∈ parts, part.Flat) := by
  induction parts generalizing start with
  | nil => simp [itemCounts]
  | cons part rest ih =>
    rw [itemCounts, part.itemCount_eq, forall_mem_cons, Part.Flat]
    obtain ⟨childBound, childSame⟩ := length_filter_le_itemCounts part.parts
    by_cases item : part.isItem = true
    · obtain ⟨bound, same⟩ := ih (start + 1)
      rw [filter_cons_of_pos item, zipIdx_cons, flatMap_cons,
        length_append, length_decomposeItem, if_pos item, if_pos item, ← same, ← childSame]
      dsimp only
      omega
    · obtain ⟨bound, same⟩ := ih start
      rw [filter_cons_of_neg item, if_neg item, if_neg item, ← same]
      omega

end

theorem decompose_listed_iff (params : Table Text Text) (groupID controlID : Text)
    (statement : Part) :
    (∃ listing, listing.Perm ((collectItems statement).zipIdx.flatMap fun item =>
        decomposeItem params groupID controlID item.1 item.2) ∧
      PartsListed params controlID statement.parts listing) ↔ Shallow statement := by
  have counts := @length_decompose_le params groupID controlID statement.parts 0
  constructor
  · rintro ⟨listing, permuted, listed⟩
    apply counts.2.mp
    rw [← listed.length]
    exact permuted.length_eq.symm
  · intro shallow
    exact ⟨_, List.Perm.refl _, partsListed_decompose statement.parts 0 shallow⟩

mutual

theorem Part.Listed.withStatus {params : Table Text Text} (control : Control) :
    ∀ {parentID : Text} {part : Part} {listing : List ControlItem},
      part.Listed params parentID listing →
        part.Listed params parentID (listing.map (withStatus control))
  | parentID, .mk id name prose parts, listing, listed => by
      rw [Part.Listed] at listed ⊢
      by_cases item : name = "item".toList
      · rw [if_pos item] at listed ⊢
        obtain ⟨made, inside, rfl, text, parent, below⟩ := listed
        exact ⟨_, _, rfl, text, parent, PartsListed.withStatus control below⟩
      · rw [if_neg item] at listed ⊢
        exact PartsListed.withStatus control listed

theorem PartsListed.withStatus {params : Table Text Text} (control : Control) :
    ∀ {parentID : Text} {parts : List Part} {listing : List ControlItem},
      PartsListed params parentID parts listing →
        PartsListed params parentID parts (listing.map (withStatus control))
  | parentID, [], listing, listed => by
      rw [PartsListed] at listed ⊢
      rw [listed, map_nil]
  | parentID, part :: rest, listing, listed => by
      obtain ⟨first, last, rfl, here, later⟩ := listed
      exact ⟨_, _, map_append, Part.Listed.withStatus control here,
        PartsListed.withStatus control later⟩

end

theorem decomposeStatements_eq {control : Control} {statement : Part}
    (found : findStatement control = some statement) (groupID : Text) (params : Table Text Text) :
    ∃ class_, decomposeStatements control groupID params =
      ownItem control groupID (cleanProse statement.prose params) class_ ::
        (collectItems statement).zipIdx.flatMap fun item =>
          decomposeItem params groupID control.id item.1 item.2 := by
  unfold decomposeStatements
  rw [found]
  dsimp only
  split_ifs with none
  · exact ⟨classRequirement, by rw [none]; rfl⟩
  · exact ⟨classSection, rfl⟩

/-- What the parser makes of a catalog it accepts. Each control has one item of its own,
and those behind it are a listing of its statement exactly when the statement is shallow. -/
theorem statement_listed_iff (valid : Catalog → Bool) (catalog : Catalog)
    (items : List ControlItem) (parsed : parse valid (some catalog) = .ok items) :
    let visits := scopedVisits [] (walkControls catalog)
    items = visits.flatMap (fun entry => visitItems catalog entry.2 entry.1) ∧
    (∀ control, catalog.Has control → ∃ entry ∈ visits, entry.1.control = control) ∧
    ∀ entry ∈ visits, ∀ statement, findStatement entry.1.control = some statement →
      ∃ own made, visitItems catalog entry.2 entry.1 = own :: made ∧
        own.id = entry.1.control.id ∧ own.parentID = [] ∧
        ((∃ listing, listing.Perm made ∧
          PartsListed (scopeParams catalog entry.2) entry.1.control.id statement.parts listing) ↔
            Shallow statement) := by
  refine ⟨parse_items parsed, ?_, ?_⟩
  · intro control has
    obtain ⟨visit, visited, same⟩ := has.visited
    rw [← scopedVisits_visits [] (walkControls catalog)] at visited
    obtain ⟨entry, mem, rfl⟩ := mem_map.mp visited
    exact ⟨entry, mem, same⟩
  · intro entry _member statement found
    obtain ⟨class_, same⟩ := decomposeStatements_eq found entry.1.groupID
      (scopeParams catalog entry.2)
    refine ⟨_, _, by rw [visitItems, same, map_cons], rfl, rfl, ?_⟩
    have listed := decompose_listed_iff (scopeParams catalog entry.2) entry.1.groupID
      entry.1.control.id statement
    constructor
    · rintro ⟨listing, permuted, parts⟩
      have counts := @length_decompose_le (scopeParams catalog entry.2) entry.1.groupID
        entry.1.control.id statement.parts 0
      apply counts.2.mp
      rw [← parts.length, permuted.length_eq, length_map]
      rfl
    · intro shallow
      obtain ⟨listing, permuted, parts⟩ := listed.mpr shallow
      exact ⟨_, permuted.map _, parts.withStatus _⟩

def statementPart (parts : List Part) : Part :=
  .mk "ac-2_smt".toList "statement".toList "Manage accounts:".toList parts

def itemPart (id prose : String) (parts : List Part) : Part :=
  .mk id.toList "item".toList prose.toList parts

def accountsCatalog (parts : List Part) : Catalog where
  params := []
  controls :=
    [.mk "ac-2".toList "Account management".toList [] [] [] [statementPart parts] []]
  groups := []

def twoLevels : List Part :=
  [itemPart "ac-2_smt.a" "Define types;" [itemPart "ac-2_smt.a.1" "allowed;" []]]

def threeLevels : List Part :=
  [itemPart "ac-2_smt.a" "Define types;"
    [itemPart "ac-2_smt.a.1" "allowed;" [itemPart "ac-2_smt.a.1.i" "by role" []]]]

def parsedItems (catalog : Catalog) : List ControlItem :=
  ((parse (fun _ => true) (some catalog)).toOption).getD []

theorem statement_listed_two_levels :
    ∃ listing, listing.Perm (parsedItems (accountsCatalog twoLevels)).tail ∧
      PartsListed ∅ "ac-2".toList twoLevels listing := by
  have whole := statement_listed_iff (fun _ => true) (accountsCatalog twoLevels)
    (parsedItems (accountsCatalog twoLevels)) rfl
  obtain ⟨own, made, items, _id, _parent, listed⟩ :=
    whole.2.2 _ mem_cons_self (statementPart twoLevels) rfl
  have shallow : Shallow (statementPart twoLevels) := by
    intro part mem
    rw [mem_singleton.mp mem]
    intro sub subMember
    rw [mem_singleton.mp subMember]
    rfl
  obtain ⟨listing, permuted, parts⟩ := listed.mpr shallow
  have same : (parsedItems (accountsCatalog twoLevels)).tail = made := by
    rw [whole.1]
    exact congrArg List.tail (congrArg (· ++ []) items) |>.trans (append_nil made)
  exact ⟨listing, by rw [same]; exact permuted, parts⟩

/-- The parser accepts the catalog, and the prose of the third level is in none of its items. -/
theorem statement_text_lost_three_levels :
    parse (fun _ => true) (some (accountsCatalog threeLevels)) =
        .ok (parsedItems (accountsCatalog threeLevels)) ∧
      (∀ item ∈ parsedItems (accountsCatalog threeLevels),
        item.text ≠ cleanProse "by role".toList ∅) ∧
      itemCounts threeLevels = 3 ∧ (parsedItems (accountsCatalog threeLevels)).tail.length = 2 ∧
      ¬ ∃ listing, listing.Perm (parsedItems (accountsCatalog threeLevels)).tail ∧
        PartsListed ∅ "ac-2".toList threeLevels listing := by
  have three : itemCounts threeLevels = 3 := by decide +kernel
  have two : (parsedItems (accountsCatalog threeLevels)).tail.length = 2 := by decide +kernel
  refine ⟨rfl, by decide +kernel, three, two, ?_⟩
  rintro ⟨listing, permuted, listed⟩
  have lengths := listed.length
  rw [permuted.length_eq, two, three] at lengths
  omega

end CrossCodex.Oscal
