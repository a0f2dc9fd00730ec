/-
The identifiers of parsed items share one namespace with the control IDs. An item is named
after its part, or after its place when the part has no usable ID.
-/

import CrossCodex.Oscal.StatementItems

namespace CrossCodex.Oscal

open Analyzer (Text)
open Library List

inductive ImportError where
  | duplicateControlID (id : Text)
  | selfReferentialParent (id : Text)
deriving DecidableEq

def validateFrom (seen : List Text) : List ControlItem → Option ImportError
  | [] => none
  | item :: rest =>
    if item.id ∈ seen then some (.duplicateControlID item.id)
    else if item.parentID = item.id then some (.selfReferentialParent item.id)
    else validateFrom (item.id :: seen) rest

def validateItems (items : List ControlItem) : Option ImportError := validateFrom [] items

theorem validateFrom_ne_duplicate {seen : List Text} {items : List ControlItem}
    (nodup : (items.map ControlItem.id).Nodup) (fresh : ∀ item ∈ items, item.id ∉ seen)
    (id : Text) : validateFrom seen items ≠ some (.duplicateControlID id) := by
  induction items generalizing seen with
  | nil => simp [validateFrom]
  | cons item rest ih =>
    rw [map_cons, nodup_cons] at nodup
    rw [validateFrom, if_neg (fresh item mem_cons_self)]
    split_ifs
    · simp
    · apply ih nodup.2
      intro other mem seenAgain
      rcases mem_cons.mp seenAgain with same | earlier
      · apply nodup.1
        rw [← same]
        exact mem_map_of_mem mem
      · exact fresh other (mem_cons_of_mem _ mem) earlier

/-- The ID that a part brings along: its own without the marker, or as it stands when it lies
below `parentID`. -/
def Part.givenID (part : Part) (parentID : Text) : Option Text :=
  if part.id = [] then none
  else
    ((replaceFirst "_smt.".toList ['.'] part.id).or
      (replaceFirst "_stmt.".toList ['.'] part.id)).or
        (if parentID ++ ['.'] <+: part.id then some part.id else none)

def nameBelow (parentID : Text) (part : Part × Nat) : Text :=
  (part.1.givenID parentID).getD (indexedID parentID part.2)

theorem deriveChildID_eq (parentID : Text) (part : Part) (index : Nat) :
    deriveChildID parentID part index = nameBelow parentID (part, index) := by
  unfold deriveChildID nameBelow Part.givenID
  dsimp only
  by_cases absent : part.id = []
  · rw [if_pos absent, if_pos absent]
    rfl
  · rw [if_neg absent, if_neg absent]
    cases replaceFirst "_smt.".toList ['.'] part.id with
    | some _ => rfl
    | none =>
      cases replaceFirst "_stmt.".toList ['.'] part.id with
      | some _ => rfl
      | none => split_ifs <;> rfl

def statementItems (control : Control) : List Part :=
  (findStatement control).elim [] collectItems

/-- What Parse makes an item of: a control of the walk, an item part of its statement, or an
item part of that, each with its index. -/
inductive Slot where
  | control (visit : Visit × Nat)
  | item (visit : Visit × Nat) (part : Part × Nat)
  | sub (visit : Visit × Nat) (part inner : Part × Nat)

namespace Slot

/-- The ID that the document gives, if any. A control has its own, even an empty one. -/
def givenID : Slot → Option Text
  | .control visit => some visit.1.control.id
  | .item visit part => part.1.givenID visit.1.control.id
  | .sub visit part inner => inner.1.givenID (nameBelow visit.1.control.id part)

def placeID : Slot → Text
  | .control _ => []
  | .item visit part => indexedID visit.1.control.id part.2
  | .sub visit part inner => indexedID (nameBelow visit.1.control.id part) inner.2

def id (slot : Slot) : Text := slot.givenID.getD slot.placeID

end Slot

def itemSlots (visit : Visit × Nat) (item : Part × Nat) : List Slot :=
  .item visit item :: (collectItems item.1).zipIdx.map (.sub visit item)

def visitSlots (visit : Visit × Nat) : List Slot :=
  .control visit :: (statementItems visit.1.control).zipIdx.flatMap (itemSlots visit)

def slots (catalog : Catalog) : List Slot := (walkControls catalog).zipIdx.flatMap visitSlots

/-- The IDs that the document gives are distinct, and none is the place of an item without
one. -/
structure Apart (catalog : Catalog) : Prop where
  given : ((slots catalog).filterMap Slot.givenID).Nodup
  places : ∀ slot ∈ slots catalog, slot.givenID = none →
    slot.placeID ∉ (slots catalog).filterMap Slot.givenID

section Lists

theorem decomposeItem_ids (params : Table Text Text) (groupID : Text) (visit : Visit × Nat)
    (item : Part × Nat) :
    (decomposeItem params groupID visit.1.control.id item.1 item.2).map ControlItem.id =
      (itemSlots visit item).map Slot.id := by
  obtain ⟨class_, same⟩ := @decomposeItem_eq params groupID visit.1.control.id item.1 item.2
  rw [same, map_cons, map_map, itemSlots, map_cons, map_map]
  simp only [deriveChildID_eq]
  rfl

theorem visitItems_ids (catalog : Catalog) (inherited : List (List Parameter))
    (visit : Visit × Nat) :
    (visitItems catalog inherited visit.1).map ControlItem.id =
      (visitSlots visit).map Slot.id := by
  have status : ∀ items : List ControlItem,
      (items.map (withStatus visit.1.control)).map ControlItem.id = items.map ControlItem.id := by
    intro items
    rw [map_map]
    rfl
  rw [visitItems, status, visitSlots, statementItems]
  cases found : findStatement visit.1.control with
  | none =>
    rw [decomposeStatements, found]
    rfl
  | some statement =>
    obtain ⟨class_, same⟩ := decomposeStatements_eq found visit.1.groupID
      (scopeParams catalog inherited)
    rw [same, map_cons, map_flatMap, map_cons, map_flatMap]
    simp only [decomposeItem_ids _ _ visit]
    rfl

theorem parse_ids {valid : Catalog → Bool} {catalog : Catalog} {items : List ControlItem}
    (parsed : parse valid (some catalog) = .ok items) :
    items.map ControlItem.id = (slots catalog).map Slot.id := by
  let idsOf : Visit → List Text := fun visit => (visitItems catalog [] visit).map ControlItem.id
  have inScope : ∀ entry : Visit × List (List Parameter),
      (visitItems catalog entry.2 entry.1).map ControlItem.id = idsOf entry.1 :=
    fun entry => (visitItems_ids catalog entry.2 (entry.1, 0)).trans
      (visitItems_ids catalog [] (entry.1, 0)).symm
  have indexed : ∀ visit : Visit × Nat, (visitSlots visit).map Slot.id = idsOf visit.1 :=
    fun visit => (visitItems_ids catalog [] visit).symm
  rw [parse_items parsed, slots, map_flatMap, map_flatMap]
  simp only [inScope, indexed]
  rw [← flatMap_map Prod.fst idsOf, scopedVisits_visits, ← flatMap_map Prod.fst idsOf,
    zipIdx_map_fst]

theorem nodup_zipIdx {Entry : Type} (entries : List Entry) : entries.zipIdx.Nodup :=
  List.Nodup.of_map Prod.snd (nodup_zipIdx_map_snd entries)

theorem nodup_filterMap_iff {Entry Value : Type} {entries : List Entry} (nodup : entries.Nodup)
    (read : Entry → Option Value) :
    (entries.filterMap read).Nodup ↔ ∀ entry ∈ entries, ∀ other ∈ entries, ∀ value,
      read entry = some value → read other = some value → entry = other := by
  have symmetric : Std.Symm fun left right : Entry => ∀ value, read left = some value →
      ∀ other, read right = some other → value ≠ other :=
    ⟨fun left right apart value readRight other readLeft same =>
      apart other readLeft value readRight same.symm⟩
  rw [List.Nodup, pairwise_filterMap]
  constructor
  · intro distinct entry mem other otherMem value here there
    by_contra ne
    exact distinct.forall mem otherMem ne value here value there rfl
  · intro injective
    refine nodup.pairwise_of_forall_ne fun left inList right inRight ne => ?_
    rintro value here _ there rfl
    exact ne (injective left inList right inRight value here there)

theorem itemSlots_nodup (visit : Visit × Nat) (item : Part × Nat) :
    (itemSlots visit item).Nodup := by
  refine nodup_cons.mpr ⟨?_, ?_⟩
  · simp
  · exact (nodup_zipIdx _).map fun left right same => (Slot.sub.inj same).2.2

theorem visitSlots_nodup (visit : Visit × Nat) : (visitSlots visit).Nodup := by
  refine nodup_cons.mpr ⟨?_, nodup_flatMap.mpr ⟨fun item _ => itemSlots_nodup visit item, ?_⟩⟩
  · simp [itemSlots]
  · refine (nodup_zipIdx _).imp ?_
    intro left right ne slot inLeft inRight
    cases slot <;> simp [itemSlots] at inLeft inRight <;> grind

theorem slots_nodup (catalog : Catalog) : (slots catalog).Nodup := by
  refine nodup_flatMap.mpr ⟨fun visit _ => visitSlots_nodup visit, ?_⟩
  refine (nodup_zipIdx _).imp ?_
  intro left right ne slot inLeft inRight
  cases slot <;> simp [visitSlots, itemSlots] at inLeft inRight <;> grind

end Lists

section Injective

variable {catalog : Catalog} {visit : Visit × Nat} {part inner : Part × Nat}

@[simp] theorem control_mem_slots :
    .control visit ∈ slots catalog ↔ visit ∈ (walkControls catalog).zipIdx := by
  simp [slots, visitSlots, itemSlots]

@[simp] theorem item_mem_slots : .item visit part ∈ slots catalog ↔
    visit ∈ (walkControls catalog).zipIdx ∧ part ∈ (statementItems visit.1.control).zipIdx := by
  simp [slots, visitSlots, itemSlots]

@[simp] theorem sub_mem_slots : .sub visit part inner ∈ slots catalog ↔
    visit ∈ (walkControls catalog).zipIdx ∧ part ∈ (statementItems visit.1.control).zipIdx ∧
      inner ∈ (collectItems part.1).zipIdx := by
  simp [slots, visitSlots, itemSlots]
  grind

theorem eq_of_index {parts : List Part} {other : Part × Nat} (listed : part ∈ parts.zipIdx)
    (otherListed : other ∈ parts.zipIdx) (same : part.2 = other.2) : part = other :=
  inj_on_of_nodup_map (nodup_zipIdx_map_snd parts) listed otherListed same

theorem indexedID_inj {parentID otherID : Text} {index other : Nat}
    (same : indexedID parentID index = indexedID otherID other) :
    parentID = otherID ∧ index = other := by
  have dotless : ∀ number, '.' ∉ Nat.toDigits 10 number := by
    intro number mem
    exact absurd (Nat.isDigit_of_mem_toDigits (by decide) (by decide) mem) (by decide)
  rcases join_eq_join_iff.mp same with ⟨parents, digits⟩ | ⟨piece, _, digits⟩ | ⟨piece, _, digits⟩
  · have next := toDigits_injective digits
    exact ⟨parents, by omega⟩
  · exact absurd (digits ▸ mem_append_right _ mem_cons_self) (dotless (index + 1))
  · exact absurd (digits ▸ mem_append_right _ mem_cons_self) (dotless (other + 1))

namespace Apart

variable (apart : Apart catalog) {slot other : Slot} (mem : slot ∈ slots catalog)
  (otherMem : other ∈ slots catalog)
include apart mem otherMem

theorem eq_of_given {id : Text} (given : slot.givenID = some id)
    (otherGiven : other.givenID = some id) : slot = other :=
  (nodup_filterMap_iff (slots_nodup catalog) Slot.givenID).mp apart.given slot mem other otherMem
    id given otherGiven

/-- A place is never a given ID, so an ID that is given on one side is given on both. -/
theorem eq_of_id_given (same : slot.id = other.id) (given : slot.givenID ≠ none) :
    slot = other := by
  obtain ⟨id, given⟩ := Option.ne_none_iff_exists'.mp given
  cases otherGiven : other.givenID with
  | none =>
    rw [Slot.id, Slot.id, given, otherGiven] at same
    refine absurd ?_ (apart.places other otherMem otherGiven)
    exact mem_filterMap.mpr ⟨slot, mem, given.trans (congrArg some same)⟩
  | some otherID =>
    rw [Slot.id, Slot.id, given, otherGiven] at same
    exact apart.eq_of_given mem otherMem given (otherGiven.trans (congrArg some same.symm))

omit mem otherMem

theorem item_eq_of_id {otherVisit : Visit × Nat} {otherPart : Part × Nat}
    (mem : .item visit part ∈ slots catalog) (otherMem : .item otherVisit otherPart ∈ slots catalog)
    (same : (Slot.item visit part).id = (Slot.item otherVisit otherPart).id) :
    Slot.item visit part = .item otherVisit otherPart := by
  by_cases given : (Slot.item visit part).givenID = none
  · by_cases otherGiven : (Slot.item otherVisit otherPart).givenID = none
    · rw [Slot.id, Slot.id, given, otherGiven] at same
      obtain ⟨parents, places⟩ := indexedID_inj same
      obtain ⟨visited, listed⟩ := item_mem_slots.mp mem
      obtain ⟨otherVisited, otherListed⟩ := item_mem_slots.mp otherMem
      have visits := apart.eq_of_id_given (control_mem_slots.mpr visited)
        (control_mem_slots.mpr otherVisited) parents (by simp [Slot.givenID])
      cases visits
      rw [eq_of_index listed otherListed places]
    · exact (apart.eq_of_id_given otherMem mem same.symm otherGiven).symm
  · exact apart.eq_of_id_given mem otherMem same given

/-- A part of an item has one dot more behind its control than an item, so that their places
agree only if the item of the one is named like the control of the other. -/
theorem item_ne_sub {otherVisit : Visit × Nat} {otherPart : Part × Nat}
    (mem : .item visit part ∈ slots catalog)
    (otherMem : .sub otherVisit otherPart inner ∈ slots catalog) :
    (Slot.item visit part).placeID ≠ (Slot.sub otherVisit otherPart inner).placeID := by
  intro same
  obtain ⟨parents, _places⟩ := indexedID_inj same
  obtain ⟨visited, _listed⟩ := item_mem_slots.mp mem
  obtain ⟨otherVisited, otherListed, _⟩ := sub_mem_slots.mp otherMem
  cases apart.eq_of_id_given (control_mem_slots.mpr visited)
    (item_mem_slots.mpr ⟨otherVisited, otherListed⟩) parents (by simp [Slot.givenID])

theorem eq_of_place (mem : slot ∈ slots catalog) (otherMem : other ∈ slots catalog)
    (given : slot.givenID = none) (otherGiven : other.givenID = none)
    (same : slot.placeID = other.placeID) : slot = other := by
  have ids : slot.id = other.id := by rw [Slot.id, Slot.id, given, otherGiven, same]
  cases slot with
  | control => cases given
  | item visit part =>
    cases other with
    | control => cases otherGiven
    | item => exact apart.item_eq_of_id mem otherMem ids
    | sub => exact absurd same (apart.item_ne_sub mem otherMem)
  | sub visit part inner =>
    cases other with
    | control => cases otherGiven
    | item => exact absurd same.symm (apart.item_ne_sub otherMem mem)
    | sub otherVisit otherPart otherInner =>
      obtain ⟨parents, places⟩ := indexedID_inj same
      obtain ⟨visited, listed, inside⟩ := sub_mem_slots.mp mem
      obtain ⟨otherVisited, otherListed, otherInside⟩ := sub_mem_slots.mp otherMem
      cases apart.item_eq_of_id (item_mem_slots.mpr ⟨visited, listed⟩)
        (item_mem_slots.mpr ⟨otherVisited, otherListed⟩) parents
      rw [eq_of_index inside otherInside places]

theorem eq_of_id (mem : slot ∈ slots catalog) (otherMem : other ∈ slots catalog)
    (same : slot.id = other.id) : slot = other := by
  by_cases given : slot.givenID = none
  · by_cases otherGiven : other.givenID = none
    · rw [Slot.id, Slot.id, given, otherGiven] at same
      exact apart.eq_of_place mem otherMem given otherGiven same
    · exact (apart.eq_of_id_given otherMem mem same.symm otherGiven).symm
  · exact apart.eq_of_id_given mem otherMem same given

end Apart

theorem nodup_ids_iff : ((slots catalog).map Slot.id).Nodup ↔ Apart catalog := by
  rw [nodup_map_iff_inj_on (slots_nodup catalog)]
  constructor
  · intro injective
    constructor
    · rw [nodup_filterMap_iff (slots_nodup catalog)]
      intro slot mem other otherMem id given otherGiven
      apply injective slot mem other otherMem
      rw [Slot.id, Slot.id, given, otherGiven, Option.getD_some, Option.getD_some]
    · intro slot mem absent taken
      obtain ⟨other, otherMem, given⟩ := mem_filterMap.mp taken
      have same : slot = other := by
        apply injective slot mem other otherMem
        rw [Slot.id, Slot.id, given, absent]
        rfl
      rw [same, given] at absent
      cases absent
  · exact fun apart slot mem other otherMem => apart.eq_of_id mem otherMem

end Injective

/-- The items of a catalog have distinct IDs, and no import is refused for duplicates, exactly
when the IDs that the document gives are apart from each other and from the places of the
items without one. -/
theorem item_ids_distinct (valid : Catalog → Bool) (catalog : Catalog)
    (items : List ControlItem) (parsed : parse valid (some catalog) = .ok items) :
    ((items.map ControlItem.id).Nodup ∧
      ∀ id, validateItems items ≠ some (.duplicateControlID id)) ↔ Apart catalog := by
  rw [← nodup_ids_iff, ← parse_ids parsed]
  constructor
  · exact And.left
  · exact fun nodup => ⟨nodup, validateFrom_ne_duplicate nodup fun _ _ => not_mem_nil⟩

def enhancedCatalog (parts : List Part) : Catalog where
  params := []
  controls :=
    [.mk "ac-2".toList "Account management".toList [] [] [] [statementPart parts]
      [.mk "ac-2.1".toList "Automated support".toList [] [] [] [] []]]
  groups := []

/-- Items of both kinds: the second has no ID, and its place is not taken. -/
def labelledItems : List Part :=
  [itemPart "ac-2_smt.a" "Define types;" [itemPart "ac-2_smt.a.1" "allowed;" []],
    itemPart "" "Assign managers;" [itemPart "ac-2.9" "for each type;" []]]

theorem item_ids_distinct_enhanced :
    ((parsedItems (enhancedCatalog labelledItems)).map ControlItem.id).Nodup ∧
      ∀ id, validateItems (parsedItems (enhancedCatalog labelledItems)) ≠
        some (.duplicateControlID id) :=
  (item_ids_distinct (fun _ => true) (enhancedCatalog labelledItems) _ rfl).mpr
    ⟨by decide +kernel, by decide +kernel⟩

mutual

def Part.allIDs : Part → List Text
  | .mk id _ _ parts => id :: partsIDs parts

def partsIDs : List Part → List Text
  | [] => []
  | part :: rest => part.allIDs ++ partsIDs rest

end

/-- Control IDs and part IDs that are present, in the order of the document. -/
def documentIDs (catalog : Catalog) : List Text :=
  ((walkControls catalog).flatMap fun visit =>
    visit.control.id :: partsIDs visit.control.parts).filter fun id => id ≠ []

/-- An item part without an ID: its item takes the ID of the enhancement, and the import is
refused. The IDs that are present are distinct. -/
theorem item_ids_collide_enhanced :
    (documentIDs (enhancedCatalog [itemPart "" "Define types;" []])).Nodup ∧
      parse (fun _ => true) (some (enhancedCatalog [itemPart "" "Define types;" []])) =
        .ok (parsedItems (enhancedCatalog [itemPart "" "Define types;" []])) ∧
      (parsedItems (enhancedCatalog [itemPart "" "Define types;" []])).map ControlItem.id =
        ["ac-2".toList, "ac-2.1".toList, "ac-2.1".toList] ∧
      validateItems (parsedItems (enhancedCatalog [itemPart "" "Define types;" []])) =
        some (.duplicateControlID "ac-2.1".toList) :=
  ⟨by decide +kernel, rfl, by decide +kernel, by decide +kernel⟩

end CrossCodex.Oscal
