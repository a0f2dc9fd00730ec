/-
OSCAL catalogs and their parser (pkg/oscal). The document is taken as decoded; whether it
satisfies the schema is a parameter.
-/

import CrossCodex.Analyzer.PairVotes

namespace CrossCodex.Oscal

open Analyzer (Text foldsTo isSpace readsAs)
open Library List

structure ParameterSelection where
  howMany : Text
  choice : List Text
deriving DecidableEq

structure Parameter where
  id : Text
  label : Text
  values : List Text
  select : Option ParameterSelection
deriving DecidableEq

structure Property where
  name : Text
  value : Text
deriving DecidableEq

structure Link where
  href : Text
  rel : Text
deriving DecidableEq

inductive Part where
  | mk (id name prose : Text) (parts : List Part)

namespace Part

def id : Part → Text
  | .mk id _ _ _ => id

def name : Part → Text
  | .mk _ name _ _ => name

def prose : Part → Text
  | .mk _ _ prose _ => prose

def parts : Part → List Part
  | .mk _ _ _ parts => parts

def isItem (part : Part) : Bool := part.name = "item".toList

end Part

inductive Control where
  | mk (id title : Text) (params : List Parameter) (props : List Property) (links : List Link)
      (parts : List Part) (controls : List Control)

namespace Control

def id : Control → Text
  | .mk id _ _ _ _ _ _ => id

def title : Control → Text
  | .mk _ title _ _ _ _ _ => title

def params : Control → List Parameter
  | .mk _ _ params _ _ _ _ => params

def props : Control → List Property
  | .mk _ _ _ props _ _ _ => props

def links : Control → List Link
  | .mk _ _ _ _ links _ _ => links

def parts : Control → List Part
  | .mk _ _ _ _ _ parts _ => parts

end Control

inductive Group where
  | mk (id : Text) (controls : List Control) (groups : List Group)

structure Catalog where
  params : List Parameter
  controls : List Control
  groups : List Group

/-- What a visitor is given: a control, the ID of its group and its depth. -/
structure Visit where
  control : Control
  groupID : Text
  depth : Nat

mutual

def visitControl (groupID : Text) (depth : Nat) : Control → List Visit
  | .mk id title params props links parts controls =>
    { control := .mk id title params props links parts controls, groupID, depth } ::
      visitControls groupID (depth + 1) controls

def visitControls (groupID : Text) (depth : Nat) : List Control → List Visit
  | [] => []
  | control :: rest => visitControl groupID depth control ++ visitControls groupID depth rest

end

mutual

def walkGroup : Group → List Visit
  | .mk id controls groups => visitControls id 0 controls ++ walkGroups groups

def walkGroups : List Group → List Visit
  | [] => []
  | group :: rest => walkGroup group ++ walkGroups rest

end

variable (catalog : Catalog) {control : Control} {controls : List Control} {groups : List Group}

def walkControls : List Visit :=
  visitControls [] 0 catalog.controls ++ walkGroups catalog.groups

/-- The rest of a match of `{{.*?}}` behind its opening: what stands before the
first closing on the line, and what follows it. -/
def templateBody : Text → Option (Text × Text)
  | '}' :: '}' :: rest => some ([], rest)
  | '\n' :: _ => none
  | symbol :: rest => (templateBody rest).map fun found => (symbol :: found.1, found.2)
  | [] => none

/-- The class `[\w\-.]`. -/
def isParamSymbol (symbol : Char) : Bool :=
  symbol.isAlphanum || symbol = '_' || symbol = '-' || symbol = '.'

def dropLead (lead text : Text) : Option Text :=
  if lead <+: text then some (text.drop lead.length) else none

/-- The group of `insert:\s*param,\s*([\w\-.]+)` when the match starts at the head. -/
def paramRefHere (text : Text) : Option Text := do
  let afterInsert ← dropLead "insert:".toList text
  let afterParam ← dropLead "param,".toList (afterInsert.dropWhile isSpace)
  let paramID := (afterParam.dropWhile isSpace).takeWhile isParamSymbol
  if paramID = [] then none else some paramID

def paramRef : Text → Option Text
  | [] => none
  | symbol :: rest => (paramRefHere (symbol :: rest)).or (paramRef rest)

def templateText (params : Table Text Text) (body : Text) : Text :=
  match paramRef body with
  | some paramID =>
    match params.lookup paramID with
    | some value => value
    | none => '[' :: paramID ++ [']']
  | none => "[parameter]".toList

/-- Every template is at least as long as one step, so the length is enough fuel. -/
def cleanFrom (params : Table Text Text) : Nat → Text → Text
  | 0, text => text
  | _ + 1, [] => []
  | fuel + 1, symbol :: rest =>
    match symbol, rest with
    | '{', '{' :: behind =>
      match templateBody behind with
      | some (body, after) => templateText params body ++ cleanFrom params fuel after
      | none => symbol :: cleanFrom params fuel rest
    | _, _ => symbol :: cleanFrom params fuel rest

def cleanProse (text : Text) (params : Table Text Text) : Text :=
  cleanFrom params text.length text

def resolveParamValue (param : Parameter) : Text :=
  if param.label ≠ [] then param.label else param.values.headD []

structure Collected where
  params : Table Text Text
  selections : Table Text ParameterSelection

def collectParam (collected : Collected) (param : Parameter) : Collected :=
  if resolveParamValue param ≠ [] then
    { params := collected.params.insert param.id (resolveParamValue param)
      selections := collected.selections.erase param.id }
  else
    match param.select with
    | some selection =>
      if selection.choice ≠ [] then
        { params := collected.params.erase param.id
          selections := collected.selections.insert param.id selection }
      else collected
    | none => collected

def selectionText (plain : Table Text Text) (selection : ParameterSelection) : Text :=
  let lead := if selection.howMany = "one-or-more".toList then "Selection (one or more): "
    else "Selection: "
  '[' :: lead.toList ++
    "; ".toList.intercalate (selection.choice.map fun choice => cleanProse choice plain) ++ [']']

/-- Selections are rendered after every label and value is known. -/
def collectParams (catalogParams controlParams : List Parameter) (fallback : Table Text Text) :
    Table Text Text :=
  let collected := (catalogParams ++ controlParams).foldl collectParam
    { params := fallback, selections := ∅ }
  collected.selections.entries.foldl
    (fun params entry => params.insert entry.1 (selectionText collected.params entry.2))
    collected.params

structure ControlItem where
  id : Text
  title : Text
  text : Text
  class_ : Text
  parentID : Text
  groupID : Text
  props : List (String × Text)
deriving DecidableEq

def classSection : Text := "compliance-section".toList

def classRequirement : Text := "compliance-requirement".toList

def findStatement (control : Control) : Option Part :=
  control.parts.find? fun part => part.name = "statement".toList

def collectItems (part : Part) : List Part := part.parts.filter Part.isItem

/-- `strings.Replace(text, old, new, 1)`, when the text contains the old piece. -/
def replaceFirst (old new : Text) : Text → Option Text
  | [] => if old = [] then some new else none
  | symbol :: rest =>
    match dropLead old (symbol :: rest) with
    | some behind => some (new ++ behind)
    | none => (replaceFirst old new rest).map (symbol :: ·)

/-- `"%s.%d"` with the index counted from one. -/
def indexedID (parentID : Text) (index : Nat) : Text :=
  parentID ++ '.' :: Nat.toDigits 10 (index + 1)

def deriveChildID (parentID : Text) (part : Part) (index : Nat) : Text :=
  if part.id = [] then indexedID parentID index
  else
    match replaceFirst "_smt.".toList ['.'] part.id with
    | some childID => childID
    | none =>
      match replaceFirst "_stmt.".toList ['.'] part.id with
      | some childID => childID
      | none =>
        if parentID ++ ['.'] <+: part.id then part.id else indexedID parentID index

def extractControlProse (control : Control) : Text :=
  "\n\n".toList.intercalate ((control.parts.map Part.prose).filter fun prose => prose ≠ [])

def ownItem (control : Control) (groupID text class_ : Text) : ControlItem :=
  { id := control.id, title := control.title, text, class_, parentID := [], groupID, props := [] }

def partItem (params : Table Text Text) (groupID parentID childID class_ : Text) (part : Part) :
    ControlItem :=
  { id := childID, title := [], text := cleanProse part.prose params, class_, parentID, groupID
    props := [("parent-id", parentID), ("source-part", part.id)] }

def decomposeItem (params : Table Text Text) (groupID controlID : Text) (item : Part)
    (index : Nat) : List ControlItem :=
  let childID := deriveChildID controlID item index
  let subItems := collectItems item
  if subItems = [] then [partItem params groupID controlID childID classRequirement item]
  else
    partItem params groupID controlID childID classSection item ::
      subItems.zipIdx.map fun sub =>
        partItem params groupID childID (deriveChildID childID sub.1 sub.2) classRequirement sub.1

def decomposeStatements (control : Control) (groupID : Text) (params : Table Text Text) :
    List ControlItem :=
  match findStatement control with
  | none => [ownItem control groupID (cleanProse (extractControlProse control) params)
      classRequirement]
  | some statement =>
    let items := collectItems statement
    if items = [] then
      [ownItem control groupID (cleanProse statement.prose params) classRequirement]
    else
      ownItem control groupID (cleanProse statement.prose params) classSection ::
        items.zipIdx.flatMap fun item =>
          decomposeItem params groupID control.id item.1 item.2

/-- The characters that TrimSpace removes. -/
def isUnicodeSpace (symbol : Char) : Bool :=
  symbol ∈ ['\t', '\n', '\x0b', '\x0c', '\r', ' ', '\x85', '\xa0',
    '\u1680', '\u2028', '\u2029', '\u202f', '\u205f', '\u3000'] ||
    ('\u2000' ≤ symbol && symbol ≤ '\u200a')

def trimSpace (text : Text) : Text :=
  ((text.dropWhile isUnicodeSpace).reverse.dropWhile isUnicodeSpace).reverse

def isWithdrawn (control : Control) : Bool :=
  control.props.any fun property =>
    property.name = "status".toList &&
      readsAs foldsTo "WITHDRAWN".toList (trimSpace property.value)

def linkTargets (control : Control) (relation : Text) : List Text :=
  control.links.filterMap fun link =>
    if (link.rel.map fun symbol => if symbol = '_' then '-' else symbol) = relation then
      let id := (dropLead ['#'] link.href).getD link.href
      if id = [] then none else some id
    else none

def withdrawnProps (control : Control) : List (String × Text) :=
  if isWithdrawn control then
    ("status", "withdrawn".toList) ::
      ["incorporated-into", "moved-to"].filterMap fun relation =>
        let targets := linkTargets control relation.toList
        if targets = [] then none else some (relation, [','].intercalate targets)
  else []

inductive ParseError where
  | invalidFormat
  | schema
  | noControls
deriving DecidableEq, Repr

/-- What the visitor keeps: the parameters of the visited control and its ancestors, and the
items so far. -/
structure Scope where
  inherited : List (List Parameter)
  items : List ControlItem

def everyParam : List Parameter :=
  (walkControls catalog).flatMap fun visit => visit.control.params

def catalogWide : Table Text Text :=
  collectParams catalog.params (everyParam catalog) ∅

/-- What the references in a control resolve to: its own parameters, then those of its
ancestors, of the catalog and of any other control. -/
def scopeParams (inherited : List (List Parameter)) : Table Text Text :=
  collectParams catalog.params inherited.flatten (catalogWide catalog)

def withStatus (control : Control) (item : ControlItem) : ControlItem :=
  { item with props := withdrawnProps control ++ item.props }

def visitItems (inherited : List (List Parameter)) (visit : Visit) : List ControlItem :=
  (decomposeStatements visit.control visit.groupID (scopeParams catalog inherited)).map
    (withStatus visit.control)

def visitStep (scope : Scope) (visit : Visit) : Scope :=
  let inherited := scope.inherited.take visit.depth ++ [visit.control.params]
  { inherited, items := scope.items ++ visitItems catalog inherited visit }

def parse (valid : Catalog → Bool) (document : Option Catalog) :
    Except ParseError (List ControlItem) :=
  match document with
  | none => .error .invalidFormat
  | some catalog =>
    if valid catalog then
      let items := ((walkControls catalog).foldl (visitStep catalog)
        { inherited := [], items := [] }).items
      if items = [] then .error .noControls else .ok items
    else .error .schema

/-- Each visit with the parameter lists of its control and the ancestors above it. -/
def scopedVisits : List (List Parameter) → List Visit → List (Visit × List (List Parameter))
  | _, [] => []
  | inherited, visit :: rest =>
    let within := inherited.take visit.depth ++ [visit.control.params]
    (visit, within) :: scopedVisits within rest

theorem foldl_visitStep_items (visits : List Visit) (scope : Scope) :
    (visits.foldl (visitStep catalog) scope).items =
      scope.items ++ (scopedVisits scope.inherited visits).flatMap fun entry =>
        visitItems catalog entry.2 entry.1 := by
  induction visits generalizing scope with
  | nil => simp [scopedVisits]
  | cons visit rest ih =>
    rw [foldl_cons, ih, scopedVisits, flatMap_cons]
    simp only [visitStep, append_assoc]

theorem parse_items {valid : Catalog → Bool} {catalog : Catalog} {items : List ControlItem}
    (parsed : parse valid (some catalog) = .ok items) :
    items = (scopedVisits [] (walkControls catalog)).flatMap fun entry =>
    visitItems catalog entry.2 entry.1 := by
  unfold parse at parsed
  simp only at parsed
  split_ifs at parsed
  rw [← Except.ok.inj parsed, foldl_visitStep_items]
  exact nil_append _

theorem scopedVisits_visits (inherited : List (List Parameter)) (visits : List Visit) :
    (scopedVisits inherited visits).map Prod.fst = visits := by
  induction visits generalizing inherited with
  | nil => rfl
  | cons visit rest ih => rw [scopedVisits, map_cons, ih]

inductive ControlIn : List Control → Control → Prop where
  | here {controls : List Control} {control : Control} (member : control ∈ controls) :
      ControlIn controls control
  | under {controls : List Control} {id title params props links parts subs control}
      (member : .mk id title params props links parts subs ∈ controls)
      (sub : ControlIn subs control) : ControlIn controls control

inductive GroupedIn : List Group → Control → Prop where
  | here {groups : List Group} {id controls nested control}
      (member : .mk id controls nested ∈ groups)
      (inside : ControlIn controls control) : GroupedIn groups control
  | under {groups : List Group} {id controls nested control}
      (member : .mk id controls nested ∈ groups)
      (inside : GroupedIn nested control) : GroupedIn groups control

def Catalog.Has (control : Control) : Prop :=
  ControlIn catalog.controls control ∨ GroupedIn catalog.groups control

theorem mem_visitControls (groupID : Text) (depth : Nat) {visit : Visit}
    (mem : control ∈ controls) (visited : visit ∈ visitControl groupID depth control) :
    visit ∈ visitControls groupID depth controls := by
  induction controls with
  | nil => cases mem
  | cons first rest ih =>
    rw [visitControls]
    rcases mem_cons.mp mem with rfl | later
    · exact mem_append_left _ visited
    · exact mem_append_right _ (ih later)

theorem ControlIn.visited (inside : ControlIn controls control) (groupID : Text) (depth : Nat) :
    ∃ visit ∈ visitControls groupID depth controls, visit.control = control := by
  induction inside generalizing depth with
  | here mem =>
    rename_i control
    cases control with
    | mk id title params props links parts subs =>
      refine ⟨{ control := .mk id title params props links parts subs, groupID, depth }, ?_, rfl⟩
      apply mem_visitControls groupID depth mem
      rw [visitControl]
      exact mem_cons_self
  | under mem _sub ih =>
    obtain ⟨visit, visited, same⟩ := ih (depth + 1)
    refine ⟨visit, mem_visitControls groupID depth mem ?_, same⟩
    rw [visitControl]
    exact mem_cons_of_mem _ visited

theorem mem_walkGroups {group : Group} {visit : Visit} (mem : group ∈ groups)
    (visited : visit ∈ walkGroup group) : visit ∈ walkGroups groups := by
  induction groups with
  | nil => cases mem
  | cons first rest ih =>
    rw [walkGroups]
    rcases mem_cons.mp mem with rfl | later
    · exact mem_append_left _ visited
    · exact mem_append_right _ (ih later)

theorem GroupedIn.visited (inside : GroupedIn groups control) :
    ∃ visit ∈ walkGroups groups, visit.control = control := by
  induction inside with
  | here mem inside =>
    obtain ⟨visit, visited, same⟩ := inside.visited _ 0
    refine ⟨visit, mem_walkGroups mem ?_, same⟩
    rw [walkGroup]
    exact mem_append_left _ visited
  | under mem _inside ih =>
    obtain ⟨visit, visited, same⟩ := ih
    refine ⟨visit, mem_walkGroups mem ?_, same⟩
    rw [walkGroup]
    exact mem_append_right _ visited

theorem Catalog.Has.visited {catalog : Catalog} (has : catalog.Has control) :
    ∃ visit ∈ walkControls catalog, visit.control = control := by
  rcases has with top | grouped
  · obtain ⟨visit, visited, same⟩ := top.visited [] 0
    exact ⟨visit, mem_append_left _ visited, same⟩
  · obtain ⟨visit, visited, same⟩ := grouped.visited
    exact ⟨visit, mem_append_right _ visited, same⟩

end CrossCodex.Oscal
