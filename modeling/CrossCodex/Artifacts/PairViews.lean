/-
The projection of one pair's verdicts, seen alone. The invariant says which edges there can
be under each verdict and how far the live holder of a claim has come.
-/

import CrossCodex.Artifacts.Projecting

namespace CrossCodex.Artifacts

open Analyzer (Text)
open Graph
open Library (forall_mem_concat)
open List Function

structure EdgeNames where
  candidate : Text
  panel : Text
  human : Nat → Text
  candidate_ne_panel : candidate ≠ panel
  candidate_ne_human : ∀ decidedAt, candidate ≠ human decidedAt
  panel_ne_human : ∀ decidedAt, panel ≠ human decidedAt
  human_injective : Function.Injective human

variable {row : VerdictRow} {projection : Projection} {id : Text}

namespace EdgeNames

variable (names : EdgeNames)

def own (projection : Projection) : Option Text :=
  if projection.status = .confirmed then
    if projection.determinationType = .human then some (names.human projection.decidedAt)
    else some names.panel
  else none

def asked (row : VerdictRow) : Option Text :=
  if row.status = .confirmed then
    if row.determinationType = .human then row.decidedAt.map names.human else some names.panel
  else none

def Known (id : Text) : Prop :=
  id = names.candidate ∨ id = names.panel ∨ ∃ decidedAt, id = names.human decidedAt

theorem asked_eq_own (same : row.holds projection = true) :
    names.asked row = names.own projection := by
  simp only [VerdictRow.holds, decide_eq_true_eq] at same
  obtain ⟨determination, status, decided⟩ := same
  simp [asked, own, determination, status, decided]

theorem own_known (asks : names.own projection = some id) : names.Known id := by
  unfold own at asks
  split_ifs at asks with confirmed human
  · exact .inr (.inr ⟨_, (Option.some.inj asks).symm⟩)
  · exact .inr (.inl (Option.some.inj asks).symm)

end EdgeNames

def liveIDs (edges : List (Edge DeterminationType)) : List Text :=
  (edges.filter fun edge => edge.validTo = none).map Edge.id

variable {edges : List (Edge DeterminationType)} {decidedAt : Nat}

theorem mem_liveIDs : id ∈ liveIDs edges ↔ ∃ edge ∈ edges, edge.id = id ∧ edge.validTo = none := by
  simp only [liveIDs, mem_map, mem_filter, decide_eq_true_eq]
  constructor
  · rintro ⟨edge, ⟨mem, live⟩, same⟩
    exact ⟨edge, mem, same, live⟩
  · rintro ⟨edge, mem, same, live⟩
    exact ⟨edge, ⟨mem, live⟩, same⟩

/-- What a pass that projects the row's own verdict has done so far. -/
def Progress (edges : List (Edge DeterminationType)) (own : Option Text) : Phase → Prop
  | .creating => True
  | .reading => ∀ id, own = some id → id ∈ liveIDs edges
  | .superseding targets =>
    (∀ id, own = some id → id ∈ liveIDs edges ∧ id ∉ targets.map Prod.fst) ∧
      ∀ id ∈ liveIDs edges, own = some id ∨ id ∈ targets.map Prod.fst
  | .orphaned => True

structure PairView where
  now : Nat
  row : Option VerdictRow
  orphaned : Bool
  edges : List (Edge DeterminationType)
  holds : Nat → Option Hold

section

variable (names : EdgeNames) (edges : List (Edge DeterminationType)) (row : VerdictRow)
  (hold : Hold)

structure Projection.Proper (projection : Projection) : Prop where
  candidate : projection.candidateEdgeID = names.candidate
  decided : projection.status = .confirmed ∨ projection.status = .rejected
  authority : projection.determinationType ≠ .tokenOverlap

structure Hold.Proper : Prop where
  projection : hold.projection.Proper names
  targets : ∀ targets, hold.phase = .superseding targets →
    ∀ target ∈ targets, names.Known target.1

/-- A reviewer has replaced the verdict that the holder of the claim is writing. -/
def Overtaken : Prop :=
  row.determinationType = .human ∧
    ∀ decidedAt, row.decidedAt = some decidedAt →
      (∀ edge ∈ edges, edge.id ≠ names.human decidedAt) ∧
        (hold.projection.determinationType = .human → hold.projection.decidedAt < decidedAt)

structure Held : Prop where
  claimed : row.projectionClaimedUntil = some hold.claimedUntil
  pending : row.graphApplied = false
  closed : row.closed = true
  tracks : (row.holds hold.projection = true ∧
      Progress edges (names.own hold.projection) hold.phase) ∨
    Overtaken names edges row hold

structure RowConsistent : Prop where
  candidate : row.candidateEdgeID = names.candidate
  openEdges : row.closed = false → ∀ edge ∈ edges, edge.id = names.candidate
  panelEdges : row.closed = true → row.determinationType = .llmPanel →
    ∀ edge ∈ edges, edge.id = names.candidate ∨
      (edge.id = names.panel ∧ row.status = .confirmed ∧ edge.validTo = none)
  humanEdges : row.determinationType = .human → ∀ decidedAt, row.decidedAt = some decidedAt →
    ∀ edge ∈ edges, ∀ time, edge.id = names.human time →
      time < decidedAt ∨ (time = decidedAt ∧ row.status = .confirmed ∧ edge.validTo = none)
  decided : row.closed = true →
    row.determinationType ≠ .tokenOverlap ∧ ∃ decidedAt, row.decidedAt = some decidedAt
  human : row.determinationType = .human → row.closed = true
  applied : row.graphApplied = true →
    row.closed = true ∧ row.projectionClaimedUntil = none

end

theorem RowConsistent.human_later {names : EdgeNames} (consistent : RowConsistent names edges row)
    (later : ∀ earlier, row.decidedAt = some earlier → earlier < decidedAt) :
    ∀ edge ∈ edges, ∀ time, edge.id = names.human time → time < decidedAt := by
  intro edge mem time named
  cases closed : row.closed with
  | false =>
    have candidate := consistent.openEdges closed edge mem
    exact absurd (candidate.symm.trans named) (names.candidate_ne_human time)
  | true =>
    obtain ⟨authority, earlier, decided⟩ := consistent.decided closed
    cases determination : row.determinationType with
    | tokenOverlap => exact absurd determination authority
    | llmPanel =>
      rcases consistent.panelEdges closed determination edge mem with candidate | panel
      · exact absurd (candidate.symm.trans named) (names.candidate_ne_human time)
      · exact absurd (panel.1.symm.trans named) (names.panel_ne_human time)
    | human =>
      have before := later earlier decided
      rcases consistent.humanEdges determination earlier decided edge mem time named with
        past | now
      · exact Nat.lt_trans past before
      · rw [now.1]
        exact before

theorem update_cases {Item : Type} {items : Nat → Option Item} {key other : Nat}
    {value : Option Item} {item : Item} (found : update items key value other = some item) :
    (other = key ∧ value = some item) ∨ (other ≠ key ∧ items other = some item) := by
  by_cases same : other = key
  · subst other
    rw [update_self] at found
    exact .inl ⟨rfl, found⟩
  · rw [update_of_ne same] at found
    exact .inr ⟨same, found⟩

namespace PairView

structure Consistent (names : EdgeNames) (view : PairView) : Prop where
  known : ∀ edge ∈ view.edges, names.Known edge.id
  distinct : (view.edges.map Edge.id).Nodup
  unqueued : view.row = none → ∀ edge ∈ view.edges, edge.id = names.candidate
  row : ∀ row, view.row = some row → RowConsistent names view.edges row
  settled : ∀ row, view.row = some row → row.graphApplied = true → view.orphaned = false →
    ∀ id, id ∈ liveIDs view.edges ↔ names.asked row = some id
  proper : ∀ pass hold, view.holds pass = some hold → hold.Proper names
  held : ∀ pass hold, view.holds pass = some hold → view.now < hold.claimedUntil →
    ∃ row, view.row = some row ∧ Held names view.edges row hold
  sole : ∀ pass hold other otherHold, view.holds pass = some hold →
    view.holds other = some otherHold → view.now < hold.claimedUntil →
      view.now < otherHold.claimedUntil → pass = other

variable {names : EdgeNames} {view : PairView}

theorem Consistent.elapse (consistent : view.Consistent names) (elapsed : Nat) :
    { view with now := view.now + elapsed }.Consistent names where
  __ := consistent
  held pass hold holding live :=
    consistent.held pass hold holding (Nat.lt_of_le_of_lt (Nat.le_add_right _ _) live)
  sole pass hold other otherHold holding otherHolding live otherLive :=
    consistent.sole pass hold other otherHold holding otherHolding
      (Nat.lt_of_le_of_lt (Nat.le_add_right _ _) live)
      (Nat.lt_of_le_of_lt (Nat.le_add_right _ _) otherLive)

theorem Consistent.drop (consistent : view.Consistent names) (pass : Nat) :
    { view with holds := update view.holds pass none }.Consistent names := by
  have kept : ∀ other hold, update view.holds pass none other = some hold →
      view.holds other = some hold := by
    intro other hold holding
    rcases update_cases holding with ⟨_same, impossible⟩ | ⟨_different, before⟩
    · cases impossible
    · exact before
  exact
    { consistent with
      proper := fun other hold holding => consistent.proper other hold (kept other hold holding)
      held := fun other hold holding => consistent.held other hold (kept other hold holding)
      sole := fun other hold another anotherHold holding anotherHolding =>
        consistent.sole other hold another anotherHold (kept other hold holding)
          (kept another anotherHold anotherHolding) }

variable {hold : Hold} {pass : Nat} {old : VerdictRow}

section

variable (consistent : view.Consistent names)
include consistent

theorem Consistent.setRow {orphaned : Bool} (kept : RowConsistent names view.edges row)
    (settles : row.graphApplied = true → orphaned = false →
      ∀ id, id ∈ liveIDs view.edges ↔ names.asked row = some id)
    (held : ∀ pass hold, view.holds pass = some hold → view.now < hold.claimedUntil →
      Held names view.edges row hold) :
    { view with row := some row, orphaned }.Consistent names where
  __ := consistent
  unqueued := by intro impossible; cases impossible
  row := by
    intro current same
    cases same
    exact kept
  settled := by
    intro current same
    cases same
    exact settles
  held := fun pass hold holding live => ⟨row, rfl, held pass hold holding live⟩

section

variable (unclosed : ∀ row, view.row = some row → row.closed = false)
include unclosed

theorem Consistent.unheld (holding : view.holds pass = some hold) :
    ¬ view.now < hold.claimedUntil := by
  intro live
  obtain ⟨row, stored, held⟩ := consistent.held pass hold holding live
  have closed := held.closed
  rw [unclosed row stored] at closed
  cases closed

theorem Consistent.candidate_of_open : ∀ edge ∈ view.edges, edge.id = names.candidate := by
  cases stored : view.row with
  | none => exact consistent.unqueued stored
  | some row => exact (consistent.row row stored).openEdges (unclosed row stored)

theorem Consistent.replaceOpen (candidate : row.candidateEdgeID = names.candidate)
    (unapplied : row.graphApplied = false) (automatic : row.determinationType ≠ .human)
    (decided : row.closed = true →
      row.determinationType ≠ .tokenOverlap ∧ ∃ decidedAt, row.decidedAt = some decidedAt) :
    { view with row := some row }.Consistent names := by
  have candidates := consistent.candidate_of_open unclosed
  apply consistent.setRow
  · exact
      { candidate
        openEdges := fun _ => candidates
        panelEdges := fun _ _ edge mem => .inl (candidates edge mem)
        humanEdges := fun human => absurd human automatic
        decided
        human := fun human => absurd human automatic
        applied := fun applied => absurd applied (by simp [unapplied]) }
  · intro applied
    rw [unapplied] at applied
    cases applied
  · exact fun _ _ holding live => absurd live (consistent.unheld unclosed holding)

end

theorem Consistent.overrule (stored : view.row = some old) {status : VerdictStatus}
    (judged : status = .confirmed ∨ status = .rejected)
    (later : ∀ earlier, old.decidedAt = some earlier → earlier < decidedAt) :
    { view with row := some { old with
        status, determinationType := .human, decidedAt := some decidedAt
        graphApplied := false } }.Consistent names := by
  have closed : VerdictRow.closed { old with
      status, determinationType := .human, decidedAt := some decidedAt
      graphApplied := false } = true := by
    simpa [VerdictRow.closed] using judged
  apply consistent.setRow
  · exact
      { candidate := (consistent.row old stored).candidate
        openEdges := fun unclosed => absurd unclosed (by simp [closed])
        panelEdges := fun _ automatic => by cases automatic
        humanEdges := fun _ time same edge mem earlier named => by
          cases same
          exact .inl ((consistent.row old stored).human_later later edge mem earlier named)
        decided := fun _ => ⟨by simp, decidedAt, rfl⟩
        human := fun _ => closed
        applied := fun applied => by cases applied }
  · intro applied
    cases applied
  · intro pass hold holding live
    obtain ⟨row, same, held⟩ := consistent.held pass hold holding live
    cases stored.symm.trans same
    refine ⟨held.claimed, rfl, closed, .inr ⟨rfl, ?_⟩⟩
    intro time same
    cases same
    constructor
    · intro edge mem named
      have before := (consistent.row old stored).human_later later edge mem decidedAt named
      exact Nat.lt_irrefl _ before
    · intro human
      rcases held.tracks with ⟨matching, _progress⟩ | overtaken
      · simp only [VerdictRow.holds, decide_eq_true_eq] at matching
        exact later _ matching.2.2
      · obtain ⟨_authority, earlier, decided⟩ := (consistent.row old stored).decided held.closed
        exact Nat.lt_trans ((overtaken.2 earlier decided).2 human) (later earlier decided)

end

variable {edge : Edge DeterminationType} {supersededAt : Nat}

theorem liveIDs_append (edges : List (Edge DeterminationType)) (live : edge.validTo = none) :
    liveIDs (edges ++ [edge]) = liveIDs edges ++ [edge.id] := by
  simp [liveIDs, filter_append, live]

section

variable (consistent : view.Consistent names)
include consistent

theorem Consistent.addCandidate (unclosed : ∀ row, view.row = some row → row.closed = false)
    (named : edge.id = names.candidate) (fresh : ∀ stored ∈ view.edges, stored.id ≠ edge.id) :
    { view with edges := view.edges ++ [edge] }.Consistent names := by
  have candidates : ∀ other ∈ view.edges ++ [edge], other.id = names.candidate :=
    forall_mem_concat (consistent.candidate_of_open unclosed) named
  exact
    { consistent with
      known := fun other mem => .inl (candidates other mem)
      distinct := nodup_map_append consistent.distinct fresh
      unqueued := fun _ => candidates
      row := fun row stored =>
        { consistent.row row stored with
          openEdges := fun _ => candidates
          panelEdges := fun _ _ other mem => .inl (candidates other mem)
          humanEdges := fun human => by
            have closed := (consistent.row row stored).human human
            rw [unclosed row stored] at closed
            cases closed }
      settled := fun row stored applied => by
        have closed := ((consistent.row row stored).applied applied).1
        rw [unclosed row stored] at closed
        cases closed
      held := fun _ _ holding live => absurd live (consistent.unheld unclosed holding) }

theorem Consistent.reset (stored : view.row = some old) :
    { view with row := some { old with graphApplied := false } }.Consistent names := by
  apply consistent.setRow
  · have kept := consistent.row old stored
    exact { kept with applied := fun applied => by cases applied }
  · intro applied
    cases applied
  · intro pass hold holding live
    obtain ⟨row, same, held⟩ := consistent.held pass hold holding live
    cases stored.symm.trans same
    exact { held with pending := rfl }

theorem Consistent.rebuild (unmarked : ∀ row, view.row = some row →
      row.graphApplied = false ∧ row.unclaimed view.now = true) :
    { view with edges := [] }.Consistent names := by
  have unheld : ∀ pass hold, view.holds pass = some hold → ¬ view.now < hold.claimedUntil := by
    intro pass hold holding live
    obtain ⟨row, stored, held⟩ := consistent.held pass hold holding live
    have free := (unmarked row stored).2
    simp only [VerdictRow.unclaimed, held.claimed, decide_eq_true_eq] at free
    omega
  exact
    { consistent with
      known := by intro edge mem; cases mem
      distinct := nodup_nil
      unqueued := by intro _ edge mem; cases mem
      row := fun row stored =>
        { consistent.row row stored with
          openEdges := by intro _ edge mem; cases mem
          panelEdges := by intro _ _ edge mem; cases mem
          humanEdges := by intro _ _ _ edge mem; cases mem }
      settled := fun row stored applied => by
        rw [(unmarked row stored).1] at applied
        cases applied
      held := fun pass hold holding live => absurd live (unheld pass hold holding) }

theorem Consistent.claim (stored : view.row = some row) (hold : Hold) (proper : hold.Proper names)
    (matching : row.holds hold.projection = true) (unapplied : row.graphApplied = false)
    (free : row.unclaimed view.now = true)
    (progress : Progress view.edges (names.own hold.projection) hold.phase) (pass : Nat) :
    { view with
      row := some { row with projectionClaimedUntil := some hold.claimedUntil }
      holds := update view.holds pass (some hold) }.Consistent names := by
  have closed : row.closed = true := by
    simp only [VerdictRow.holds, decide_eq_true_eq] at matching
    simpa [VerdictRow.closed, matching.2.1] using proper.projection.decided
  have unheld : ∀ other otherHold, view.holds other = some otherHold →
      ¬ view.now < otherHold.claimedUntil := by
    intro other otherHold holding live
    obtain ⟨current, same, held⟩ := consistent.held other otherHold holding live
    cases stored.symm.trans same
    simp only [VerdictRow.unclaimed, held.claimed, decide_eq_true_eq] at free
    omega
  have only : ∀ other otherHold,
      update view.holds pass (some hold) other = some otherHold →
        view.now < otherHold.claimedUntil → other = pass := by
    intro other otherHold holding live
    rcases update_cases holding with ⟨same, _given⟩ | ⟨_different, before⟩
    · exact same
    · exact absurd live (unheld other otherHold before)
  have kept := consistent.row row stored
  exact
    { consistent with
      unqueued := by intro impossible; cases impossible
      row := by
        intro current same
        cases same
        exact { kept with applied := fun applied => absurd applied (by simp [unapplied]) }
      settled := by
        intro current same applied
        cases same
        exact absurd applied (by simp [unapplied])
      proper := by
        intro other otherHold holding
        rcases update_cases holding with ⟨_same, given⟩ | ⟨_different, before⟩
        · cases given
          exact proper
        · exact consistent.proper other otherHold before
      held := by
        intro other otherHold holding live
        rcases update_cases holding with ⟨_same, given⟩ | ⟨_different, before⟩
        · cases given
          exact ⟨_, rfl, rfl, unapplied, closed, .inl ⟨matching, progress⟩⟩
        · exact absurd live (unheld other otherHold before)
      sole := by
        intro first firstHold second secondHold holding otherHolding live otherLive
        exact (only first firstHold holding live).trans
          (only second secondHold otherHolding otherLive).symm }

end

theorem own_of_overtaken (overtaken : Overtaken names edges row hold) {time : Nat}
    (decided : row.decidedAt = some decidedAt)
    (asks : names.own hold.projection = some (names.human time)) : time < decidedAt := by
  unfold EdgeNames.own at asks
  split_ifs at asks with confirmed human
  · have same := names.human_injective (Option.some.inj asks)
    rw [← same]
    exact (overtaken.2 decidedAt decided).2 human
  · exact absurd (Option.some.inj asks) (names.panel_ne_human time)

theorem own_of_panel (matching : row.holds projection = true)
    (panel : row.determinationType = .llmPanel) (asks : names.own projection = some id) :
    id = names.panel ∧ row.status = .confirmed := by
  rw [← names.asked_eq_own matching] at asks
  unfold EdgeNames.asked at asks
  rw [panel] at asks
  split_ifs at asks with confirmed impossible
  · cases impossible
  · exact ⟨(Option.some.inj asks).symm, confirmed⟩

theorem own_of_human (matching : row.holds projection = true)
    (human : row.determinationType = .human) (decided : row.decidedAt = some decidedAt)
    (asks : names.own projection = some id) :
    id = names.human decidedAt ∧ row.status = .confirmed := by
  rw [← names.asked_eq_own matching] at asks
  unfold EdgeNames.asked at asks
  rw [human, decided] at asks
  split_ifs at asks with confirmed impossible
  · exact ⟨(Option.some.inj asks).symm, confirmed⟩
  · exact absurd rfl impossible

theorem tracks_of_panel (held : Held names edges row hold)
    (panel : row.determinationType = .llmPanel) :
    row.holds hold.projection = true ∧
      Progress edges (names.own hold.projection) hold.phase := by
  rcases held.tracks with current | overtaken
  · exact current
  · have human := overtaken.1
    rw [panel] at human
    cases human

def superseded (edges : List (Edge DeterminationType)) (id : Text) (supersededAt : Nat) :
    List (Edge DeterminationType) :=
  edges.map fun edge => if edge.id = id then { edge with validTo := some supersededAt } else edge

theorem mem_superseded (mem : edge ∈ superseded edges id supersededAt) :
    ∃ old ∈ edges, old.id = edge.id ∧ (old.id ≠ id → edge = old) := by
  obtain ⟨old, stored, rfl⟩ := mem_map.mp mem
  by_cases same : old.id = id
  · exact ⟨old, stored, by simp [same], fun ne => absurd same ne⟩
  · exact ⟨old, stored, by simp [same], fun _ => by simp [same]⟩

theorem mem_liveIDs_superseded {other : Text} :
    other ∈ liveIDs (superseded edges id supersededAt) ↔ other ∈ liveIDs edges ∧ other ≠ id := by
  simp only [mem_liveIDs, superseded, mem_map]
  constructor
  · rintro ⟨_, ⟨old, stored, rfl⟩, same, unended⟩
    by_cases hit : old.id = id
    · simp [hit] at unended
    · rw [if_neg hit] at same unended
      exact ⟨⟨old, stored, same, unended⟩, fun equal => hit (same.trans equal)⟩
  · rintro ⟨⟨old, stored, same, unended⟩, ne⟩
    have missed : old.id ≠ id := fun hit => ne (same.symm.trans hit)
    exact ⟨old, ⟨old, stored, if_neg missed⟩, same, unended⟩

section

variable (consistent : view.Consistent names) (next : Hold) (holding : view.holds pass = some hold)
  (live : view.now < hold.claimedUntil) (sameProjection : next.projection = hold.projection)
  (sameClaim : next.claimedUntil = hold.claimedUntil)
include consistent holding live sameProjection sameClaim

/-- The holder of a live claim takes its next step, over edges that were there or are its
own. All that is left to show is that they still agree with the row, and what the holder has
done by then. -/
theorem Consistent.advance (targets : ∀ targets, next.phase = .superseding targets →
      ∀ target ∈ targets, names.Known target.1)
    (distinct : (edges.map Edge.id).Nodup)
    (own : ∀ edge ∈ edges, (∃ old ∈ view.edges, old.id = edge.id) ∨
      names.own hold.projection = some edge.id)
    (kept : ∀ row, RowConsistent names view.edges row → Held names view.edges row hold →
      RowConsistent names edges row ∧ (row.holds hold.projection = true →
        Progress view.edges (names.own hold.projection) hold.phase →
          Progress edges (names.own hold.projection) next.phase)) :
    { view with
      edges
      holds := update view.holds pass (some next) }.Consistent names := by
  obtain ⟨row, stored, held⟩ := consistent.held pass hold holding live
  obtain ⟨rowKept, progress⟩ := kept row (consistent.row row stored) held
  have heldKept : Held names edges row next := by
    refine ⟨sameClaim ▸ held.claimed, held.pending, held.closed, ?_⟩
    rw [sameProjection]
    rcases held.tracks with current | overtaken
    · exact .inl ⟨current.1, progress current.1 current.2⟩
    · refine .inr ⟨overtaken.1, ?_⟩
      intro decidedAt decided
      obtain ⟨absent, earlier⟩ := overtaken.2 decidedAt decided
      refine ⟨?_, sameProjection ▸ earlier⟩
      intro edge mem named
      rcases own edge mem with ⟨old, there, same⟩ | asks
      · exact absent old there (same.trans named)
      · rw [named] at asks
        exact Nat.lt_irrefl _ (own_of_overtaken overtaken decided asks)
  have only : ∀ other otherHold,
      update view.holds pass (some next) other = some otherHold →
        view.now < otherHold.claimedUntil → other = pass := by
    intro other otherHold otherHolding otherLive
    rcases update_cases otherHolding with ⟨same, _given⟩ | ⟨_different, before⟩
    · exact same
    · exact consistent.sole other otherHold pass hold before holding otherLive live
  exact
    { known := by
        intro edge mem
        rcases own edge mem with ⟨old, there, same⟩ | asks
        · exact same ▸ consistent.known old there
        · exact names.own_known asks
      distinct
      unqueued := fun missing => by
        have impossible := stored.symm.trans missing
        cases impossible
      row := by
        intro current same
        cases stored.symm.trans same
        exact rowKept
      settled := by
        intro current same applied
        cases stored.symm.trans same
        rw [held.pending] at applied
        cases applied
      proper := by
        intro other otherHold otherHolding
        rcases update_cases otherHolding with ⟨_same, given⟩ | ⟨_different, before⟩
        · cases given
          exact ⟨sameProjection ▸ (consistent.proper pass hold holding).projection, targets⟩
        · exact consistent.proper other otherHold before
      held := by
        intro other otherHold otherHolding otherLive
        rcases update_cases otherHolding with ⟨_same, given⟩ | ⟨ne, _before⟩
        · cases given
          exact ⟨row, stored, heldKept⟩
        · exact absurd (only other otherHold otherHolding otherLive) ne
      sole := by
        intro first firstHold second secondHold firstHolding secondHolding firstLive secondLive
        exact (only first firstHold firstHolding firstLive).trans
          (only second secondHold secondHolding secondLive).symm }

theorem Consistent.proceed (targets : ∀ targets, next.phase = .superseding targets →
      ∀ target ∈ targets, names.Known target.1)
    (progress : ∀ row, RowConsistent names view.edges row → Held names view.edges row hold →
      row.holds hold.projection = true →
        Progress view.edges (names.own hold.projection) hold.phase →
          Progress view.edges (names.own hold.projection) next.phase) :
    { view with holds := update view.holds pass (some next) }.Consistent names := by
  refine consistent.advance next holding live sameProjection sameClaim targets
    consistent.distinct ?_ ?_
  · exact fun edge mem => .inl ⟨edge, mem, rfl⟩
  · exact fun row kept held => ⟨kept, progress row kept held⟩

theorem Consistent.create (reading : next.phase = .reading)
    (asks : names.own hold.projection = some edge.id) (unended : edge.validTo = none)
    (fresh : ∀ stored ∈ view.edges, stored.id ≠ edge.id) :
    { view with
      edges := view.edges ++ [edge]
      holds := update view.holds pass (some next) }.Consistent names := by
  refine consistent.advance next holding live sameProjection sameClaim ?_
    (nodup_map_append consistent.distinct fresh) ?_ ?_
  · rw [reading]
    nofun
  · exact forall_mem_concat (fun other old => .inl ⟨other, old, rfl⟩) (.inr asks)
  · intro row kept held
    constructor
    · exact
        { kept with
          openEdges := fun unclosed => absurd held.closed (by simp [unclosed])
          panelEdges := by
            intro closed panel
            have own := own_of_panel (tracks_of_panel held panel).1 panel asks
            exact forall_mem_concat (kept.panelEdges closed panel) (.inr ⟨own.1, own.2, unended⟩)
          humanEdges := by
            intro human decidedAt decided
            refine forall_mem_concat (kept.humanEdges human decidedAt decided) fun time named => ?_
            rcases held.tracks with current | overtaken
            · have own := own_of_human current.1 human decided asks
              have same := names.human_injective (named.symm.trans own.1)
              exact .inr ⟨same, own.2, unended⟩
            · rw [named] at asks
              exact .inl (own_of_overtaken overtaken decided asks) }
    · rw [reading]
      intro _ _ id asked
      rw [liveIDs_append _ unended, mem_append]
      rw [asks] at asked
      exact .inr (mem_singleton.mpr (Option.some.inj asked).symm)

theorem Consistent.recreate (reading : next.phase = .reading) (mem : edge ∈ view.edges)
    (asks : names.own hold.projection = some edge.id) :
    { view with holds := update view.holds pass (some next) }.Consistent names := by
  apply consistent.proceed next holding live sameProjection sameClaim
  · rw [reading]
    nofun
  · rw [reading]
    intro row kept held matching _ id asked
    rw [asks] at asked
    cases asked
    have unended : edge.validTo = none := by
      obtain ⟨authority, decidedAt, decided⟩ := kept.decided held.closed
      cases determination : row.determinationType with
      | tokenOverlap => exact absurd determination authority
      | llmPanel =>
        have own := own_of_panel matching determination asks
        rcases kept.panelEdges held.closed determination edge mem with candidate | panel
        · exact absurd (candidate.symm.trans own.1) names.candidate_ne_panel
        · exact panel.2.2
      | human =>
        have own := own_of_human matching determination decided asks
        rcases kept.humanEdges determination decidedAt decided edge mem decidedAt own.1 with
          past | now
        · exact absurd past (Nat.lt_irrefl _)
        · exact now.2.2
    exact mem_liveIDs.mpr ⟨edge, mem, rfl, unended⟩

theorem Consistent.orphan (orphaned : next.phase = .orphaned) :
    { view with holds := update view.holds pass (some next) }.Consistent names := by
  apply consistent.proceed next holding live sameProjection sameClaim
  · rw [orphaned]
    nofun
  · rw [orphaned]
    exact fun _ _ _ _ _ => trivial

theorem Consistent.lookUp (reading : hold.phase = .reading) {targets : List (Text × Nat)}
    (superseding : next.phase = .superseding targets)
    (listed : ∀ id, id ∈ targets.map Prod.fst ↔ id ∈ liveIDs view.edges ∧
      if hold.projection.determinationType = .human then names.own hold.projection ≠ some id
      else id = names.candidate) :
    { view with holds := update view.holds pass (some next) }.Consistent names := by
  apply consistent.proceed next holding live sameProjection sameClaim
  · intro others same target mem
    rw [superseding] at same
    cases same
    have present := ((listed target.1).mp (mem_map_of_mem mem)).1
    obtain ⟨edge, stored, same, _unended⟩ := mem_liveIDs.mp present
    rw [← same]
    exact consistent.known edge stored
  · rw [reading, superseding]
    intro row kept held matching progress
    have determination : row.determinationType = hold.projection.determinationType := by
      have same := matching
      simp only [VerdictRow.holds, decide_eq_true_eq] at same
      exact same.1
    constructor
    · intro id asks
      refine ⟨progress id asks, ?_⟩
      intro mem
      have chosen := ((listed id).mp mem).2
      split_ifs at chosen with human
      · exact chosen asks
      · -- A panel's own edge is never the candidate.
        unfold EdgeNames.own at asks
        split_ifs at asks
        exact names.candidate_ne_panel (chosen.symm.trans (Option.some.inj asks).symm)
    · intro id present
      by_cases human : hold.projection.determinationType = .human
      · by_cases asks : names.own hold.projection = some id
        · exact .inl asks
        · exact .inr ((listed id).mpr ⟨present, by rw [if_pos human]; exact asks⟩)
      · have panel : row.determinationType = .llmPanel := by
          have authority := (kept.decided held.closed).1
          cases kind : row.determinationType with
          | tokenOverlap => exact absurd kind authority
          | llmPanel => rfl
          | human => exact absurd (determination.symm.trans kind) human
        obtain ⟨edge, stored, same, _unended⟩ := mem_liveIDs.mp present
        rcases kept.panelEdges held.closed panel edge stored with candidate | own
        · exact .inr ((listed id).mpr ⟨present, by rw [if_neg human, ← same, candidate]⟩)
        · left
          rw [← names.asked_eq_own matching, EdgeNames.asked, if_pos own.2.1, panel,
            if_neg (by simp), ← same, own.1]

theorem Consistent.supersede {target : Text × Nat} {rest : List (Text × Nat)}
    (listed : hold.phase = .superseding (target :: rest))
    (superseding : next.phase = .superseding rest) :
    { view with
      edges := superseded view.edges target.1 target.2
      holds := update view.holds pass (some next) }.Consistent names := by
  have ids : (superseded view.edges target.1 target.2).map Edge.id = view.edges.map Edge.id := by
    simp only [superseded, map_map]
    apply map_congr_left
    intro edge _member
    simp only [comp]
    split_ifs <;> rfl
  refine consistent.advance next holding live sameProjection sameClaim ?_
    (ids ▸ consistent.distinct) ?_ ?_
  · intro others same other mem
    rw [superseding] at same
    cases same
    exact (consistent.proper pass hold holding).targets _ listed other
      (mem_cons_of_mem _ mem)
  · intro edge mem
    obtain ⟨old, stored, same, _kept⟩ := mem_superseded mem
    exact .inl ⟨old, stored, same⟩
  · intro row kept held
    -- The holder of the row's own verdict never ends the edge that verdict asks for.
    have spares : ∀ id, Progress view.edges (names.own hold.projection) hold.phase →
        names.own hold.projection = some id → id ≠ target.1 := by
      intro id progress asks equal
      rw [listed] at progress
      exact (progress.1 id asks).2 (by simp [equal])
    constructor
    · exact
        { kept with
          openEdges := fun unclosed => absurd held.closed (by simp [unclosed])
          panelEdges := by
            intro closed panel edge mem
            obtain ⟨old, stored, same, unchanged⟩ := mem_superseded mem
            rcases kept.panelEdges closed panel old stored with candidate | own
            · exact .inl (same ▸ candidate)
            · have current := tracks_of_panel held panel
              have asks : names.own hold.projection = some old.id := by
                rw [← names.asked_eq_own current.1, EdgeNames.asked, if_pos own.2.1, panel,
                  if_neg (by simp), own.1]
              rw [unchanged (spares old.id current.2 asks)]
              exact .inr own
          humanEdges := by
            intro human decidedAt decided edge mem time named
            obtain ⟨old, stored, same, unchanged⟩ := mem_superseded mem
            rcases kept.humanEdges human decidedAt decided old stored time (same.trans named) with
              past | now
            · exact .inl past
            · rcases held.tracks with current | overtaken
              · have asks : names.own hold.projection = some old.id := by
                  rw [← names.asked_eq_own current.1, EdgeNames.asked, if_pos now.2.1,
                    if_pos human, decided, same.trans named, now.1]
                  rfl
                rw [unchanged (spares old.id current.2 asks)]
                exact .inr now
              · have missing := (overtaken.2 decidedAt decided).1 old stored
                rw [now.1] at named
                exact absurd (same.trans named) missing }
    · intro _ progress
      have spared := fun id => spares id progress
      rw [listed] at progress
      rw [superseding]
      constructor
      · intro id asks
        refine ⟨mem_liveIDs_superseded.mpr ⟨(progress.1 id asks).1, spared id asks⟩, ?_⟩
        intro mem
        exact (progress.1 id asks).2 (mem_cons_of_mem _ mem)
      · intro id present
        obtain ⟨wasLive, ne⟩ := mem_liveIDs_superseded.mp present
        rcases progress.2 id wasLive with asks | mem
        · exact .inl asks
        · exact .inr ((mem_cons.mp mem).resolve_left ne)

omit sameProjection sameClaim in
theorem Consistent.finish (stored : view.row = some row) (applied orphaned : Bool)
    (settles : applied = true → orphaned = false →
      ∀ id, id ∈ liveIDs view.edges ↔ names.asked row = some id) :
    { view with
      row := some { row with graphApplied := applied, projectionClaimedUntil := none }
      orphaned
      holds := update view.holds pass none }.Consistent names := by
  obtain ⟨current, same, held⟩ := consistent.held pass hold holding live
  cases stored.symm.trans same
  have released : ∀ other otherHold, update view.holds pass none other = some otherHold →
      ¬ view.now < otherHold.claimedUntil := by
    intro other otherHold otherHolding otherLive
    rcases update_cases otherHolding with ⟨_same, impossible⟩ | ⟨ne, before⟩
    · cases impossible
    · exact ne (consistent.sole other otherHold pass hold before holding otherLive live)
  apply (consistent.drop pass).setRow
  · have kept := consistent.row row stored
    exact { kept with applied := fun _ => ⟨held.closed, rfl⟩ }
  · exact settles
  · intro other otherHold otherHolding otherLive
    exact absurd otherLive (released other otherHold otherHolding)

end

theorem settles_of_held (kept : RowConsistent names edges row) (held : Held names edges row hold)
    (done : hold.phase = .superseding []) (matching : row.holds hold.projection = true) :
    ∀ id, id ∈ liveIDs edges ↔ names.asked row = some id := by
  intro id
  rw [names.asked_eq_own matching]
  rcases held.tracks with current | overtaken
  · have progress := current.2
    rw [done] at progress
    constructor
    · intro present
      exact (progress.2 id present).resolve_right (by simp)
    · intro asks
      exact (progress.1 id asks).1
  · -- The row cannot hold a verdict that a later one replaced.
    obtain ⟨_authority, decidedAt, decided⟩ := kept.decided held.closed
    simp only [VerdictRow.holds, decide_eq_true_eq] at matching
    have before := (overtaken.2 decidedAt decided).2 (matching.1.symm.trans overtaken.1)
    rw [matching.2.2] at decided
    cases decided
    exact absurd before (Nat.lt_irrefl _)

end PairView

end CrossCodex.Artifacts
