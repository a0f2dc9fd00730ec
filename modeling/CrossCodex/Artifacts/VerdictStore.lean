/-
The verdict store of one tenant; each operation is one transaction. Left out are the columns
no projection reads, the panel's lease among them: a panel may decide any pending pair at
any time.
-/

import CrossCodex.Graph.GraphDB
import CrossCodex.Library.Upsert

namespace CrossCodex.Artifacts

open Analyzer (Text)
open Library

structure Pair where
  low : Text
  high : Text
deriving DecidableEq, Repr

inductive VerdictStatus where
  | pending
  | confirmed
  | rejected
  | undecided
  | abandoned
deriving DecidableEq, Repr

/-- In the order of their authority. -/
inductive DeterminationType where
  | tokenOverlap
  | llmPanel
  | human
deriving DecidableEq, Repr

structure VerdictRow where
  candidateEdgeID : Text
  status : VerdictStatus
  determinationType : DeterminationType
  decidedAt : Option Nat
  graphApplied : Bool
  projectionClaimedUntil : Option Nat
deriving DecidableEq, Repr

/-- A decided verdict as a projection pass carries it. -/
structure Projection where
  pair : Pair
  candidateEdgeID : Text
  status : VerdictStatus
  decidedAt : Nat
  determinationType : DeterminationType
deriving DecidableEq, Repr

abbrev VerdictStore := Table Pair VerdictRow

namespace VerdictRow

variable (row : VerdictRow) (now : Nat)

def closed : Bool := row.status = .confirmed ∨ row.status = .rejected

/-- `projection_claimed_until IS NULL OR projection_claimed_until <= now`. -/
def unclaimed : Bool :=
  match row.projectionClaimedUntil with
  | none => true
  | some claimedUntil => claimedUntil ≤ now

def holds (projection : Projection) : Bool :=
  row.determinationType = projection.determinationType ∧ row.status = projection.status ∧
    row.decidedAt = some projection.decidedAt

/-- A row as Enqueue inserts it; the rest are the columns' defaults. -/
def queued (candidateEdgeID : Text) : VerdictRow :=
  { candidateEdgeID
    status := .pending
    determinationType := .tokenOverlap
    decidedAt := none
    graphApplied := false
    projectionClaimedUntil := none }

/-- Rows that automation may change. -/
def automatic : Bool := row.status = .pending ∧ row.determinationType ≠ .human

def projection (pair : Pair) : Option Projection :=
  match row.decidedAt with
  | some decidedAt =>
    if row.closed then
      some { pair, candidateEdgeID := row.candidateEdgeID, status := row.status, decidedAt
             determinationType := row.determinationType }
    else none
  | none => none

end VerdictRow

namespace VerdictStore

variable (store : VerdictStore) (pair : Pair)

def enqueueOne (candidateEdgeID : Text) : VerdictStore :=
  match store.lookup pair with
  | none => store.insert pair (.queued candidateEdgeID)
  | some row =>
    if row.automatic then store.insert pair { row with candidateEdgeID } else store

def enqueue (candidates : List (Pair × Text)) : VerdictStore :=
  candidates.foldl (fun store candidate => store.enqueueOne candidate.1 candidate.2) store

def closedPair : Bool := (store.lookup pair).any VerdictRow.closed

def decide (status : VerdictStatus) (decidedAt : Nat) : Option VerdictRow :=
  match store.lookup pair with
  | some row =>
    if row.automatic then
      some { row with
        status, determinationType := .llmPanel, decidedAt := some decidedAt
        graphApplied := false }
    else none
  | none => none

/-- The claim is kept: its holder is still writing the verdict replaced here. -/
def decideHuman (status : VerdictStatus) (decidedAt : Nat) : Option VerdictRow :=
  (store.lookup pair).map fun row => { row with
    status, determinationType := .human, decidedAt := some decidedAt, graphApplied := false }

/-- RecordFailure of the last attempt. -/
def abandon (decidedAt : Nat) : Option VerdictRow :=
  match store.lookup pair with
  | some row =>
    if row.automatic then some { row with status := .abandoned, decidedAt := some decidedAt }
    else none
  | none => none

def unprojected (now : Nat) : Option Projection :=
  match store.lookup pair with
  | some row =>
    if row.graphApplied = false ∧ row.unclaimed now then row.projection pair else none
  | none => none

/-- The row with the claim on it, if ClaimProjection acquires it. -/
def claimProjection (projection : Projection) (claimUntil now : Nat) : Option VerdictRow :=
  match store.lookup projection.pair with
  | some row =>
    if now < claimUntil ∧ row.holds projection ∧ row.graphApplied = false ∧
        row.unclaimed now then
      some { row with projectionClaimedUntil := some claimUntil }
    else none
  | none => none

/-- A row under another claim, or none, is not touched. -/
def markProjected (projection : Projection) (claimedUntil : Nat) : Option VerdictRow :=
  match store.lookup projection.pair with
  | some row =>
    if row.projectionClaimedUntil = some claimedUntil then
      some { row with graphApplied := row.holds projection, projectionClaimedUntil := none }
    else none
  | none => none

def releaseClaim (claimedUntil : Nat) : Option VerdictRow :=
  match store.lookup pair with
  | some row =>
    if row.projectionClaimedUntil = some claimedUntil then
      some { row with projectionClaimedUntil := none }
    else none
  | none => none

def resetProjection : VerdictStore :=
  mapRows (fun row =>
    if row.determinationType ≠ .tokenOverlap ∧ row.closed then
      { row with graphApplied := false }
    else row) store

end VerdictStore

end CrossCodex.Artifacts
