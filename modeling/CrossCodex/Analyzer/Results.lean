/-
The results that analyzers persist and the graph reads back (pkg/analyzer/results/results.go),
and the names under which they are stored.
-/

import CrossCodex.Analyzer.TaskId
import Mathlib.Data.Rat.Defs

namespace CrossCodex.Analyzer

def requiresAnalyzer : Text := "requires".toList

def relationshipAnalyzer : Text := "relationship".toList

/-- What synthesis records as the relationship of a requires result. -/
def consensusRequires : Text := "requires".toList

structure RequiresResult where
  sourceID : Text
  targetID : Text
  confidence : ℚ
  unanimous : Bool
  validVotes : Nat
  totalVotes : Nat
  models : List Text
deriving DecidableEq

structure SemanticMatchResult where
  sourceID : Text
  targetID : Text
  relationshipType : Text
  confidence : ℚ
  properties : List (Text × Text)
deriving DecidableEq

structure Artifact where
  name : Text
  type : Text
  frequency : Text
  ownerRole : Text
  confidence : ℚ
deriving DecidableEq

structure ArtifactResult where
  controlID : Text
  artifacts : List Artifact
deriving DecidableEq

end CrossCodex.Analyzer
