import CrossCodex.Analysis.Provenance
import CrossCodex.Pipeline.Cancellation
import CrossCodex.Analysis.TamperEvidence
import CrossCodex.Pipeline.VoteSummaryRuns
import CrossCodex.Pipeline.SynthesisAcceptance
import CrossCodex.Analysis.AbandonProtocol
import CrossCodex.Pipeline.HonestAttestation
import CrossCodex.Pipeline.TenantMessages
import CrossCodex.Artifacts.GraphMirror
import CrossCodex.Graph.MirroredRuns
import CrossCodex.Oscal.ItemIDs
import CrossCodex.Pipeline.ChainLaw
import CrossCodex.Retention.LegalHolds
import CrossCodex.Retention.ArchivedBeforePurge
import CrossCodex.Backup.Committed
import CrossCodex.Database.CompletedJobs
import CrossCodex.Candidates.FusionScores
import CrossCodex.Analysis.LevelOutcomes
import CrossCodex.ResultCache.CacheKey
import CrossCodex.Worker.LLMRequest
import CrossCodex.Worker.AbandonedSet
import CrossCodex.Analyzer.VoteConsensus
import CrossCodex.Gateway.JobPages
import CrossCodex.Artifacts.Panel
import CrossCodex.NatsBus.Subjects
import CrossCodex.Pipeline.SynthesisRecord
import CrossCodex.Worker.RetryAfter
import CrossCodex.Graph.TimeText
