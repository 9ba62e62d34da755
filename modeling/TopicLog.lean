import TopicLog.Description
import TopicLog.Order.Json
import TopicLog.Recorder
import TopicLog.Session
import TopicLog.Uuid
import TopicLog.Statement.Sql
import TopicLog.Proofs.ExactlyOnce
import TopicLog.Proofs.Exclusion
import TopicLog.Proofs.FailedPoll
import TopicLog.Proofs.DecodablePrefix
import TopicLog.Proofs.Subscription
import TopicLog.Proofs.Repetition
import TopicLog.Proofs.RepeatedPolls
import TopicLog.Proofs.Claimants
import TopicLog.Proofs.CursorGuard
import TopicLog.Proofs.CompareAndSwap
import TopicLog.Proofs.AppendOnly
import TopicLog.Proofs.Batches
import TopicLog.Proofs.WholeBatches
import TopicLog.Proofs.Refusals
import TopicLog.Proofs.Draining
import TopicLog.Proofs.Fidelity
import TopicLog.Proofs.TopicIsolation
import TopicLog.Proofs.GroupIsolation
import TopicLog.Proofs.ForwardedFailures
import TopicLog.Proofs.MetadataGrammar
import TopicLog.Proofs.CanonicalMetadata
import TopicLog.Proofs.StatementTokens
import TopicLog.Proofs.StatementColumns
import TopicLog.Proofs.Dialects
import TopicLog.Proofs.SetUps
import TopicLog.Proofs.SettledCursors
import TopicLog.Proofs.ClaimedBatch
import TopicLog.Proofs.BatchSizes
import TopicLog.Proofs.Truncation
import TopicLog.Proofs.DisplayedTimestamps
import TopicLog.Proofs.UniversalTime
import TopicLog.Proofs.CursorHistory
import TopicLog.Proofs.OrderLayouts
import TopicLog.Proofs.OrderTotals
import TopicLog.Proofs.NumberRange
import TopicLog.Proofs.KnownTopics
import TopicLog.Proofs.EncodedBatches
import TopicLog.Proofs.ExclusiveReadings
import TopicLog.Proofs.TopicFailures
import TopicLog.Proofs.DecoratedRuns
