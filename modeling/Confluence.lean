import Confluence.Network.Cycles
import Confluence.Network.Local
import Confluence.Network.Note
import Confluence.Replication.Timing
import Confluence.Replication.Wire
import Confluence.Time.Rfc3339
import Confluence.Proofs.Causality.VectorProperties
import Confluence.Proofs.Replication.OperationHistory
import Confluence.Proofs.Replication.ExactlyOnce
import Confluence.Proofs.Outcome
import Confluence.Proofs.State.Tally
import Confluence.Proofs.Replication.VersionGate
import Confluence.Proofs.State.RegisterConvergence
import Confluence.Proofs.Replication.ExchangeProperties
import Confluence.Proofs.Replication.InboxProperties
import Confluence.Proofs.Network.Stations
import Confluence.Proofs.Network.Wiring
import Confluence.Proofs.Network.Session
import Confluence.Proofs.Network.LocalFailure
import Confluence.Proofs.Network.OperationConvergence
import Confluence.Proofs.Network.Phases
import Confluence.Proofs.Network.Attachment
import Confluence.Proofs.Network.SnapshotConvergence
import Confluence.Proofs.Replication.SetAgreement
import Confluence.Proofs.Causality.VectorTotals
import Confluence.Proofs.Replication.CountedCommands
import Confluence.Proofs.State.RegisterSuccession
import Confluence.Proofs.Replication.ExchangeBooks
import Confluence.Proofs.Replication.ExchangeRuns
import Confluence.Proofs.Replication.DeliveryHistory
import Confluence.Proofs.State.MergeLaws
import Confluence.Proofs.Json.TokenText
import Confluence.Proofs.Json.ValueText
import Confluence.Proofs.Json.LawfulCodec
import Confluence.Proofs.Replication.MessageText
import Confluence.Proofs.Replication.AwaitedMessages
import Confluence.Proofs.Replication.FailureIsolation
import Confluence.Proofs.Network.ChannelAccounts
import Confluence.Proofs.Network.ChannelCourse
import Confluence.Proofs.Network.JournalSoundness
import Confluence.Proofs.Network.ChannelContract
import Confluence.Proofs.Causality.VectorLattice
import Confluence.Proofs.Causality.DirectSuccession
import Confluence.Proofs.Replication.ApplyPasses
import Confluence.Proofs.Replication.OperationInbox
import Confluence.Proofs.Causality.ZeroEntries
import Confluence.Proofs.Replication.SnapshotInbox
import Confluence.Proofs.State.CounterValues
import Confluence.Proofs.State.InPlace
import Confluence.Proofs.Causality.OwnEvents
