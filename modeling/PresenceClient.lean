import PresenceClient.Link.Address
import PresenceClient.Listener.Switchboard
import PresenceClient.Payload.Parser
import PresenceClient.Simulation
import PresenceClient.Proofs.ChannelCore
import PresenceClient.Proofs.TableOrder
import PresenceClient.Proofs.TicketBooks
import PresenceClient.Proofs.ChannelFrames
import PresenceClient.Proofs.ClientTurns
import PresenceClient.Proofs.OrderLaws
import PresenceClient.Proofs.ServerLaws
import PresenceClient.Proofs.TicketLaws
import PresenceClient.Proofs.RosterMoves
import PresenceClient.Proofs.NewestLaws
import PresenceClient.Proofs.ConnectionFrames
import PresenceClient.Proofs.ConnectionSteps
import PresenceClient.Proofs.RosterTurns
import PresenceClient.Proofs.StepOutcomes
import PresenceClient.Proofs.ConnectionRuns
import PresenceClient.Proofs.SyncLaws
import PresenceClient.Proofs.RestLaws
import PresenceClient.Proofs.Teardown
import PresenceClient.Proofs.FailureLaws
import PresenceClient.Proofs.WorkLaws
import PresenceClient.Proofs.ClientPostings
import PresenceClient.Proofs.StepPostings
import PresenceClient.Proofs.Greetings
import PresenceClient.Proofs.SerialLaws
import PresenceClient.Proofs.SendingLaws
import PresenceClient.Proofs.SnapshotLaws
import PresenceClient.Proofs.QueueLaws
import PresenceClient.Proofs.LinkHistory
import PresenceClient.Proofs.ChannelReach
import PresenceClient.Proofs.StepReach
import PresenceClient.Proofs.LinkLaws
import PresenceClient.Proofs.LiveLinkLaws
import PresenceClient.Proofs.NeighbourLaws
import PresenceClient.Proofs.RefusalLaws
import PresenceClient.Proofs.BoardLaws
import PresenceClient.Proofs.ChangeLaws
import PresenceClient.Proofs.WireLaws
import PresenceClient.Proofs.DataLaws
import PresenceClient.Proofs.PruningLaws
import PresenceClient.Proofs.StaleLaws
import PresenceClient.Proofs.AttachLaws
import PresenceClient.Proofs.ResumeLaws
import PresenceClient.Proofs.EscalationLaws
import PresenceClient.Proofs.ChannelFailures
import PresenceClient.Proofs.CursorLaws
import PresenceClient.Proofs.IdLaws
import PresenceClient.Proofs.NewnessLaws
import PresenceClient.Proofs.TimerLaws
import PresenceClient.Proofs.FieldLaws
import PresenceClient.Proofs.ReceiptLaws
import PresenceClient.Proofs.QueryLaws
import PresenceClient.Proofs.VisitLaws
import PresenceClient.Proofs.BinaryLaws
import PresenceClient.Proofs.ConsistencyLaws
import PresenceClient.Proofs.ReplayLaws
