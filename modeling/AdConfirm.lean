import AdConfirm.Ad.Sample
import AdConfirm.Dispatch.Machine
import AdConfirm.Main
import AdConfirm.Policy.Machine
import AdConfirm.Tab.Exchange
import AdConfirm.Proofs.Agenda
import AdConfirm.Proofs.Dispatch.Play
import AdConfirm.Proofs.Dispatch.SingleDrain
import AdConfirm.Proofs.Dispatch.SingleCall
import AdConfirm.Proofs.Dispatch.NewestFirst
import AdConfirm.Proofs.Dispatch.Balance
import AdConfirm.Proofs.Dispatch.Timetable
import AdConfirm.Proofs.Pipeline.Event
import AdConfirm.Proofs.History
import AdConfirm.Proofs.Outcome
import AdConfirm.Proofs.Tab.Slot
import AdConfirm.Proofs.Tab.Run
import AdConfirm.Proofs.Pipeline.Line
import AdConfirm.Proofs.Pipeline.Request
import AdConfirm.Proofs.Tab.Attempt
import AdConfirm.Proofs.Pipeline.Stored
import AdConfirm.Proofs.Cli.Replay
import AdConfirm.Proofs.Ad.Draft
import AdConfirm.Proofs.Ad.Page
import AdConfirm.Proofs.Ad.Defect
import AdConfirm.Proofs.Orderly
import AdConfirm.Proofs.Table
import AdConfirm.Proofs.Policy.Lay
import AdConfirm.Proofs.Policy.Rebuild
import AdConfirm.Proofs.Policy.Play
import AdConfirm.Proofs.Policy.Timer
import AdConfirm.Proofs.Policy.Leaves
import AdConfirm.Proofs.Yaml
import AdConfirm.Proofs.Policy.Layers
import AdConfirm.Proofs.Policy.Live
import AdConfirm.Proofs.Policy.Expiration
import AdConfirm.Proofs.Text
import AdConfirm.Proofs.Policy.WellFormed
import AdConfirm.Proofs.Policy.Failure
import AdConfirm.Proofs.Policy.Defect
import AdConfirm.Proofs.Policy.Revision
import AdConfirm.Proofs.Policy.Sole
import AdConfirm.Proofs.Policy.Restore
import AdConfirm.Proofs.Policy.Ways
import AdConfirm.Proofs.Policy.Hosts
import AdConfirm.Proofs.Policy.Reorder
import AdConfirm.Proofs.Tab.Taken
import AdConfirm.Proofs.Tab.Parked
import AdConfirm.Proofs.Tab.Metrics
import AdConfirm.Proofs.Tab.Alone
import AdConfirm.Proofs.Pipeline.Frame
import AdConfirm.Proofs.Pipeline.Settling
import AdConfirm.Proofs.Pipeline.Attempt
import AdConfirm.Proofs.Pipeline.Chronicle
import AdConfirm.Proofs.Pipeline.UnderWay
import AdConfirm.Proofs.Pipeline.Fetch
import AdConfirm.Proofs.Pipeline.Clock
import AdConfirm.Proofs.Pipeline.LawfulRuns
import AdConfirm.Proofs.Pipeline.Ingested
import AdConfirm.Proofs.Pipeline.Overtaken
import AdConfirm.Proofs.Pipeline.Deadline
import AdConfirm.Proofs.Pipeline.Erasure
import AdConfirm.Proofs.Pipeline.DocumentErasure
import AdConfirm.Proofs.Pipeline.Lockstep
import AdConfirm.Proofs.Pipeline.Unseen
import AdConfirm.Proofs.Pipeline.Listener
import AdConfirm.Proofs.Pipeline.ListenerTask
import AdConfirm.Proofs.Pipeline.Published
import AdConfirm.Proofs.Pipeline.AdMoves
import AdConfirm.Proofs.Pipeline.Ledger
import AdConfirm.Proofs.Pipeline.Accounts
import AdConfirm.Proofs.Pipeline.Gathered
import AdConfirm.Proofs.Pipeline.QueueTraffic
import AdConfirm.Proofs.Pipeline.DrainTask
import AdConfirm.Proofs.Pipeline.Flush
import AdConfirm.Proofs.Pipeline.Hooks
import AdConfirm.Proofs.Cli.Modes
import AdConfirm.Proofs.Json.RoundTrip
import AdConfirm.Proofs.Page.RoundTrip
