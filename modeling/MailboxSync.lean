import MailboxSync.Action
import MailboxSync.Classification
import MailboxSync.Config
import MailboxSync.Config.Text
import MailboxSync.Cycle.Apply
import MailboxSync.Cycle.Report
import MailboxSync.Cycle.Run
import MailboxSync.Failure
import MailboxSync.Item
import MailboxSync.Notice
import MailboxSync.Orchestrator
import MailboxSync.Policy
import MailboxSync.Program
import MailboxSync.Session.Play
import MailboxSync.Session.Result
import MailboxSync.Session.Script
import MailboxSync.Session.World
import MailboxSync.Shelf
import MailboxSync.Snapshot
import MailboxSync.Store.Event
import MailboxSync.Store.Memory
import MailboxSync.Store.Tables
import MailboxSync.Table.Binary
import MailboxSync.Table.Draft
import MailboxSync.Text.Blank
import MailboxSync.Toml.Document
import MailboxSync.Toml.Scalar
import MailboxSync.Toml.Tree
import MailboxSync.Wire.Codec
import MailboxSync.Wire.Report
import MailboxSync.Wire.Value
import MailboxSync.Worker
import MailboxSync.Proofs.Classification
import MailboxSync.Proofs.Reaction
import MailboxSync.Proofs.Plan
import MailboxSync.Proofs.History
import MailboxSync.Proofs.Transaction
import MailboxSync.Proofs.PlanByName
import MailboxSync.Proofs.TakenOff
import MailboxSync.Proofs.CycleStages
import MailboxSync.Proofs.CycleKeepsLedger
import MailboxSync.Proofs.Removal
import MailboxSync.Proofs.Slot
import MailboxSync.Proofs.MemoryReaction
import MailboxSync.Proofs.CycleSlots
import MailboxSync.Proofs.Families
import MailboxSync.Proofs.Messages
import MailboxSync.Proofs.Greetings
import MailboxSync.Proofs.Convergence
import MailboxSync.Proofs.Healing
import MailboxSync.Proofs.CommandLoop
import MailboxSync.Proofs.CycleParts
import MailboxSync.Proofs.Transcript
import MailboxSync.Proofs.Exactness
import MailboxSync.Proofs.ReadMarks
import MailboxSync.Proofs.Agreement
import MailboxSync.Proofs.RequestLock
import MailboxSync.Proofs.RequestCounters
import MailboxSync.Proofs.Matching
import MailboxSync.Proofs.Interruption
import MailboxSync.Proofs.CycleOutline
import MailboxSync.Proofs.CommandsOnce
import MailboxSync.Proofs.DeviceChanges
import MailboxSync.Proofs.Locators
import MailboxSync.Proofs.RetoldOutcome
import MailboxSync.Proofs.Records
import MailboxSync.Proofs.MemoryAndTable
import MailboxSync.Proofs.Backends
import MailboxSync.Proofs.TwoServices
import MailboxSync.Proofs.Lockstep
import MailboxSync.Proofs.Orphans
import MailboxSync.Proofs.TidyTables
import MailboxSync.Proofs.TableCycle
import MailboxSync.Proofs.TableRequests
import MailboxSync.Proofs.WorkerSteps
import MailboxSync.Proofs.WorkerTurns
import MailboxSync.Proofs.WorkerLog
import MailboxSync.Proofs.WorkerShutdown
import MailboxSync.Proofs.TriggerCoverage
import MailboxSync.Proofs.TriggerAccounts
import MailboxSync.Proofs.Partition
import MailboxSync.Proofs.PolicyTable
import MailboxSync.Proofs.PlayedGreetings
import MailboxSync.Proofs.OtherFamily
import MailboxSync.Proofs.Isolation
import MailboxSync.Proofs.Reordering
import MailboxSync.Proofs.Verification
import MailboxSync.Proofs.Rows
import MailboxSync.Proofs.Atomicity
import MailboxSync.Proofs.KeptContent
import MailboxSync.Proofs.DeviceUses
import MailboxSync.Proofs.ActiveGreeting
import MailboxSync.Proofs.MirrorRoundTrip
import MailboxSync.Proofs.CompletedCycle
import MailboxSync.Proofs.FetchedContent
import MailboxSync.Proofs.Reports
import MailboxSync.Proofs.Rendering
import MailboxSync.Proofs.FirstPushes
import MailboxSync.Proofs.UniqueLocators
import MailboxSync.Proofs.ByteOrder
import MailboxSync.Proofs.SnapshotMap
import MailboxSync.Proofs.Spelling
import MailboxSync.Proofs.Lossless
