import PrepaidLedger.Card.Basic
import PrepaidLedger.Card.Decline
import PrepaidLedger.Card.Json
import PrepaidLedger.Client.Http
import PrepaidLedger.Client.Notifier
import PrepaidLedger.Client.Provider
import PrepaidLedger.Config
import PrepaidLedger.Config.Json
import PrepaidLedger.Digest.Hmac
import PrepaidLedger.Digest.Sha256
import PrepaidLedger.DomainName.Basic
import PrepaidLedger.DomainName.DirectionTable
import PrepaidLedger.DomainName.ExclusionTable
import PrepaidLedger.DomainName.FormTable
import PrepaidLedger.DomainName.JoiningTable
import PrepaidLedger.DomainName.Label
import PrepaidLedger.DomainName.Mapping
import PrepaidLedger.DomainName.Punycode
import PrepaidLedger.Engine.Collection
import PrepaidLedger.Engine.Delivery
import PrepaidLedger.Engine.Dispatch
import PrepaidLedger.Engine.Effects
import PrepaidLedger.Engine.Json
import PrepaidLedger.Engine.Program
import PrepaidLedger.Engine.Settings
import PrepaidLedger.Engine.World
import PrepaidLedger.Engine.Write
import PrepaidLedger.Error
import PrepaidLedger.Event.Envelope
import PrepaidLedger.Event.Json
import PrepaidLedger.Event.Outcome
import PrepaidLedger.Event.Profile
import PrepaidLedger.Event.Transaction
import PrepaidLedger.Json.Basic
import PrepaidLedger.Json.Draft
import PrepaidLedger.Json.Fields
import PrepaidLedger.Json.Literal
import PrepaidLedger.Json.Parser
import PrepaidLedger.Json.Printer
import PrepaidLedger.Json.Shape
import PrepaidLedger.Ledger.Balance
import PrepaidLedger.Ledger.Fee
import PrepaidLedger.Ledger.Json
import PrepaidLedger.Ledger.Line
import PrepaidLedger.Ledger.Transition
import PrepaidLedger.Lock.Key
import PrepaidLedger.Lock.Local
import PrepaidLedger.Notice
import PrepaidLedger.Number.Binary64
import PrepaidLedger.Number.Decimal
import PrepaidLedger.Number.Shortest
import PrepaidLedger.Proofs.Engine.Aftermath
import PrepaidLedger.Proofs.Engine.Change
import PrepaidLedger.Proofs.Engine.Incoming
import PrepaidLedger.Proofs.Engine.Isolation
import PrepaidLedger.Proofs.Engine.Preparation
import PrepaidLedger.Proofs.Engine.Running
import PrepaidLedger.Proofs.Engine.Serial
import PrepaidLedger.Proofs.Engine.Transaction
import PrepaidLedger.Proofs.Engine.Unapplied
import PrepaidLedger.Proofs.Ledger.Conservation
import PrepaidLedger.Proofs.Ledger.Filing
import PrepaidLedger.Proofs.Ledger.Terms
import PrepaidLedger.Proofs.Ledger.Words
import PrepaidLedger.Proofs.Specimen
import PrepaidLedger.Proofs.Store.Rows
import PrepaidLedger.Proofs.Traffic.Advance
import PrepaidLedger.Proofs.Traffic.Basic
import PrepaidLedger.Proofs.Traffic.Crossing
import PrepaidLedger.Proofs.Traffic.Counterpart
import PrepaidLedger.Rehearsal.Parties
import PrepaidLedger.Rehearsal.Rows
import PrepaidLedger.Rehearsal.Stage
import PrepaidLedger.Rehearsal.Transcript
import PrepaidLedger.Sql.Migration
import PrepaidLedger.Sql.Row
import PrepaidLedger.Sql.Schema
import PrepaidLedger.Sql.Server
import PrepaidLedger.Sql.Statement
import PrepaidLedger.Sql.Store
import PrepaidLedger.Sql.Table
import PrepaidLedger.Store.Backend
import PrepaidLedger.Store.Call
import PrepaidLedger.Store.Fault
import PrepaidLedger.Store.Json
import PrepaidLedger.Store.Memory
import PrepaidLedger.Store.Tables
import PrepaidLedger.Text.Blank
import PrepaidLedger.Text.CaseTable
import PrepaidLedger.Text.CombiningTable
import PrepaidLedger.Text.Composition
import PrepaidLedger.Text.CompositionTable
import PrepaidLedger.Text.Hex
import PrepaidLedger.Text.Integer
import PrepaidLedger.Text.LowerCase
import PrepaidLedger.Text.Range
import PrepaidLedger.Text.Split
import PrepaidLedger.Timestamp
import PrepaidLedger.Url.Basic
import PrepaidLedger.Url.Host
import PrepaidLedger.Uuid
import PrepaidLedger.Vocabulary
import PrepaidLedger.Web.App
import PrepaidLedger.Web.Error
import PrepaidLedger.Web.Signature
import PrepaidLedger.Proofs.Engine.LedgerEvent
import PrepaidLedger.Proofs.Engine.Charges
import PrepaidLedger.Proofs.Engine.CardLocks
import PrepaidLedger.Proofs.Ledger.Accounts
import PrepaidLedger.Proofs.Ledger.Landing
import PrepaidLedger.Proofs.Ledger.OtherKind
import PrepaidLedger.Proofs.Ledger.Redelivery
import PrepaidLedger.Proofs.Ledger.PendingDeposit
import PrepaidLedger.Proofs.Ledger.Journal
import PrepaidLedger.Proofs.Ledger.Credit
import PrepaidLedger.Proofs.Ledger.Mirror
import PrepaidLedger.Proofs.Ledger.Sweep
import PrepaidLedger.Proofs.Ledger.Bounds
import PrepaidLedger.Proofs.Profile.Delivered
import PrepaidLedger.Proofs.Profile.Shadow
import PrepaidLedger.Proofs.Profile.Overtaken
import PrepaidLedger.Proofs.Card.Declines
import PrepaidLedger.Proofs.Card.Blocking
import PrepaidLedger.Proofs.Concurrent.Basic
import PrepaidLedger.Proofs.Concurrent.Session
import PrepaidLedger.Proofs.Concurrent.Balances
import PrepaidLedger.Proofs.Concurrent.Interleaved
import PrepaidLedger.Proofs.Concurrent.Alone
import PrepaidLedger.Proofs.Ledger.Parties
import PrepaidLedger.Proofs.Ledger.Repetition
import PrepaidLedger.Proofs.Ledger.Hold
import PrepaidLedger.Proofs.Ledger.Independence
import PrepaidLedger.Proofs.Engine.Course
import PrepaidLedger.Proofs.Ledger.Announcements
import PrepaidLedger.Proofs.Ledger.Authorization
import PrepaidLedger.Proofs.Traffic.Background
import PrepaidLedger.Proofs.Traffic.Apart
import PrepaidLedger.Proofs.Ledger.Billing
import PrepaidLedger.Proofs.Traffic.Charging
import PrepaidLedger.Proofs.Engine.Relaying
import PrepaidLedger.Proofs.Engine.Failures
import PrepaidLedger.Proofs.Engine.Faltering
import PrepaidLedger.Proofs.Engine.Leavings
import PrepaidLedger.Proofs.Ledger.Footprint
import PrepaidLedger.Proofs.Card.Standing
import PrepaidLedger.Proofs.Web.Signed
import PrepaidLedger.Proofs.Profile.Repeated
import PrepaidLedger.Proofs.Lock.Order
import PrepaidLedger.Proofs.Lock.Stranded
import PrepaidLedger.Proofs.Concurrent.Uniqueness
import PrepaidLedger.Proofs.Ledger.Verdicts
import PrepaidLedger.Proofs.Profile.AddressBook
import PrepaidLedger.Proofs.Lock.Leftover
import PrepaidLedger.Proofs.Sql.Alike
import PrepaidLedger.Proofs.Event.Tidying
import PrepaidLedger.Proofs.Ledger.Quotes
import PrepaidLedger.Proofs.Card.Reasons
import PrepaidLedger.Proofs.Lock.Keys
