import Atreides.Foundation.Outcome
import Atreides.Foundation.Raises
import Atreides.Foundation.Checks
import Atreides.Foundation.Dict
import Atreides.Foundation.Grouping
import Atreides.Foundation.Decimal.Basic
import Atreides.Foundation.Decimal.Exact
import Atreides.Foundation.Decimal.Cancel
import Atreides.Foundation.Decimal.SameValue
import Atreides.Foundation.Decimal.Sums
import Atreides.Foundation.Decimal.Monotone
import Atreides.Foundation.Decimal.Division
import Atreides.Foundation.Decimal.Values
import Atreides.Foundation.Decimal.Order
import Atreides.Foundation.Arithmetic
import Atreides.Foundation.Agree
import Atreides.Foundation.Tally
import Atreides.Foundation.KeyTotals
import Atreides.Foundation.RunningTotals
import Atreides.Foundation.LowestPoint
import Atreides.Foundation.AppendLog
import Atreides.Foundation.Date
import Atreides.Deadlines.Calendar
import Atreides.Deadlines.BusinessDays
import Atreides.Deadlines.Answers
import Atreides.Foundation.Text
import Atreides.Foundation.Timestamp
import Atreides.Foundation.Uuid
import Atreides.Foundation.Casing
import Atreides.Kernel
import Atreides.Books.Ledger
import Atreides.Books.StockRecord
import Atreides.Messaging.Canonical
import Atreides.Messaging.Xml
import Atreides.Messaging.XmlText
import Atreides.Messaging.XmlRoundTrip
import Atreides.Messaging.XmlPaths
import Atreides.Messaging.EmitReading
import Atreides.Messaging.Emit
import Atreides.Messaging.Readback
import Atreides.Messaging.Reconciliation
import Atreides.Messaging.ReadbackAccount
import Atreides.Messaging.ReadbackIdentifiers
import Atreides.Messaging.FinalityEvidence
import Atreides.Messaging.Receipt
import Atreides.Messaging.ReceiptSets
import Atreides.Messaging.StatusReports
import Atreides.Messaging.SettlementJoin
import Atreides.Contracts.Operation
import Atreides.Rails.Finality
import Atreides.Rails.CatoCash
import Atreides.Rails.Clearance
import Atreides.Rails.RailSafety
import Atreides.Rails.FundingState
import Atreides.Rails.Uncommitted
import Atreides.Rails.FundingExact
import Atreides.Rails.FundingHeadroom
import Atreides.Rails.FundingOrder
import Atreides.Rails.FundingQueue
import Atreides.Rails.FundingArrival
import Atreides.Rails.Strictness
import Atreides.Agents.Eligibility
import Atreides.Agents.EvidenceOrder
import Atreides.Agents.RoutingTables
import Atreides.Agents.Outputs
import Atreides.Agents.FiatOperations
import Atreides.Agents.Selection
import Atreides.Agents.Evidence
import Atreides.Rails.Cns
import Atreides.Rails.CnsSettlement
import Atreides.Rails.CnsCompletion
import Atreides.Rails.Netting
import Atreides.CustomerProtection.Common
import Atreides.CustomerProtection.Inputs
import Atreides.CustomerProtection.Control
import Atreides.CustomerProtection.Challenger
import Atreides.CustomerProtection.Reserve
import Atreides.CustomerProtection.NetCapital
import Atreides.Books.Projections
import Atreides.Books.Replay
import Atreides.Foundation.GroupTotals
import Atreides.Books.Balanced
import Atreides.Books.LocationControl
import Atreides.Books.ExcessMargin
import Atreides.Books.ExcessMarginHeld
import Atreides.Books.ExcessShare
import Atreides.Books.Journal
import Atreides.Dsor.Store
import Atreides.Foundation.HashChain
import Atreides.Dsor.Journal
import Atreides.Escalation.Register
import Atreides.Foundation.Effects
import Atreides.Agents.SettlementOperations
import Atreides.Agents.TelemetryText
import Atreides.Agents.Investigation
import Atreides.Agents.InvestigationOrder
import Atreides.Agents.SettlementEmission
import Atreides.Cockpit.ClearingCockpit
import Atreides.Cockpit.Breaks
import Atreides.Cockpit.Emission
import Atreides.Foundation.Numeral
import Atreides.Foundation.PlainNumerals
import Atreides.Acceptance.Candidate
import Atreides.Acceptance.Registry
import Atreides.Acceptance.Service
import Atreides.Acceptance.Totality
import Atreides.Acceptance.CustomerControl
import Atreides.Acceptance.Release
import Atreides.Foundation.Replay
import Atreides.CorporateActions.Events
import Atreides.CorporateActions.Lifecycle
import Atreides.Foundation.SortedSet
import Atreides.CorporateActions.Entitlement
import Atreides.CorporateActions.Movement
import Atreides.CorporateActions.Reconciliation
import Atreides.CorporateActions.Election
import Atreides.CorporateActions.Record
import Atreides.CorporateActions.Defaults
import Atreides.CorporateActions.EntitlementTotals
import Atreides.Activation.Runs
import Atreides.Foundation.Decimal.Quantize
import Atreides.Clearing.Conservation
import Atreides.Foundation.Joined
import Atreides.Foundation.Json
import Atreides.Cockpit.Reconciliation
import Atreides.Cockpit.Cycle
import Atreides.Foundation.IsoFormat
import Atreides.Agents.RailAcknowledgment
import Atreides.Margin.Engine
import Atreides.Margin.Lots
import Atreides.Margin.Invariance
import Atreides.Margin.Outcomes
import Atreides.Equities.Documents
import Atreides.Equities.Locates
import Atreides.Equities.BuyingPower
import Atreides.Deadlines.Rules
import Atreides.Deadlines.Engines
import Atreides.Deadlines.Rule204
import Atreides.Deadlines.Spelling
import Atreides.Foundation.Offset
import Atreides.CustomerProtection.Haircuts
import Atreides.CustomerProtection.HaircutInvariance
import Atreides.CustomerProtection.HaircutDigits
import Atreides.CustomerProtection.HaircutRuns
import Atreides.CustomerProtection.NetCapitalSafe
import Atreides.Simulator.Allocation
import Atreides.CustomerProtection.Offsets
import Atreides.Simulator.Market
import Atreides.Simulator.Matching
import Atreides.Simulator.MarketRuns
import Atreides.Simulator.ReserveDeposits
import Atreides.Simulator.Migration
import Atreides.MarketData.Normalize
import Atreides.MarketData.RowChecks
import Atreides.MarketData.DayChecks
import Atreides.Foundation.DateText
import Atreides.Foundation.TrimmedNumerals
import Atreides.Messaging.XmlSearch
import Atreides.Messaging.XmlLineEnds
import Atreides.CorporateActions.Iso20022.Adapter
import Atreides.CorporateActions.Iso20022.Values
import Atreides.CorporateActions.Iso20022.Opening
import Atreides.CorporateActions.Iso20022.Movements
import Atreides.CorporateActions.Iso20022.MovementReading
import Atreides.CorporateActions.Iso20022.Instructions
import Atreides.CorporateActions.Iso20022.Announcements
import Atreides.CorporateActions.Iso20022.AnnouncementTerms
import Atreides.CorporateActions.Iso20022.AnnouncementOptions
import Atreides.CorporateActions.Iso20022.AnnouncementReading
