import RetailPricing.Amount.Arithmetic
import RetailPricing.Amount.Basic
import RetailPricing.Amount.Rounding
import RetailPricing.Amount.Written
import RetailPricing.BinaryFloat.Basic
import RetailPricing.BinaryFloat.Numeral
import RetailPricing.BinaryFloat.Places
import RetailPricing.BinaryFloat.Written
import RetailPricing.Checkout
import RetailPricing.Datum.Basic
import RetailPricing.Datum.Literal
import RetailPricing.Datum.Number
import RetailPricing.Datum.Plain
import RetailPricing.Decimal.Basic
import RetailPricing.Decimal.Numeral
import RetailPricing.Definition.Basic
import RetailPricing.Definition.Checking
import RetailPricing.Definition.Loading
import RetailPricing.Definition.Violation
import RetailPricing.Engine.Admission
import RetailPricing.Engine.Pass
import RetailPricing.Engine.Selection
import RetailPricing.Fault
import RetailPricing.Item.Basic
import RetailPricing.Item.Discount
import RetailPricing.Journal.Basic
import RetailPricing.Journal.Lines
import RetailPricing.Journal.Log
import RetailPricing.Journal.Meter
import RetailPricing.Journal.Script
import RetailPricing.Json.Reader
import RetailPricing.Json.Trouble
import RetailPricing.Label
import RetailPricing.Proofs.Amount.Arithmetic
import RetailPricing.Proofs.Amount.Monotone
import RetailPricing.Proofs.Amount.Rounding
import RetailPricing.Proofs.Amount.Sums
import RetailPricing.Proofs.Amount.Value
import RetailPricing.Proofs.Checkout.Acceptance
import RetailPricing.Proofs.Checkout.Repricing
import RetailPricing.Proofs.Checkout.Totals
import RetailPricing.Proofs.Definition.Factories
import RetailPricing.Proofs.Definition.OneByOne
import RetailPricing.Proofs.Engine.Attempts
import RetailPricing.Proofs.Engine.BetterOffers
import RetailPricing.Proofs.Engine.ClosedForm
import RetailPricing.Proofs.Engine.ExactPricing
import RetailPricing.Proofs.Engine.Frame
import RetailPricing.Proofs.Engine.Independence
import RetailPricing.Proofs.Engine.Invariants
import RetailPricing.Proofs.Engine.Isolation
import RetailPricing.Proofs.Engine.Lanes
import RetailPricing.Proofs.Engine.PerItem
import RetailPricing.Proofs.Engine.Ranks
import RetailPricing.Proofs.Engine.ScanOrder
import RetailPricing.Proofs.Engine.Selection
import RetailPricing.Proofs.Engine.SharedItems
import RetailPricing.Proofs.Item.Bounds
import RetailPricing.Proofs.Item.Updates
import RetailPricing.Proofs.Item.Values
import RetailPricing.Proofs.Json.Numbers
import RetailPricing.Proofs.Json.Reader
import RetailPricing.Proofs.Outcome
import RetailPricing.Proofs.Rule.Factory
import RetailPricing.Proofs.RulesFile.Loading
import RetailPricing.Proofs.Shop.Basic
import RetailPricing.Proofs.Shop.Bounds
import RetailPricing.Proofs.Shop.Separation
import RetailPricing.Proofs.Storefront.Scans
import RetailPricing.Proofs.Text.Utf8
import RetailPricing.Report
import RetailPricing.Rule.Basic
import RetailPricing.Rule.Factory
import RetailPricing.RulesFile
import RetailPricing.Service
import RetailPricing.Settings
import RetailPricing.Storefront
import RetailPricing.Template.Basic
import RetailPricing.Template.Filling
import RetailPricing.Text.Ascii
import RetailPricing.Text.Basic
import RetailPricing.Text.Characters
import RetailPricing.Text.CasedRanges
import RetailPricing.Text.LetterCase
import RetailPricing.Text.Printable
import RetailPricing.Text.Quoted
import RetailPricing.Text.Utf8
import RetailPricing.Value
import RetailPricing.Proofs.Engine.IllTyped
import RetailPricing.Proofs.Engine.DeclarationOrder
import RetailPricing.Proofs.Json.Grammar
import RetailPricing.Proofs.Json.RoundTrip
import RetailPricing.Proofs.RulesFile.Survival
import RetailPricing.Proofs.Value.Order
import RetailPricing.Proofs.Rule.Evaluation
import RetailPricing.Proofs.Engine.Growth
import RetailPricing.Proofs.Engine.Unrelated
import RetailPricing.Proofs.Definition.UnknownKinds
import RetailPricing.Proofs.Engine.Metering
import RetailPricing.Proofs.Label.Readers
import RetailPricing.Proofs.WellFormed
