import CouponBond.Main
import CouponBond.Proofs.AllOrNothing
import CouponBond.Proofs.BalanceArithmetic
import CouponBond.Proofs.LedgerReads
import CouponBond.Proofs.LedgerInvariant
import CouponBond.Proofs.LedgerMutations
import CouponBond.Proofs.LedgerSteps
import CouponBond.Proofs.LedgerAudit
import CouponBond.Proofs.LedgerConsistency
import CouponBond.Proofs.BondCommands
import CouponBond.Proofs.BondReachable
import CouponBond.Proofs.JsonText
import CouponBond.Proofs.WireText
import CouponBond.Proofs.Restyling
import CouponBond.Proofs.WireLaws
import CouponBond.Proofs.WireForms
import CouponBond.Proofs.Agenda
import CouponBond.Proofs.BondActions
import CouponBond.Proofs.Coupled
import CouponBond.Proofs.RegistryView
import CouponBond.Proofs.LedgerAlike
import CouponBond.Proofs.BondAlike
import CouponBond.Proofs.Restoring
import CouponBond.Proofs.Sessions
import CouponBond.Proofs.RecordDates
import CouponBond.Proofs.LedgerArithmetic
import CouponBond.Proofs.Postings
import CouponBond.Proofs.AuditTrail
import CouponBond.Proofs.GuardedAccounts
import CouponBond.Proofs.WordArithmetic
import CouponBond.Proofs.Payout
import CouponBond.Proofs.ClearingMode
import CouponBond.Proofs.RestoredTerms
import CouponBond.Proofs.SnapshotLinks
import CouponBond.Proofs.RecordLives
import CouponBond.Proofs.AppendOnly
import CouponBond.Proofs.RecordDateTriggers
import CouponBond.Proofs.NamesOnRecord
import CouponBond.Proofs.MaturityDate
import CouponBond.Proofs.SnapshotLinkage
import CouponBond.Proofs.HolderOrder
import CouponBond.Proofs.WireDefaults
import CouponBond.Proofs.WireRoundTrips
import CouponBond.Proofs.SnapshotViews
import CouponBond.Proofs.TwoParties
import CouponBond.Proofs.EntitlementArithmetic
import CouponBond.Proofs.FullRedemption
import CouponBond.Proofs.Refusals
import CouponBond.Proofs.ExactEntitlements
import CouponBond.Proofs.LowestTerms
import CouponBond.Proofs.IdentifierTexts
import CouponBond.Proofs.Encumbrances
import CouponBond.Proofs.CanonicalText
import CouponBond.Proofs.ConfigDigest
import CouponBond.Proofs.KindNumbers
import CouponBond.Proofs.ArrivalOrder
import CouponBond.Proofs.ReplayTime
