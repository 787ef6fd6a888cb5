import FleetCompliance.Main
import FleetCompliance.Proofs.Greedy
import FleetCompliance.Proofs.CountLedger
import FleetCompliance.Proofs.Gathering
import FleetCompliance.Proofs.Submission
import FleetCompliance.Proofs.BatchRun
import FleetCompliance.Proofs.FirstMatch
import FleetCompliance.Proofs.Found
import FleetCompliance.Proofs.Latest
import FleetCompliance.Proofs.Uniqueness
import FleetCompliance.Proofs.ReplayAgreement
import FleetCompliance.Proofs.Relaxation
import FleetCompliance.Proofs.Newcomer
import FleetCompliance.Proofs.Explanation
import FleetCompliance.Proofs.Independence
import FleetCompliance.Proofs.FirstRule
import FleetCompliance.Proofs.Reordering
import FleetCompliance.Proofs.AllOrNothing
import FleetCompliance.Proofs.Totals
import FleetCompliance.Proofs.Losslessness
import FleetCompliance.Proofs.Records
import FleetCompliance.Proofs.Replacement
import FleetCompliance.Proofs.PolicyDocument
import FleetCompliance.Proofs.Kept
import FleetCompliance.Proofs.GeographyDocument
import FleetCompliance.Proofs.FleetDocument
import FleetCompliance.Proofs.EvenOdd
import FleetCompliance.Proofs.Noninterference
import FleetCompliance.Proofs.Plane
import FleetCompliance.Proofs.Extent
import FleetCompliance.Proofs.Division
import FleetCompliance.Proofs.Redrawing
import FleetCompliance.Proofs.Greatest
import FleetCompliance.Proofs.Newest
import FleetCompliance.Proofs.Narrowing
import FleetCompliance.Proofs.StoredFleet
import FleetCompliance.Proofs.Succession
import FleetCompliance.Proofs.Dial
import FleetCompliance.Proofs.Digits
import FleetCompliance.Proofs.Calendar
import FleetCompliance.Proofs.WrittenInstants
import FleetCompliance.Proofs.Attempts
import FleetCompliance.Proofs.UnknownKind
import FleetCompliance.Proofs.History
import FleetCompliance.Proofs.TypedEvaluation
import FleetCompliance.Proofs.Backoff
import FleetCompliance.Proofs.Layers
import FleetCompliance.Proofs.Hexadecimal
import FleetCompliance.Proofs.WrittenIdentifiers
import FleetCompliance.Proofs.WrittenTimes
import FleetCompliance.Proofs.Tallies
