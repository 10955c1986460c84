import Passbook.Text.Quoted
import Passbook.Text.Uppercase
import Passbook.Text.Whole
import Passbook.Text.Percent
import Passbook.Decimal.Shortest
import Passbook.Digest.Md5
import Passbook.Json.Printer
import Passbook.Json.Reader
import Passbook.Time.Reader
import Passbook.Time.Month
import Passbook.Act
import Passbook.Journal.Record
import Passbook.Store.Tables
import Passbook.Orders
import Passbook.Settings
import Passbook.Shelf
import Passbook.Migration.Migrator
import Passbook.Migration.Script
import Passbook.Http.Service
import Passbook.Call
import Passbook.Plan
import Passbook.Errand
import Passbook.Launch
import Passbook.Main
import Passbook.Journal.Logger
import Passbook.Remote.Rows
import Passbook.Store.Address
import Passbook.Migration.Step
import Passbook.Migration.Script.Grammar
import Passbook.Proofs.Sessions
import Passbook.Proofs.Statements
import Passbook.Proofs.Errands
import Passbook.Proofs.Units
import Passbook.Proofs.Rows
import Passbook.Proofs.Books
import Passbook.Proofs.Turns
import Passbook.Proofs.Bookkeeping
import Passbook.Proofs.Operations
import Passbook.Proofs.Postings
import Passbook.Proofs.Runs
import Passbook.Proofs.Fresh
import Passbook.Proofs.Audit
import Passbook.Proofs.Reservations
import Passbook.Proofs.Conservation
import Passbook.Proofs.Chronicles
import Passbook.Proofs.Courses
import Passbook.Proofs.Writes
import Passbook.Proofs.WellFormed
import Passbook.Proofs.Stamps
import Passbook.Proofs.AppendOnly
import Passbook.Proofs.Lifecycle
import Passbook.Proofs.Leftovers
import Passbook.Proofs.Shelves
import Passbook.Proofs.Expiry
import Passbook.Proofs.Months
import Passbook.Proofs.Revenue
import Passbook.Proofs.Reports
import Passbook.Proofs.Moves
import Passbook.Proofs.Coherence
import Passbook.Proofs.Outcomes
import Passbook.Proofs.Demands
import Passbook.Proofs.Service
import Passbook.Proofs.Requests
import Passbook.Proofs.Statuses
import Passbook.Proofs.Timestamps
import Passbook.Proofs.Attempts
import Passbook.Proofs.Upkeep
import Passbook.Proofs.Trails
import Passbook.Proofs.Independence
import Passbook.Proofs.Credits
import Passbook.Proofs.Leases
import Passbook.Proofs.Banking
import Passbook.Proofs.Transfers
import Passbook.Proofs.Openings
import Passbook.Proofs.Pages
import Passbook.Proofs.Availability
import Passbook.Proofs.Deposits
import Passbook.Proofs.Endings
import Passbook.Proofs.Balances
import Passbook.Proofs.Sweeps
import Passbook.Proofs.Rollbacks
import Passbook.Proofs.Lines
import Passbook.Proofs.Moments
import Passbook.Proofs.Passwords
