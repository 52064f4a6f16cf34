import MockBank.Api.Handler
import MockBank.Net.Ip
import MockBank.Store.Collection
import MockBank.Synthetic.Populate
import MockBank.Proofs.Tables
import MockBank.Proofs.Decoding
import MockBank.Proofs.Publication
import MockBank.Proofs.DayForms
import MockBank.Proofs.Calendar
import MockBank.Proofs.Places
import MockBank.Proofs.WireForm
import MockBank.Proofs.Growth
import MockBank.Proofs.Requests
import MockBank.Proofs.Paging
import MockBank.Proofs.PageWalk
import MockBank.Proofs.Creation
import MockBank.Proofs.Conformance
import MockBank.Proofs.DayCount
import MockBank.Proofs.Index
import MockBank.Proofs.Insensitivity
import MockBank.Proofs.Seeding
import MockBank.Proofs.Listing
import MockBank.Proofs.CheckDigit
import MockBank.Proofs.Scanning
import MockBank.Proofs.Exactness
import MockBank.Proofs.YearToDate
import MockBank.Proofs.Overflow
import MockBank.Proofs.MadeUp
import MockBank.Proofs.Bounds
import MockBank.Proofs.Normalization
import MockBank.Proofs.Addresses
