import Letterhead.Command.Session
import Letterhead.Main
import Letterhead.Proofs.Document.Content
import Letterhead.Proofs.Document.Parts
import Letterhead.Proofs.Page.Wrapping
import Letterhead.Proofs.Page.Width
import Letterhead.Proofs.Page.Pagination
import Letterhead.Proofs.Page.Breaks
import Letterhead.Proofs.Document.Wrappers
import Letterhead.Proofs.Text.Casing
import Letterhead.Proofs.Brand.Registry
import Letterhead.Proofs.Document.Branding
import Letterhead.Proofs.Json.Records
import Letterhead.Proofs.Template.Grammar
import Letterhead.Proofs.Document.Restyling
import Letterhead.Proofs.Page.Styling
import Letterhead.Proofs.Document.Margins
import Letterhead.Proofs.Text.Words
import Letterhead.Proofs.Page.Cutting
import Letterhead.Proofs.Page.Filling
import Letterhead.Proofs.Page.Keeping
import Letterhead.Proofs.Page.Striking
import Letterhead.Proofs.Page.Columns
import Letterhead.Proofs.Page.Sharing
import Letterhead.Proofs.Money.Exact
import Letterhead.Proofs.Block.Totals
import Letterhead.Proofs.Block.Services
import Letterhead.Proofs.Block.ListPrice
import Letterhead.Proofs.Block.Fees
import Letterhead.Proofs.Money.Display
import Letterhead.Proofs.Variable.Facets
import Letterhead.Proofs.Variable.Paths
import Letterhead.Proofs.Text.Trimming
import Letterhead.Proofs.Block.Summary
import Letterhead.Proofs.Template.Fields
import Letterhead.Proofs.Template.Recovery
import Letterhead.Proofs.Template.Spelling
import Letterhead.Proofs.Context.Absence
import Letterhead.Proofs.Template.Absence
import Letterhead.Proofs.Json.Ascending
import Letterhead.Proofs.Template.Faults
import Letterhead.Proofs.Brand.History
import Letterhead.Proofs.Decimal.Digits
import Letterhead.Proofs.Money.Currency
import Letterhead.Proofs.Decimal.Value
import Letterhead.Proofs.Money.Numbers
import Letterhead.Proofs.Storage.Containment
import Letterhead.Proofs.Storage.Naming
import Letterhead.Proofs.Decimal.Shortest
import Letterhead.Proofs.Decimal.Single
import Letterhead.Proofs.Json.Numbers
import Letterhead.Proofs.Json.Meaning
import Letterhead.Proofs.Document.Reconstruction
import Letterhead.Proofs.Document.Quotation
import Letterhead.Proofs.Page.Sparing
import Letterhead.Proofs.Decimal.Double
import Letterhead.Proofs.Command.Targets
import Letterhead.Proofs.Command.Runs
import Letterhead.Proofs.Template.Settings
import Letterhead.Proofs.Calendar.Counting
import Letterhead.Proofs.Calendar.Spelling
import Letterhead.Proofs.Block.Validity
import Letterhead.Proofs.Document.Boundaries
import Letterhead.Proofs.Page.Rewrapping
