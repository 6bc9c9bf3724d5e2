import CampusQuery.Number.Decimal
import CampusQuery.Text.Blank
import CampusQuery.Text.Lowercase
import CampusQuery.Text.Quoted
import CampusQuery.Text.Width
import CampusQuery.NameMap
import CampusQuery.StableSort
import CampusQuery.Json.Reader
import CampusQuery.Json.Printer
import CampusQuery.Scope
import CampusQuery.Dataset
import CampusQuery.Answer
import CampusQuery.Catalog
import CampusQuery.Memory
import CampusQuery.Document.Dataset
import CampusQuery.Document.Settings
import CampusQuery.Report.Render
import CampusQuery.Main
import CampusQuery.Proofs.Keys
import CampusQuery.Proofs.Patterns
import CampusQuery.Proofs.Filters
import CampusQuery.Proofs.Records
import CampusQuery.Proofs.Surface
import CampusQuery.Proofs.Conditions
import CampusQuery.Proofs.NameMaps
import CampusQuery.Proofs.Columns
import CampusQuery.Proofs.Transformations
import CampusQuery.Proofs.Plans
import CampusQuery.Proofs.Language
import CampusQuery.Proofs.Grouping
import CampusQuery.Proofs.Rows
import CampusQuery.Proofs.StableSorts
import CampusQuery.Proofs.Safety
import CampusQuery.Proofs.Readings
import CampusQuery.Proofs.Evaluation
import CampusQuery.Proofs.Sorting
import CampusQuery.Proofs.Ordering
import CampusQuery.Proofs.Answers
import CampusQuery.Proofs.Contradictions
import CampusQuery.Proofs.Places
import CampusQuery.Proofs.Truth
import CampusQuery.Proofs.GroupRows
import CampusQuery.Proofs.Rearrangement
import CampusQuery.Proofs.DrillDown
import CampusQuery.Proofs.Arrangement
import CampusQuery.Proofs.Rewriting
import CampusQuery.Proofs.Independence
import CampusQuery.Proofs.Finiteness
import CampusQuery.Proofs.Overflow
import CampusQuery.Proofs.Sortable
import CampusQuery.Proofs.Validity
import CampusQuery.Proofs.Catalogs
import CampusQuery.Proofs.CatalogRuns
import CampusQuery.Proofs.Lookups
import CampusQuery.Proofs.Registration
import CampusQuery.Proofs.Counting
import CampusQuery.Proofs.Loading
import CampusQuery.Proofs.Sessions
import CampusQuery.Proofs.Spelling
import CampusQuery.Proofs.BitPatterns
import CampusQuery.Proofs.Decimals
import CampusQuery.Proofs.Sums
import CampusQuery.Proofs.Derivations
import CampusQuery.Proofs.Extremes
import CampusQuery.Proofs.Nearest
import CampusQuery.Proofs.HalfCents
import CampusQuery.Proofs.SingleValues
import CampusQuery.Proofs.CsvReading
import CampusQuery.Proofs.PrintedRecords
import CampusQuery.Proofs.Headers
import CampusQuery.Proofs.JsonReading
import CampusQuery.Proofs.Sources
import CampusQuery.Proofs.Forms
import CampusQuery.Proofs.Documents
import CampusQuery.Proofs.Identities
