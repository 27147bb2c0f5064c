import Spreadsheet.Main
import Spreadsheet.Proofs.Graph.Edits
import Spreadsheet.Proofs.Graph.Entries
import Spreadsheet.Proofs.Graph.Drain
import Spreadsheet.Proofs.Graph.Search
import Spreadsheet.Proofs.Graph.Cycles
import Spreadsheet.Proofs.Graph.Parts
import Spreadsheet.Proofs.Graph.Schedule
import Spreadsheet.Proofs.Graph.Counters
import Spreadsheet.Proofs.Address
import Spreadsheet.Proofs.Text.Runs
import Spreadsheet.Proofs.Text.Cut
import Spreadsheet.Proofs.Text.Blank
import Spreadsheet.Proofs.Range
import Spreadsheet.Proofs.Range.Enumeration
import Spreadsheet.Proofs.Range.Text
import Spreadsheet.Proofs.Decimal.Rounding
import Spreadsheet.Proofs.Decimal.Nearest
import Spreadsheet.Proofs.Decimal.Double
import Spreadsheet.Proofs.Decimal.Exact
import Spreadsheet.Proofs.Decimal.Written
import Spreadsheet.Proofs.Number
import Spreadsheet.Proofs.Number.Nearest
import Spreadsheet.Proofs.Formula.Requests
import Spreadsheet.Proofs.Formula.Course
import Spreadsheet.Proofs.Formula.Unlimited
import Spreadsheet.Proofs.Formula.Source
import Spreadsheet.Proofs.Formula.Ceiling
import Spreadsheet.Proofs.Formula.CutShort
import Spreadsheet.Proofs.Formula.Lexemes
import Spreadsheet.Proofs.Formula.Rescanning
import Spreadsheet.Proofs.Formula.Respacing
import Spreadsheet.Proofs.Formula.Separators
import Spreadsheet.Proofs.Formula.Spelling
import Spreadsheet.Proofs.Formula.Parsing
import Spreadsheet.Proofs.Formula.Descent
import Spreadsheet.Proofs.Formula.Height
import Spreadsheet.Proofs.Formula.Unclosed
import Spreadsheet.Proofs.Formula.Asking
import Spreadsheet.Proofs.Formula.Mentions
import Spreadsheet.Proofs.Formula.Locality
import Spreadsheet.Proofs.Formula.References
import Spreadsheet.Proofs.Formula.Summing
import Spreadsheet.Proofs.Formula.Room
import Spreadsheet.Proofs.Formula.Balance
import Spreadsheet.Proofs.Sheet.Grid
import Spreadsheet.Proofs.Sheet.Listing
import Spreadsheet.Proofs.Sheet.Writes
import Spreadsheet.Proofs.Sheet.Entering
import Spreadsheet.Proofs.Sheet.Naming
import Spreadsheet.Proofs.Sheet.Growth
import Spreadsheet.Proofs.Sheet.Computation
import Spreadsheet.Proofs.Sheet.Fixpoint
import Spreadsheet.Proofs.Sheet.Redisplay
import Spreadsheet.Proofs.Sheet.History
import Spreadsheet.Proofs.Sheet.Frame
import Spreadsheet.Proofs.Sheet.Reach
import Spreadsheet.Proofs.Sheet.Calls
import Spreadsheet.Proofs.Sheet.Recursion
import Spreadsheet.Proofs.Sheet.Account
import Spreadsheet.Proofs.Sheet.Ledger
import Spreadsheet.Proofs.Sheet.Chains
import Spreadsheet.Proofs.Sheet.Lasting
import Spreadsheet.Proofs.Sheet.Repeating
import Spreadsheet.Proofs.Sheet.Dependence
import Spreadsheet.Proofs.Sheet.Demand
import Spreadsheet.Proofs.CommandLine.Loading
