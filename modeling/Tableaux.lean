import Tableaux.BigM
import Tableaux.CommandLine.Run
import Tableaux.Copt.Reader
import Tableaux.Grid
import Tableaux.Main
import Tableaux.Program
import Tableaux.Projection
import Tableaux.Proofs.Copt.Reader
import Tableaux.Proofs.Decimal.Binary64
import Tableaux.Proofs.Row
import Tableaux.Simplex.Run
import Tableaux.Solver.Request
import Tableaux.Solver.Response
import Tableaux.Standardized
import Tableaux.Storage.Import
import Tableaux.Proofs.Copt.Width
import Tableaux.Proofs.Copt.Limit
import Tableaux.Proofs.Leniency
import Tableaux.Proofs.Notation.Sheet
import Tableaux.Proofs.Notation.Cells
import Tableaux.Proofs.Notation.Standardized
import Tableaux.Proofs.Notation.Linear
import Tableaux.Proofs.Copt.Outline
import Tableaux.Proofs.Notation.Copt
import Tableaux.Proofs.Notation.Agreement
import Tableaux.Proofs.Json.Escape
import Tableaux.Proofs.Json.Numeral
import Tableaux.Proofs.Json.Decode
import Tableaux.Proofs.Solver.Wire
import Tableaux.Proofs.Simplex.Exchange
import Tableaux.Proofs.Solver.Retraced
import Tableaux.Proofs.Copt.Section
import Tableaux.Proofs.Reading.Warning
import Tableaux.Proofs.Copt.Filing
import Tableaux.Proofs.Copt.Entry
import Tableaux.Proofs.Layout
import Tableaux.Proofs.Standardized.Draft
import Tableaux.Proofs.Consistency
import Tableaux.Proofs.Projection
import Tableaux.Proofs.Storage.Import
import Tableaux.Proofs.CommandLine.Stages
import Tableaux.Proofs.CommandLine.Run
import Tableaux.Proofs.Culprit
import Tableaux.Proofs.Standardized.Order
import Tableaux.Proofs.Expression.Backward
import Tableaux.Proofs.Expression.Scan
import Tableaux.Proofs.Expression.Pattern
import Tableaux.Proofs.Expression.Written
import Tableaux.Proofs.Expression.Joined
import Tableaux.Proofs.Copt.Objective
import Tableaux.Proofs.Text.Replaced
import Tableaux.Proofs.Reading.Quote
import Tableaux.Proofs.Copt.Requoted
import Tableaux.Proofs.Copt.Label
import Tableaux.Proofs.Simplex.Solution
import Tableaux.Proofs.Decimal.Layout
import Tableaux.Proofs.Simplex.Text
import Tableaux.Proofs.Simplex.Pivot
import Tableaux.Proofs.Drawing
import Tableaux.Proofs.Simplex.Table
import Tableaux.Proofs.Decimal.Unpacked
import Tableaux.Proofs.Text.Form
import Tableaux.Proofs.Decimal.Number
import Tableaux.Proofs.Decimal.Reader
import Tableaux.Proofs.Grid.Number
import Tableaux.Proofs.Grid.Cell
import Tableaux.Proofs.Decimal.Nearest
import Tableaux.Proofs.Decimal.Rounded
import Tableaux.Proofs.Decimal.Rounding
import Tableaux.Proofs.Decimal.Arithmetic
import Tableaux.Proofs.Decimal.Exact
import Tableaux.Proofs.Decimal.Operation
import Tableaux.Proofs.Decimal.Neighbor
import Tableaux.Proofs.Decimal.Interval
import Tableaux.Proofs.Decimal.Brief
import Tableaux.Proofs.Decimal.Shortest
import Tableaux.Proofs.Decimal.Threshold
import Tableaux.Proofs.BigM
import Tableaux.Proofs.Decimal.Sum
import Tableaux.Proofs.Drawing.Order
import Tableaux.Proofs.Expression.Largest
import Tableaux.Proofs.Decimal.Scientific
import Tableaux.Proofs.Decimal.Meaning
import Tableaux.Proofs.BigM.Reading
import Tableaux.Proofs.Decimal.Distance
import Tableaux.Proofs.Decimal.FourPlaces
