import Datasheet.Csv.Document
import Datasheet.Csv.Writer
import Datasheet.Formula.Compile
import Datasheet.Profile.Report
import Datasheet.Proofs.Csv.Conservation
import Datasheet.Proofs.Csv.Document
import Datasheet.Proofs.Csv.Download
import Datasheet.Proofs.Csv.Priority
import Datasheet.Proofs.Csv.Records
import Datasheet.Proofs.Csv.RoundTrip
import Datasheet.Proofs.Csv.SingleColumn
import Datasheet.Proofs.Formula.ColumnOrder
import Datasheet.Proofs.Formula.Finiteness
import Datasheet.Proofs.Formula.Lexemes
import Datasheet.Proofs.Formula.Literals
import Datasheet.Proofs.Formula.OwnNames
import Datasheet.Proofs.Formula.Rendering
import Datasheet.Proofs.Formula.Textless
import Datasheet.Proofs.Formula.UnusedColumns
import Datasheet.Proofs.Profile.Integers
import Datasheet.Proofs.Profile.Numeric
import Datasheet.Proofs.Profile.Quartiles
import Datasheet.Proofs.Profile.RowOrder
import Datasheet.Proofs.Profile.Saving
import Datasheet.Proofs.Profile.TopValues
import Datasheet.Proofs.Profile.TypeOrder
import Datasheet.Proofs.Rule.Frame
import Datasheet.Proofs.Service.Calls
import Datasheet.Proofs.Service.Disclosure
import Datasheet.Proofs.Service.FormContent
import Datasheet.Proofs.Service.History
import Datasheet.Proofs.Service.TableRequests
import Datasheet.Proofs.Sheet.Grid
import Datasheet.Proofs.Upload.Encodings
import Datasheet.Rule.Apply
import Datasheet.Service.Basic
import Datasheet.Settings.Sources
import Datasheet.Upload.Load
