import Datasheet.Json.Basic
import Datasheet.Table.Basic

/-!
# Tables in JSON

Cells, rows and pages of a table as JSON values. The fields of a row stand in
column order.
-/

namespace Datasheet

/-- Whole numbers below `10 ^ 15` are integers; what is not finite is null. -/
def Cell.toJson : Cell → Json
  | .missing => .null
  | .text s => .text s
  | .bool b => .bool b
  | .number x =>
    if x.isCompact then .int x.truncate else if x.isFinite then .float x else .null

def Record.toJson (r : Record) : Json := .object (r.map fun (name, cell) => (name, cell.toJson))

def TablePage.toJson (p : TablePage) : Json :=
  .object [
    ("columns", .list (p.columns.map .text)),
    ("rows", .list (p.rows.map Record.toJson)),
    ("total_rows", .int p.totalRows)]

end Datasheet
