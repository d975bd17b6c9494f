import Datasheet.Profile.Basic
import Datasheet.Table.Report

/-!
# Profiles in JSON

A profile is written as one object for each kind of fact, with a field for each
column. The summaries are left out if no column is numeric.
-/

namespace Datasheet

/-- A number that is not finite is null. -/
def Binary64.toJson (x : Binary64) : Json := if x.isFinite then .float x else .null

def Summary.toJson (s : Summary) : Json :=
  .object [
    ("count", .int s.count),
    ("mean", s.mean.toJson),
    ("std", (s.std.map Binary64.toJson).getD .null),
    ("min", s.min.toJson),
    ("25%", s.quartile1.toJson),
    ("50%", s.median.toJson),
    ("75%", s.quartile3.toJson),
    ("max", s.max.toJson)]

namespace Profile

/-- An object with a field for each column. -/
def byColumn (p : Profile) (fact : ColumnProfile → Json) : Json :=
  .object (p.columns.map fun c => (c.name, fact c))

def toJson (p : Profile) : Json :=
  let counts (top : List (String × Nat)) : Json :=
    .object (top.map fun (key, count) => (key, .int count))
  let stats : List (String × Json) :=
    if p.numericStats.isEmpty then []
    else [("numeric_stats", .object (p.numericStats.map fun (name, s) => (name, s.toJson)))]
  .object ([
    ("rows", .int p.rows),
    ("columns", .int p.columns.length),
    ("column_names", .list (p.columns.map fun c => .text c.name)),
    ("column_types", p.byColumn fun c => .text c.type.display),
    ("missing_values", p.byColumn fun c => .int c.missing),
    ("missing_percentage", p.byColumn fun c => c.missingPercentage.toJson),
    ("unique_values", p.byColumn fun c => .int c.unique),
    ("top_values", p.byColumn fun c => counts c.top)]
    ++ stats
    ++ [("preview", .list (p.preview.map Record.toJson))])

end Profile

end Datasheet
