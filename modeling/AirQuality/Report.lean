import AirQuality.Region
import AirQuality.Summary
import AirQuality.Table

/-!
# Reports

A report holds the summaries of a region.  It can be written as an object and as a table with a
row for each summary; in a table all timestamps have to be written in the form of the first.
-/

namespace AirQuality

namespace Summary

def fields (summary : Summary) : List (String × Json) :=
  [("canonical_key", .text summary.key), ("display_name", summary.displayName),
    ("unit", summary.unit), ("description", summary.description),
    ("contributing_sources", .list (summary.sources.map .text)),
    ("average_value", .float summary.average), ("min_value", .float summary.least),
    ("max_value", .float summary.greatest), ("sample_count", .int summary.count),
    ("latest_value", .float summary.latestValue),
    ("latest_timestamp", .text summary.latestMoment.iso)]

def toJson (summary : Summary) : Json := .object summary.fields

/-- The names of the fields, in order. -/
def columns : List String :=
  ["canonical_key", "display_name", "unit", "description", "contributing_sources",
    "average_value", "min_value", "max_value", "sample_count", "latest_value",
    "latest_timestamp"]

/-- Whether the written form of the latest moment has microseconds. -/
def showsMicros (summary : Summary) : Bool :=
  summary.latestMoment.wall % Time.microsPerSecond ≠ 0

end Summary

structure Report where
  region : Region
  summaries : List Summary

namespace Report

def isEmpty (report : Report) : Bool := report.summaries.isEmpty

/-- The summary of a canonical key. -/
def get? (report : Report) (key : String) : Option Summary :=
  report.summaries.find? fun summary => summary.key = key

def toJson (report : Report) : Json :=
  .object [("region", .text report.region.name),
    ("parameters", .list (report.summaries.map Summary.toJson))]

/-- Whether all moments are written in the form of the first. -/
def hasUniformMoments (report : Report) : Bool :=
  match report.summaries with
  | [] => true
  | first :: rest => rest.all fun summary => summary.showsMicros = first.showsMicros

/-- The moments of the summaries as cells. -/
def momentCells (report : Report) : List Cell :=
  report.summaries.map fun summary => .instant (some (summary.latestMoment.instant * 1000))

def momentColumn : String := "latest_timestamp"

def regionColumn : String := "region"

/-- A table of the summaries without their region. -/
def bareTable (report : Report) : Except Failure Table :=
  Table.ofRows Summary.columns (report.summaries.map fun summary => summary.fields.map (·.2))

/-- A table with a row for each summary. -/
def toTable (report : Report) : Except Failure Table := do
  let table ← report.bareTable
  if report.hasUniformMoments then
    let place ← table.place momentColumn
    let dated := table.setColumn place (.instants false) report.momentCells
    pure (dated.insertFirst regionColumn (.text report.region.name))
  else .error (.table .mixedTimestampForms)

end Report

end AirQuality
