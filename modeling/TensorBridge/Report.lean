import TensorBridge.Literal
import TensorBridge.Json.Reader

/-!
# Reports

The two forms in which results are shown: lines of text with one literal each, or a JSON array
with one object for each tensor.  A value goes into the JSON array as the number that its text
spells; the texts of the infinities and of what is no number spell none and stay strings.
-/

namespace TensorBridge

/-- The form of a report. -/
inductive ReportFormat where
  /-- Lines of text. -/
  | text
  /-- A JSON value. -/
  | json
deriving DecidableEq, Repr

/-- The JSON value that a text spells, or else the text itself. -/
def Json.ofText (text : String) : Json :=
  (Json.read? text.toList).getD (.string text)

/-- The JSON object that describes the tensor at a position. -/
def Tensor.report (index : Nat) (tensor : Tensor) : Json :=
  .object [
    ("index", .number (.integer index)),
    ("element_type", .string tensor.elementType.token),
    ("shape", .array (tensor.shape.map fun d => .number (.integer d.toInt))),
    ("values", .array (tensor.valueTexts.map Json.ofText))]

/-- The report on the results of an invocation. -/
def reportResults (format : ReportFormat) (results : List Tensor) : String :=
  match format with
  | .text =>
    if results.isEmpty then "(no results)"
    else
      "\n".intercalate (results.mapIdx fun index tensor => s!"result[{index}]: {tensor.literal}")
  | .json => (Json.array (results.mapIdx Tensor.report)).pretty

/-- What a probe of the runtime found. -/
structure ProbeReport where
  /-- Whether the runtime could be loaded. -/
  available : Bool
  /-- One line about the configuration. -/
  detail : String
  /-- The text of the failure, if there was one. -/
  error : Option String
deriving DecidableEq, Repr

/-- The report on a probe. -/
def ProbeReport.render (report : ProbeReport) : ReportFormat → String
  | .text =>
    match report.error with
    | some e => report.detail ++ "\nreason: " ++ e
    | none => report.detail
  | .json =>
    (Json.object ([("available", .bool report.available), ("detail", .string report.detail)] ++
      (report.error.map fun e => ("error", Json.string e)).toList)).pretty

end TensorBridge
