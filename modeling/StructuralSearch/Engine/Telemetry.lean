import StructuralSearch.Document.Decode
import StructuralSearch.Engine.LogFilter

/-!
# Telemetry

Events are written in a format, filtered by directives. The subscriber that writes them is installed
once; later requests get the format of the first.

Main declaration: `Telemetry.initialise`, which installs the subscriber, unless there is one.
-/

namespace StructuralSearch

/-- How events are written. -/
inductive LogFormat
  /-- One record in a line. -/
  | json
  /-- Terse text. -/
  | compact
deriving DecidableEq, Repr

namespace LogFormat

def all : List LogFormat := [json, compact]

def name : LogFormat → String
  | json => "json"
  | compact => "compact"

/-- The format of settings that name none. -/
def default : LogFormat := json

/-- The format with this name, whatever its case. -/
def ofName? (text : String) : Option LogFormat := all.find? (sameIgnoringCase text ·.name)

end LogFormat

/-- What is logged and how. -/
structure TelemetrySettings where
  /-- Directives that say which events are written. -/
  filter : String
  format : LogFormat
deriving DecidableEq, Repr

namespace TelemetrySettings

/-- The directives of settings that have none. -/
def defaultFilter : String := "info"

def default : TelemetrySettings := ⟨defaultFilter, .default⟩

/-- The settings that a value describes. -/
def decode (typing : Typing) (v : Value) : Decoded TelemetrySettings := do
  let formats := LogFormat.all.map fun f => (f.name, f)
  let fs ← Decode.fields typing ["logFilter", "logFormat"] v
  return ⟨← Decode.defaulted fs "logFilter" Decode.text defaultFilter,
    ← Decode.defaulted fs "logFormat" (Decode.keyword formats) .default⟩

/-- The value that describes settings. -/
def encode (s : TelemetrySettings) : Value :=
  .record [("logFilter", .text s.filter), ("logFormat", .text s.format.name)]

end TelemetrySettings

/-- Why no subscriber was installed. -/
inductive TelemetryFault
  | filter (directives reason : String)
deriving DecidableEq, Repr

namespace TelemetryFault

def message : TelemetryFault → String
  | filter directives reason => s!"invalid log filter '{directives}': {reason}"

end TelemetryFault

namespace Telemetry

/-- Installs a subscriber, given the format of the one that is installed; the result is the format
of the one that is installed then. -/
def initialise (installed : Option LogFormat) (s : TelemetrySettings) :
    Except TelemetryFault LogFormat :=
  match installed with
  | some format => .ok format
  | none =>
    if LogFilter.isValid s.filter then .ok s.format
    else .error (.filter s.filter "invalid filter directive")

end Telemetry

end StructuralSearch
