import StructuralSearch.Document.Yaml
import StructuralSearch.Engine.Telemetry
import StructuralSearch.Failure
import StructuralSearch.Registry.Registration

/-!
# Configuration of the engine

A configuration says how the engine logs and which languages it knows besides the builtin ones.
-/

namespace StructuralSearch

structure EngineConfig where
  telemetry : TelemetrySettings
  /-- Languages to load, by name. -/
  languages : NameMap Registration
deriving DecidableEq, Repr

namespace EngineConfig

/-- The configuration that a value describes. -/
def decode (typing : Typing) (v : Value) : Decoded EngineConfig := do
  let fs ← Decode.fields typing ["telemetry", "languages"] v
  return ⟨← Decode.defaulted fs "telemetry" (TelemetrySettings.decode typing) .default,
    ← Decode.defaulted fs "languages" (Decode.map (Registration.decode typing)) .empty⟩

/-- The configuration of a YAML text. -/
def ofYaml (t : Text) : Except Failure EngineConfig :=
  let decoded := match Yaml.parse? t with
    | some v => decode .untyped v
    | none => .error .malformed
  decoded.mapError fun fault => .configuration s!"invalid engine config: {fault.message}"

/-- The value that describes a configuration. -/
def encode (c : EngineConfig) : Value :=
  let languages := c.languages.map fun (name, r) => (name, r.encode)
  .record <| ("telemetry", c.telemetry.encode) ::
    if languages.isEmpty then [] else [("languages", .record languages)]

end EngineConfig

end StructuralSearch
