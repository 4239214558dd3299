import ScopeLint.Decode.Table
import ScopeLint.Settings

/-!
# Reading settings

Every field may be left out and then has its default.
-/

namespace ScopeLint.Decode

variable {ν : Type} (r : Reader ν)

def outputFormat (v : ν) : Option OutputFormat := r.choice OutputFormat.named? v

def colorMode (v : ν) : Option ColorMode := r.choice ColorMode.named? v

def engine (v : ν) : Option EngineSettings := do
  let field ← r.record? ["parallel", "jobs"] v
  let default : EngineSettings := {}
  return { parallel := ← Reader.orElse default.parallel r.flag? (field "parallel")
           jobs := ← Reader.orElse default.jobs r.number? (field "jobs") }

def output (v : ν) : Option OutputSettings := do
  let field ← r.record? ["format", "color", "verbose", "statistics", "suggestions"] v
  let default : OutputSettings := {}
  return { format := ← Reader.orElse default.format (outputFormat r) (field "format")
           color := ← Reader.orElse default.color (colorMode r) (field "color")
           verbose := ← Reader.orElse default.verbose r.flag? (field "verbose")
           statistics := ← Reader.orElse default.statistics r.flag? (field "statistics")
           suggestions := ← Reader.orElse default.suggestions r.flag? (field "suggestions") }

def severityMap (v : ν) : Option SeverityMap :=
  (r.mapOf (severity r) v).map SeverityMap.ofList

def rules (v : ν) : Option RuleSettings := do
  let field ← r.record? ["disabled", "severity"] v
  let default : RuleSettings := {}
  return { disabled := ← Reader.orElse default.disabled (r.listOf r.text?) (field "disabled")
           severity := ← Reader.orElse default.severity (severityMap r) (field "severity") }

def settings (v : ν) : Option Settings := do
  let field ← r.record? ["engine", "output", "rules", "table"] v
  let default : Settings := {}
  return { engine := ← Reader.orElse default.engine (engine r) (field "engine")
           output := ← Reader.orElse default.output (output r) (field "output")
           rules := ← Reader.orElse default.rules (rules r) (field "rules")
           table := ← Reader.orElse default.table (table r) (field "table") }

end ScopeLint.Decode
