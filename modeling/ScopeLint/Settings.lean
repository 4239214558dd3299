import ScopeLint.Linter

/-!
# Settings

What a settings file can say: how files are worked on, how the result is printed, which families
run with which severity, and the rule table.  Every field has a default.  Rule ids are read by
their meaning: any name of a family in any capitalization names that family.
-/

namespace ScopeLint

inductive OutputFormat where
  | text
  | json
  deriving Repr, DecidableEq, Inhabited

namespace OutputFormat

def all : List OutputFormat := [.text, .json]

def name : OutputFormat → String
  | .text => "text"
  | .json => "json"

def named? (wanted : String) : Option OutputFormat := all.find? (fun f => f.name == wanted)

theorem named?_name (f : OutputFormat) : named? f.name = some f := by
  cases f <;> decide

/-- The format of a name in any capitalization. -/
def parse? (name : String) : Option OutputFormat := named? (Text.lower name)

def unknown (name : String) : String := s!"Unknown output format: {name}"

end OutputFormat

/-- When output is coloured. -/
inductive ColorMode where
  /-- On a terminal. -/
  | auto
  | always
  | never
  deriving Repr, DecidableEq, Inhabited

namespace ColorMode

def all : List ColorMode := [.auto, .always, .never]

def name : ColorMode → String
  | .auto => "auto"
  | .always => "always"
  | .never => "never"

def named? (wanted : String) : Option ColorMode := all.find? (fun m => m.name == wanted)

theorem named?_name (m : ColorMode) : named? m.name = some m := by
  cases m <;> decide

end ColorMode

structure EngineSettings where
  parallel : Bool := true
  /-- The number of jobs; 0 leaves it open. -/
  jobs : Nat := 0
  deriving Repr, DecidableEq

structure OutputSettings where
  format : OutputFormat := .text
  color : ColorMode := .auto
  verbose : Bool := false
  statistics : Bool := true
  suggestions : Bool := true
  deriving Repr, DecidableEq

/-- Severities by rule id, each id once. -/
structure SeverityMap where
  entries : List (String × Severity)
  distinct : (entries.map Prod.fst).Nodup
  deriving Repr, DecidableEq

namespace SeverityMap

def empty : SeverityMap := ⟨[], List.nodup_nil⟩

def insert (m : SeverityMap) (id : String) (severity : Severity) : SeverityMap where
  entries := m.entries.filter (fun e => e.1 ≠ id) ++ [(id, severity)]
  distinct := by
    have hsub : ((m.entries.filter (fun e => e.1 ≠ id)).map Prod.fst).Nodup :=
      m.distinct.sublist ((List.filter_sublist).map Prod.fst)
    have hnew : ∀ e ∈ m.entries.filter (fun e => e.1 ≠ id), e.1 ≠ id := by
      intro e he
      simpa using (List.mem_filter.1 he).2
    rw [List.map_append, List.nodup_append]
    refine ⟨hsub, by simp, ?_⟩
    intro a ha b hb hab
    obtain ⟨e, he, rfl⟩ := List.mem_map.1 ha
    simp only [List.map_cons, List.map_nil, List.mem_singleton] at hb
    exact hnew e he (hab.trans hb)

/-- The map of a list of entries; of two for one id the last counts. -/
def ofList (entries : List (String × Severity)) : SeverityMap :=
  entries.foldl (fun m e => m.insert e.1 e.2) empty

def ids (m : SeverityMap) : List String := m.entries.map Prod.fst

end SeverityMap

/-- Which rules run, and how serious their findings are. -/
structure RuleSettings where
  disabled : List String := []
  severity : SeverityMap := .empty
  deriving Repr, DecidableEq

structure Settings where
  engine : EngineSettings := {}
  output : OutputSettings := {}
  rules : RuleSettings := {}
  table : TableSpec := {}
  deriving Repr, DecidableEq

/-- What the command line says in place of the settings file. -/
structure Overrides where
  format : Option OutputFormat := none
  verbose : Option Bool := none
  jobs : Option Nat := none
  /-- Ids to disable besides those of the settings. -/
  disabled : Option (List String) := none
  /-- The line limit of the spacing family. -/
  maxLines : Option Nat := none
  deriving Repr, DecidableEq

namespace Settings

def merge (s : Settings) (o : Overrides) : Settings where
  engine := { s.engine with jobs := o.jobs.getD s.engine.jobs }
  output := { s.output with
    format := o.format.getD s.output.format
    verbose := o.verbose.getD s.output.verbose }
  rules := { s.rules with disabled := s.rules.disabled ++ o.disabled.getD [] }
  table :=
    match o.maxLines with
    | some limit => { s.table with limits := s.table.limits.setMaxLines .spacing (some limit) }
    | none => s.table

/-- The first id in the settings that names no family. -/
def unknownId? (s : Settings) : Option String :=
  (s.rules.disabled ++ s.rules.severity.ids).find? (fun id => (Family.parse? id).isNone)

/-- Does some disabled id name the family? -/
def disables (s : Settings) (f : Family) : Bool :=
  s.rules.disabled.any (fun id => Family.parse? id == some f)

/-- Is the rule of that id enabled?  An id that names no family is not. -/
def isEnabled (s : Settings) (id : String) : Bool :=
  match Family.parse? id with
  | some f => !s.disables f
  | none => false

/-- The severity that the settings give to a family. -/
def severityFor? (s : Settings) (f : Family) : Option Severity :=
  (s.rules.severity.entries.find? (fun e => Family.parse? e.1 == some f)).map Prod.snd

def linter (s : Settings) : Except LintError Linter := do
  let table ← RuleTable.compile s.table
  return { table
           families := Family.all.filter (fun f => !s.disables f)
           severities := Family.all.filterMap (fun f => (s.severityFor? f).map (f, ·)) }

end Settings

end ScopeLint
