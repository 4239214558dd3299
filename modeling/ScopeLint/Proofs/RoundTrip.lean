import Mathlib.Data.List.Basic
import ScopeLint.Decode.Diagnostic
import ScopeLint.Decode.Json
import ScopeLint.Decode.Settings
import ScopeLint.Encode.Diagnostic
import ScopeLint.Encode.Settings

/-!
# Settings and diagnostics read back

What is written for settings or for a diagnostic is read as the same settings or diagnostic.  Any
fields of the settings that have a default may be left out of what is written, at any depth: then
those fields have their defaults, and all else is read as it was.
-/

namespace ScopeLint

/-! ## Leaving fields out -/

namespace Json

/-- A step into a value: to a field of an object or to an item of an array. -/
inductive Step where
  | key (name : String)
  | item (index : Nat)
  deriving Repr, DecidableEq

/-- The way to a part of a value. -/
abbrev Path := List Step

/-- A choice of fields, seen from one step further inside. -/
def inside (gone : Path → Bool) (step : Step) : Path → Bool := fun path => gone (step :: path)

mutual

/-- The value without the fields at some paths. -/
def prune (gone : Path → Bool) : Json → Json
  | .array items => .array (pruneItems gone 0 items)
  | .object fields => .object (pruneFields gone fields)
  | j => j
termination_by structural j => j

/-- The items of an array from that index on, each without such fields. -/
def pruneItems (gone : Path → Bool) (index : Nat) : List Json → List Json
  | [] => []
  | item :: more => prune (inside gone (.item index)) item :: pruneItems gone (index + 1) more
termination_by structural items => items

/-- The fields of an object that stay. -/
def pruneFields (gone : Path → Bool) : List (String × Json) → List (String × Json)
  | [] => []
  | field :: more =>
    if gone [.key field.1] then pruneFields gone more
    else pruneField gone field :: pruneFields gone more
termination_by structural fields => fields

def pruneField (gone : Path → Bool) : String × Json → String × Json
  | (key, value) => (key, prune (inside gone (.key key)) value)
termination_by structural field => field

end

mutual

/-- Nothing changes where no fields are chosen. -/
theorem prune_eq_self {gone : Path → Bool} (h : ∀ step path, gone (step :: path) = false) :
    (j : Json) → j.prune gone = j
  | .null | .bool _ | .integer _ | .decimal _ | .string _ | .unpaired => rfl
  | .array items => congrArg Json.array (pruneItems_eq_self h 0 items)
  | .object fields => congrArg Json.object (pruneFields_eq_self h fields)
termination_by structural j => j

/-- Where no path into the value is chosen, nothing is left out. -/
theorem pruneItems_eq_self {gone : Path → Bool} (h : ∀ step path, gone (step :: path) = false)
    (index : Nat) : (items : List Json) → pruneItems gone index items = items
  | [] => rfl
  | item :: more => by
    rw [pruneItems, prune_eq_self (fun step path => h (.item index) (step :: path)) item,
      pruneItems_eq_self h (index + 1) more]
termination_by structural items => items

theorem pruneFields_eq_self {gone : Path → Bool} (h : ∀ step path, gone (step :: path) = false) :
    (fields : List (String × Json)) → pruneFields gone fields = fields
  | [] => rfl
  | field :: more => by
    rw [pruneFields, h, pruneField_eq_self h field, pruneFields_eq_self h more]
    rfl
termination_by structural fields => fields

theorem pruneField_eq_self {gone : Path → Bool} (h : ∀ step path, gone (step :: path) = false) :
    (field : String × Json) → pruneField gone field = field
  | (key, value) => by
    rw [pruneField, prune_eq_self (fun step path => h (.key key) (step :: path)) value]
termination_by structural field => field

end

/-- A field is left out where its path is chosen, which is by name, so no later field of that name
is left either.  Otherwise it stays with what is left of its value. -/
theorem field?_prune (gone : Path → Bool) (fields : List (String × Json)) (name : String) :
    ((Json.object fields).prune gone).field? name =
      if gone [.key name] then none
      else ((Json.object fields).field? name).map (prune (inside gone (.key name))) := by
  change ((pruneFields gone fields).find? (fun f => f.1 == name)).map Prod.snd =
    if gone [.key name] then none
    else ((fields.find? (fun f => f.1 == name)).map Prod.snd).map (prune (inside gone (.key name)))
  induction fields with
  | nil =>
    rw [pruneFields]
    split <;> rfl
  | cons field more ih =>
    obtain ⟨key, value⟩ := field
    rw [pruneFields]
    by_cases hkey : key = name
    · subst hkey
      by_cases hgone : gone [.key key]
      · rw [if_pos hgone, ih, if_pos hgone, if_pos hgone]
      · rw [if_neg hgone, if_neg hgone, List.find?_cons_of_pos (by simp [pruneField]),
          List.find?_cons_of_pos (by simp)]
        rfl
    · rw [List.find?_cons_of_neg (by simp [hkey]), ← ih]
      by_cases hgone : gone [.key key]
      · rw [if_pos hgone]
      · rw [if_neg hgone, List.find?_cons_of_neg (by simp [pruneField, hkey])]

theorem occurrences_pruneFields (gone : Path → Bool) (fields : List (String × Json))
    (name : String) : occurrences (pruneFields gone fields) name ≤ occurrences fields name := by
  induction fields with
  | nil => exact Nat.le_refl _
  | cons field more ih =>
    obtain ⟨key, value⟩ := field
    simp only [occurrences, pruneFields, List.countP_cons] at ih ⊢
    by_cases hgone : gone [.key key]
    · rw [if_pos hgone]
      omega
    · rw [if_neg hgone, List.countP_cons]
      exact Nat.add_le_add_right ih _

/-- A record without some of its fields is still a record. -/
theorem record?_prune (gone : Path → Bool) {names : List String} {fields : List (String × Json)}
    (h : names.all (fun name => occurrences fields name ≤ 1) = true) :
    reader.record? names ((Json.object fields).prune gone) =
      some ((Json.object fields).prune gone).field? := by
  have hall : names.all (fun name => occurrences (pruneFields gone fields) name ≤ 1) = true := by
    simp only [List.all_eq_true, decide_eq_true_eq] at h ⊢
    exact fun name hname => Nat.le_trans (occurrences_pruneFields gone fields name) (h name hname)
  exact if_pos hall

/-- The fallback where a field is left out. -/
def pick {α : Type} (gone : Path → Bool) (name : String) (fallback kept : α) : α :=
  if gone [.key name] then fallback else kept

/-- A field with a default is read where it stays, and is the default where it is left out. -/
theorem orElse_field? {α : Type} {gone : Path → Bool} {fields : List (String × Json)}
    {name : String} {value : Json} {read : Json → Option α} {fallback kept : α}
    (hfield : (Json.object fields).field? name = some value)
    (hread : read (value.prune (inside gone (.key name))) = some kept) :
    Reader.orElse fallback read (((Json.object fields).prune gone).field? name) =
      some (pick gone name fallback kept) := by
  rw [field?_prune, hfield, pick]
  split
  · rfl
  · exact hread

theorem orElse_missing? {α : Type} {gone : Path → Bool} {fields : List (String × Json)}
    {name : String} {read : Json → Option α} {fallback : α}
    (hfield : (Json.object fields).field? name = none) :
    Reader.orElse fallback read (((Json.object fields).prune gone).field? name) =
      some fallback := by
  rw [field?_prune, hfield]
  split <;> rfl

theorem needed_field? {α : Type} {gone : Path → Bool} {fields : List (String × Json)}
    {name : String} {value : Json} {read : Json → Option α} {kept : α}
    (hgone : gone [.key name] = false)
    (hfield : (Json.object fields).field? name = some value)
    (hread : read (value.prune (inside gone (.key name))) = some kept) :
    Reader.needed read (((Json.object fields).prune gone).field? name) = some kept := by
  rw [field?_prune, hfield, hgone]
  exact hread

theorem number?_nat {n : Nat} (h : n < Reader.numberBound) : reader.number? (.nat n) = some n := by
  have hin : (0 : Int) ≤ (n : Int) ∧ (n : Int) < (Reader.numberBound : Nat) :=
    ⟨Int.natCast_nonneg n, Int.ofNat_lt.2 h⟩
  simp only [reader, nat]
  rw [if_pos hin, Int.toNat_natCast]

theorem optional_number? {o : Option Nat} (gone : Path → Bool)
    (h : ∀ n, o = some n → n < Reader.numberBound) :
    reader.optional reader.number? ((ofOption (o.map nat)).prune gone) = some o := by
  cases o with
  | none => rfl
  | some n =>
    change (reader.number? (nat n)).map some = some (some n)
    rw [number?_nat (h n rfl), Option.map_some]

/-- Items stay in number and order, and each is read from what is left of it. -/
theorem mapM_pruneItems {α β : Type} {gone : Path → Bool} {read : Json → Option β}
    {encode : α → Json} {kept : Nat → α → β} (index : Nat) {as : List α}
    (h : ∀ i, ∀ a ∈ as, read ((encode a).prune (inside gone (.item i))) = some (kept i a)) :
    (pruneItems gone index (as.map encode)).mapM read =
      some (as.mapIdx (fun i a => kept (index + i) a)) := by
  induction as generalizing index with
  | nil => rfl
  | cons a as ih =>
    have hrest := ih (index + 1) fun i b hb => h i b (List.mem_cons_of_mem a hb)
    rw [List.map_cons, pruneItems, List.mapM_cons, h index a List.mem_cons_self, hrest,
      List.mapIdx_cons]
    simp only [Nat.add_assoc, Nat.add_comm 1]
    rfl

/-- A list is read item by item, each without the fields that are left out of it. -/
theorem listOf_prune {α β : Type} {gone : Path → Bool} {read : Json → Option β}
    {encode : α → Json} {kept : Nat → α → β} {as : List α}
    (h : ∀ i, ∀ a ∈ as, read ((encode a).prune (inside gone (.item i))) = some (kept i a)) :
    reader.listOf read ((Json.array (as.map encode)).prune gone) = some (as.mapIdx kept) := by
  have hitems := mapM_pruneItems 0 h
  simp only [Nat.zero_add] at hitems
  exact hitems

/-- A list of items in which no fields can be left out is read as it was. -/
theorem listOf_kept {α : Type} {gone : Path → Bool} {read : Json → Option α} {encode : α → Json}
    {as : List α} (h : ∀ i, ∀ a ∈ as, read ((encode a).prune (inside gone (.item i))) = some a) :
    reader.listOf read ((Json.array (as.map encode)).prune gone) = some as := by
  have hkept : as.mapIdx (fun _ a => a) = as := List.ext_getElem? (by simp)
  rw [listOf_prune h, hkept]

theorem mapOf_object {α : Type} {read : Json → Option α} {encode : α → Json}
    (h : ∀ a, read (encode a) = some a) (entries : List (String × α)) :
    reader.mapOf read (.object (entries.map fun (key, a) => (key, encode a))) = some entries := by
  change (entries.map fun (key, a) => (key, encode a)).mapM
    (fun (key, value) => (read value).map fun a => (key, a)) = some entries
  induction entries with
  | nil => rfl
  | cons e entries ih =>
    obtain ⟨key, a⟩ := e
    rw [List.map_cons, List.mapM_cons, ih]
    simp only [h]
    rfl

end Json

/-! ## Fields with defaults -/

section Defaults

open Json (Path inside pick)

def EngineSettings.withDefaults (gone : Path → Bool) (e : EngineSettings) : EngineSettings where
  parallel := pick gone "parallel" ({} : EngineSettings).parallel e.parallel
  jobs := pick gone "jobs" ({} : EngineSettings).jobs e.jobs

def OutputSettings.withDefaults (gone : Path → Bool) (o : OutputSettings) : OutputSettings where
  format := pick gone "format" ({} : OutputSettings).format o.format
  color := pick gone "color" ({} : OutputSettings).color o.color
  verbose := pick gone "verbose" ({} : OutputSettings).verbose o.verbose
  statistics := pick gone "statistics" ({} : OutputSettings).statistics o.statistics
  suggestions := pick gone "suggestions" ({} : OutputSettings).suggestions o.suggestions

def RuleSettings.withDefaults (gone : Path → Bool) (r : RuleSettings) : RuleSettings where
  disabled := pick gone "disabled" ({} : RuleSettings).disabled r.disabled
  severity := pick gone "severity" ({} : RuleSettings).severity r.severity

/-- Limits, with those of the built-in table for what is left out. -/
def Limits.withDefaults (gone : Path → Bool) (l : Limits) : Limits where
  casing := pick gone "casing" ({} : Limits).casing l.casing
  spacing := pick gone "spacing" ({} : Limits).spacing l.spacing
  brackets := pick gone "bracket_match" ({} : Limits).brackets l.brackets
  naming := pick gone "notation" ({} : Limits).naming l.naming

/-- A spacer, with the empty scope for one that is left out. -/
def SpacerSpec.withDefaults (gone : Path → Bool) (s : SpacerSpec) : SpacerSpec where
  pattern := s.pattern
  requiredScope := pick gone "required_scope" "" s.requiredScope
  breakScope := pick gone "good_break_scope" "" s.breakScope

/-- A rule table, with what the built-in table has for what is left out. -/
def TableSpec.withDefaults (gone : Path → Bool) (t : TableSpec) : TableSpec where
  keywords := pick gone "keywords" ({} : TableSpec).keywords t.keywords
  spacers := pick gone "spacers" ({} : TableSpec).spacers
    (t.spacers.mapIdx fun i s => s.withDefaults (inside (inside gone (.key "spacers")) (.item i)))
  brackets := pick gone "brackets" ({} : TableSpec).brackets t.brackets
  strategy := pick gone "bracket_strategy" ({} : TableSpec).strategy t.strategy
  variablePattern := pick gone "notation_pattern" ({} : TableSpec).variablePattern
    t.variablePattern
  limits := pick gone "thresholds" ({} : TableSpec).limits
    (t.limits.withDefaults (inside gone (.key "thresholds")))

/-- All settings, with defaults for what is left out. -/
def Settings.withDefaults (gone : Path → Bool) (s : Settings) : Settings where
  engine := pick gone "engine" ({} : Settings).engine
    (s.engine.withDefaults (inside gone (.key "engine")))
  output := pick gone "output" ({} : Settings).output
    (s.output.withDefaults (inside gone (.key "output")))
  rules := pick gone "rules" ({} : Settings).rules
    (s.rules.withDefaults (inside gone (.key "rules")))
  table := pick gone "table" ({} : Settings).table
    (s.table.withDefaults (inside gone (.key "table")))

/-- Is it the path of a field with one of these names? -/
def Json.isFieldOf (names : List String) : Path → Bool
  | [.key name] => names.contains name
  | _ => false

/-- The fields of a rule table that have a default. -/
def TableSpec.isDefaultable (path : Path) : Bool :=
  Json.isFieldOf ["keywords", "spacers", "brackets", "bracket_strategy", "notation_pattern",
    "thresholds"] path ||
  match path with
  | .key "spacers" :: .item _ :: path => Json.isFieldOf ["required_scope", "good_break_scope"] path
  | .key "thresholds" :: path =>
    Json.isFieldOf ["casing", "spacing", "bracket_match", "notation"] path
  | _ => false

/-- The fields of the settings that have a default: all but those of bracket pairs, the patterns
of spacers and the entries of the severities. -/
def Settings.isDefaultable (path : Path) : Bool :=
  Json.isFieldOf ["engine", "output", "rules", "table"] path ||
  match path with
  | .key "engine" :: path => Json.isFieldOf ["parallel", "jobs"] path
  | .key "output" :: path =>
    Json.isFieldOf ["format", "color", "verbose", "statistics", "suggestions"] path
  | .key "rules" :: path => Json.isFieldOf ["disabled", "severity"] path
  | .key "table" :: path => TableSpec.isDefaultable path
  | _ => false

/-! ## Reading what is left -/

/-- The limits are below the bound of numbers. -/
def Limits.IsSized (l : Limits) : Prop :=
  ∀ f n, l.maxLines f = some n → n < Reader.numberBound

theorem EngineSettings.decode_prune (gone : Path → Bool) {e : EngineSettings}
    (h : e.jobs < Reader.numberBound) :
    Decode.engine Json.reader ((Encode.engine e).prune gone) = some (e.withDefaults gone) := by
  refine Option.bind_eq_some_iff.2 ⟨_, Json.record?_prune gone rfl, ?_⟩
  refine Option.bind_eq_some_iff.2 ⟨_, Json.orElse_field? rfl rfl, ?_⟩
  exact Option.bind_eq_some_iff.2 ⟨_, Json.orElse_field? rfl (Json.number?_nat h), rfl⟩

theorem OutputSettings.decode_prune (gone : Path → Bool) (o : OutputSettings) :
    Decode.output Json.reader ((Encode.output o).prune gone) = some (o.withDefaults gone) := by
  have hformat := OutputFormat.named?_name o.format
  have hcolor := ColorMode.named?_name o.color
  refine Option.bind_eq_some_iff.2 ⟨_, Json.record?_prune gone rfl, ?_⟩
  refine Option.bind_eq_some_iff.2 ⟨_, Json.orElse_field? rfl hformat, ?_⟩
  refine Option.bind_eq_some_iff.2 ⟨_, Json.orElse_field? rfl hcolor, ?_⟩
  refine Option.bind_eq_some_iff.2 ⟨_, Json.orElse_field? rfl rfl, ?_⟩
  refine Option.bind_eq_some_iff.2 ⟨_, Json.orElse_field? rfl rfl, ?_⟩
  exact Option.bind_eq_some_iff.2 ⟨_, Json.orElse_field? rfl rfl, rfl⟩

theorem Limits.decode_prune (gone : Path → Bool) {l : Limits} (h : l.IsSized) :
    Decode.limits Json.reader ((Encode.limits l).prune gone) = some (l.withDefaults gone) := by
  refine Option.bind_eq_some_iff.2 ⟨_, Json.record?_prune gone rfl, ?_⟩
  refine Option.bind_eq_some_iff.2
    ⟨_, Json.orElse_field? rfl (Json.optional_number? _ (h .casing)), ?_⟩
  refine Option.bind_eq_some_iff.2
    ⟨_, Json.orElse_field? rfl (Json.optional_number? _ (h .spacing)), ?_⟩
  refine Option.bind_eq_some_iff.2
    ⟨_, Json.orElse_field? rfl (Json.optional_number? _ (h .brackets)), ?_⟩
  exact Option.bind_eq_some_iff.2
    ⟨_, Json.orElse_field? rfl (Json.optional_number? _ (h .naming)), rfl⟩

theorem SpacerSpec.decode_prune {gone : Path → Bool} (h : gone [.key "pattern"] = false)
    (s : SpacerSpec) :
    Decode.spacer Json.reader ((Encode.spacer s).prune gone) = some (s.withDefaults gone) := by
  refine Option.bind_eq_some_iff.2 ⟨_, Json.record?_prune gone rfl, ?_⟩
  refine Option.bind_eq_some_iff.2 ⟨_, Json.needed_field? h rfl rfl, ?_⟩
  refine Option.bind_eq_some_iff.2 ⟨_, Json.orElse_field? rfl rfl, ?_⟩
  exact Option.bind_eq_some_iff.2 ⟨_, Json.orElse_field? rfl rfl, rfl⟩

theorem BracketSpec.decode_prune {gone : Path → Bool} (h : ∀ name, gone [.key name] = false)
    (b : BracketSpec) :
    Decode.bracketPair Json.reader ((Encode.bracketPair b).prune gone) = some b := by
  refine Option.bind_eq_some_iff.2 ⟨_, Json.record?_prune gone rfl, ?_⟩
  refine Option.bind_eq_some_iff.2 ⟨_, Json.needed_field? (h _) rfl rfl, ?_⟩
  exact Option.bind_eq_some_iff.2 ⟨_, Json.needed_field? (h _) rfl rfl, rfl⟩

/-- The chosen paths are allowed ones, apart from the empty path, which leads to no field. -/
def Json.Within (gone allowed : Path → Bool) : Prop :=
  ∀ step path, gone (step :: path) = true → allowed (step :: path) = true

theorem Json.Within.eq_false {gone allowed : Path → Bool} (h : Json.Within gone allowed)
    {step : Json.Step} {path : Path} (hnot : allowed (step :: path) = false) :
    gone (step :: path) = false :=
  Bool.eq_false_iff.2 fun hgone => Bool.eq_false_iff.1 hnot (h step path hgone)

/-- Fields that are left out are read as in the built-in table.  The pattern of a spacer and the
sides of a bracket pair have no default, so they are never left out. -/
theorem TableSpec.decode_prune {gone : Path → Bool}
    (h : Json.Within gone TableSpec.isDefaultable) {t : TableSpec} (hlimits : t.limits.IsSized) :
    Decode.table Json.reader ((Encode.table t).prune gone) = some (t.withDefaults gone) := by
  have hstrategy := BracketStrategy.named?_text t.strategy
  have hspacer : ∀ i, ∀ s ∈ t.spacers, Decode.spacer Json.reader
      ((Encode.spacer s).prune (inside (inside gone (.key "spacers")) (.item i))) =
        some (s.withDefaults (inside (inside gone (.key "spacers")) (.item i))) := by
    intro i s _
    have hpattern : gone [.key "spacers", .item i, .key "pattern"] = false := h.eq_false rfl
    exact SpacerSpec.decode_prune hpattern s
  have hbracket : ∀ i, ∀ b ∈ t.brackets, Decode.bracketPair Json.reader
      ((Encode.bracketPair b).prune (inside (inside gone (.key "brackets")) (.item i))) =
        some b := by
    intro i b _
    have hkept : ∀ name, gone [.key "brackets", .item i, .key name] = false :=
      fun name => h.eq_false rfl
    exact BracketSpec.decode_prune hkept b
  refine Option.bind_eq_some_iff.2 ⟨_, Json.record?_prune gone rfl, ?_⟩
  refine Option.bind_eq_some_iff.2
    ⟨_, Json.orElse_field? rfl (Json.listOf_kept fun _ _ _ => rfl), ?_⟩
  refine Option.bind_eq_some_iff.2 ⟨_, Json.orElse_field? rfl (Json.listOf_prune hspacer), ?_⟩
  refine Option.bind_eq_some_iff.2 ⟨_, Json.orElse_field? rfl (Json.listOf_kept hbracket), ?_⟩
  refine Option.bind_eq_some_iff.2 ⟨_, Json.orElse_field? rfl hstrategy, ?_⟩
  refine Option.bind_eq_some_iff.2 ⟨_, Json.orElse_field? rfl rfl, ?_⟩
  exact Option.bind_eq_some_iff.2
    ⟨_, Json.orElse_field? rfl (Limits.decode_prune _ hlimits), rfl⟩

theorem SeverityMap.entries_foldl_insert (m : SeverityMap) {entries : List (String × Severity)}
    (h : ((m.entries ++ entries).map Prod.fst).Nodup) :
    (entries.foldl (fun m e => m.insert e.1 e.2) m).entries = m.entries ++ entries := by
  induction entries generalizing m with
  | nil => rw [List.foldl_nil, List.append_nil]
  | cons e entries ih =>
    have hnew : ∀ a ∈ m.entries, a.1 ≠ e.1 := by
      intro a ha heq
      rw [List.map_append, List.nodup_append] at h
      exact h.2.2 a.1 (List.mem_map_of_mem ha) e.1 (List.mem_map_of_mem List.mem_cons_self) heq
    have hinsert : (m.insert e.1 e.2).entries = m.entries ++ [e] := by
      have hkept : m.entries.filter (fun a => a.1 ≠ e.1) = m.entries :=
        List.filter_eq_self.2 (by simpa using hnew)
      exact congrArg (· ++ [e]) hkept
    have hentries : (m.insert e.1 e.2).entries ++ entries = m.entries ++ e :: entries := by
      rw [hinsert, List.append_assoc, List.singleton_append]
    rw [List.foldl_cons, ih (m.insert e.1 e.2) (hentries ▸ h), hentries]

/-- A map has each id once, so it is made again from its entries. -/
theorem SeverityMap.ofList_entries (m : SeverityMap) : SeverityMap.ofList m.entries = m := by
  have hentries := SeverityMap.entries_foldl_insert .empty m.distinct
  change (SeverityMap.ofList m.entries).entries = m.entries at hentries
  cases m with
  | mk entries distinct =>
    cases hof : SeverityMap.ofList entries with
    | mk entries' distinct' =>
      rw [hof] at hentries
      cases hentries
      rfl

theorem SeverityMap.decode_prune {gone : Path → Bool}
    (h : ∀ step path, gone (step :: path) = false) (m : SeverityMap) :
    Decode.severityMap Json.reader ((Encode.severityMap m).prune gone) = some m := by
  have hseverity : ∀ severity : Severity,
      Decode.severity Json.reader (.string severity.text) = some severity := Severity.named?_text
  rw [Json.prune_eq_self h, Decode.severityMap, Encode.severityMap, Json.mapOf_object hseverity,
    Option.map_some, SeverityMap.ofList_entries]

/-- The choice of rules is read back, with no ids and no severities where these are left out. -/
theorem RuleSettings.decode_prune {gone : Path → Bool}
    (h : ∀ step path, gone (.key "severity" :: step :: path) = false) (r : RuleSettings) :
    Decode.rules Json.reader ((Encode.rules r).prune gone) = some (r.withDefaults gone) := by
  refine Option.bind_eq_some_iff.2 ⟨_, Json.record?_prune gone rfl, ?_⟩
  refine Option.bind_eq_some_iff.2
    ⟨_, Json.orElse_field? rfl (Json.listOf_kept fun _ _ _ => rfl), ?_⟩
  exact Option.bind_eq_some_iff.2
    ⟨_, Json.orElse_field? rfl (SeverityMap.decode_prune h r.severity), rfl⟩

/-- The number of jobs and the limits are below the bound of numbers. -/
structure Settings.IsSized (s : Settings) : Prop where
  jobs : s.engine.jobs < Reader.numberBound
  limits : s.table.limits.IsSized

/-- Settings without some fields are read with the defaults of these. -/
theorem Settings.decode_prune {gone : Path → Bool}
    (h : Json.Within gone Settings.isDefaultable) {s : Settings} (hs : s.IsSized) :
    Decode.settings Json.reader ((Encode.settings s).prune gone) = some (s.withDefaults gone) := by
  have hseverity : ∀ step path, gone (.key "rules" :: .key "severity" :: step :: path) = false :=
    fun step path => h.eq_false rfl
  have htable : Json.Within (inside gone (.key "table")) TableSpec.isDefaultable :=
    fun step path => h (.key "table") (step :: path)
  refine Option.bind_eq_some_iff.2 ⟨_, Json.record?_prune gone rfl, ?_⟩
  refine Option.bind_eq_some_iff.2
    ⟨_, Json.orElse_field? rfl (EngineSettings.decode_prune _ hs.jobs), ?_⟩
  refine Option.bind_eq_some_iff.2
    ⟨_, Json.orElse_field? rfl (OutputSettings.decode_prune _ s.output), ?_⟩
  refine Option.bind_eq_some_iff.2
    ⟨_, Json.orElse_field? rfl (RuleSettings.decode_prune hseverity s.rules), ?_⟩
  exact Option.bind_eq_some_iff.2
    ⟨_, Json.orElse_field? rfl (TableSpec.decode_prune htable hs.limits), rfl⟩

theorem SpacerSpec.mapIdx_withDefaults (gone : Path → Bool)
    (h : ∀ i name, gone [.item i, .key name] = false) (spacers : List SpacerSpec) :
    spacers.mapIdx (fun i s => s.withDefaults (inside gone (.item i))) = spacers := by
  refine List.ext_getElem? fun i => ?_
  have hkept : ∀ s : SpacerSpec, s.withDefaults (inside gone (.item i)) = s := by
    intro s
    simp only [SpacerSpec.withDefaults, pick, inside, h]
    rfl
  simp [hkept]

theorem Settings.withDefaults_none (s : Settings) : s.withDefaults (fun _ => false) = s := by
  have hspacers := SpacerSpec.mapIdx_withDefaults (fun _ => false) (fun _ _ => rfl) s.table.spacers
  have htable : s.table.withDefaults (inside (fun _ => false) (.key "table")) = s.table :=
    congrArg (fun spacers => { s.table with spacers }) hspacers
  exact congrArg (fun table => { s with table }) htable

/-- The key under which the limit of a family is written. -/
def Family.limitKey : Family → String
  | .casing => "casing"
  | .spacing => "spacing"
  | .brackets => "bracket_match"
  | .naming => "notation"

def Family.limitPath (f : Family) : Path := [.key "table", .key "thresholds", .key f.limitKey]

/-- The settings with the built-in limit of a family. -/
def Settings.resetLimit (s : Settings) (f : Family) : Settings :=
  { s with table := { s.table with
      limits := s.table.limits.setMaxLines f (({} : Limits).maxLines f) } }

theorem Settings.withDefaults_limitPath (s : Settings) (f : Family) :
    s.withDefaults (fun path => path == f.limitPath) = s.resetLimit f := by
  have hspacers := SpacerSpec.mapIdx_withDefaults
    (fun path => .key "table" :: .key "spacers" :: path == f.limitPath) (fun _ _ => rfl)
    s.table.spacers
  have hreset := congrArg
    (fun spacers => { s with table := { (s.resetLimit f).table with spacers } }) hspacers
  cases f <;> exact hreset

theorem Encode.limits_field? (l : Limits) (f : Family) :
    (Encode.limits l).field? f.limitKey = some (.ofOption ((l.maxLines f).map .nat)) := by
  cases f <;> rfl

/-! ## Diagnostics -/

/-- Rows and columns are below the bound of numbers. -/
def Position.IsSized (p : Position) : Prop :=
  p.row < Reader.numberBound ∧ p.column < Reader.numberBound

theorem Position.decode_prune {gone : Path → Bool} (h : ∀ path, gone path = false) {p : Position}
    (hp : p.IsSized) : Decode.position Json.reader ((Encode.position p).prune gone) = some p := by
  refine Option.bind_eq_some_iff.2 ⟨_, Json.record?_prune gone rfl, ?_⟩
  refine Option.bind_eq_some_iff.2 ⟨_, Json.needed_field? (h _) rfl (Json.number?_nat hp.1), ?_⟩
  exact Option.bind_eq_some_iff.2 ⟨_, Json.needed_field? (h _) rfl (Json.number?_nat hp.2), rfl⟩

theorem Span.decode_prune {gone : Path → Bool} (h : ∀ path, gone path = false) {s : Span}
    (hstart : s.start.IsSized) (hstop : s.stop.IsSized) :
    Decode.span Json.reader ((Encode.span s).prune gone) = some s := by
  refine Option.bind_eq_some_iff.2 ⟨_, Json.record?_prune gone rfl, ?_⟩
  refine Option.bind_eq_some_iff.2 ⟨_, Json.needed_field? (h _) rfl
    (Position.decode_prune (fun _ => h _) hstart), ?_⟩
  exact Option.bind_eq_some_iff.2 ⟨_, Json.needed_field? (h _) rfl
    (Position.decode_prune (fun _ => h _) hstop), rfl⟩

theorem Diagnostic.orElse_suggestion {gone : Path → Bool} (h : ∀ path, gone path = false)
    (d : Diagnostic) :
    Reader.orElse none (Json.reader.optional Json.reader.text?)
      (((Encode.diagnostic d).prune gone).field? "suggestion") = some d.suggestion := by
  obtain ⟨rule, severity, message, span, suggestion⟩ := d
  cases suggestion with
  | none => exact Json.orElse_missing? rfl
  | some suggestion =>
    have hkept : pick gone "suggestion" none (some suggestion) = some suggestion := by
      rw [pick, h]
      rfl
    exact Eq.trans (Json.orElse_field? rfl rfl) (congrArg some hkept)

theorem Diagnostic.decode_prune {gone : Path → Bool} (h : ∀ path, gone path = false)
    {d : Diagnostic} (hstart : d.span.start.IsSized) (hstop : d.span.stop.IsSized) :
    Decode.diagnostic Json.reader ((Encode.diagnostic d).prune gone) = some d := by
  have hseverity := Severity.named?_text d.severity
  have hspan := Span.decode_prune (fun path => h (.key "range" :: path)) hstart hstop
  refine Option.bind_eq_some_iff.2 ⟨_, Json.record?_prune gone ?_, ?_⟩
  · cases d.suggestion <;> rfl
  refine Option.bind_eq_some_iff.2 ⟨_, Json.needed_field? (h _) rfl rfl, ?_⟩
  refine Option.bind_eq_some_iff.2 ⟨_, Json.needed_field? (h _) rfl hseverity, ?_⟩
  refine Option.bind_eq_some_iff.2 ⟨_, Json.needed_field? (h _) rfl rfl, ?_⟩
  refine Option.bind_eq_some_iff.2 ⟨_, Json.needed_field? (h _) rfl hspan, ?_⟩
  exact Option.bind_eq_some_iff.2 ⟨_, Diagnostic.orElse_suggestion h d, rfl⟩

/-- Settings are read back from what is written for them.  Where fields with a default are left out
of it, in whatever places, exactly these fields have their defaults.  So a limit that is written as
null stays none, and one that is left out is that of the built-in table.  A diagnostic is read back
as well. -/
theorem settings_read_back {s : Settings} (hs : s.IsSized) {gone : Path → Bool}
    (hgone : ∀ path, gone path = true → Settings.isDefaultable path = true) {d : Diagnostic}
    (hstart : d.span.start.IsSized) (hstop : d.span.stop.IsSized) :
    Decode.settings Json.reader ((Encode.settings s).prune gone) = some (s.withDefaults gone) ∧
      Decode.settings Json.reader (Encode.settings s) = some s ∧
      (∀ f : Family,
        (s.table.limits.maxLines f = none →
          (Encode.limits s.table.limits).field? f.limitKey = some .null) ∧
        Decode.settings Json.reader
            ((Encode.settings s).prune (fun path => path == f.limitPath)) =
          some (s.resetLimit f)) ∧
      Decode.diagnostic Json.reader (Encode.diagnostic d) = some d := by
  have hnone : ∀ j : Json, j.prune (fun _ => false) = j := Json.prune_eq_self fun _ _ => rfl
  have hwithin : Json.Within (fun _ => false) Settings.isDefaultable :=
    fun _ _ h => absurd h Bool.false_ne_true
  refine ⟨Settings.decode_prune (fun step path => hgone (step :: path)) hs, ?_,
    fun f => ⟨?_, ?_⟩, ?_⟩
  · have hread := Settings.decode_prune hwithin hs
    rw [hnone, Settings.withDefaults_none] at hread
    exact hread
  · intro hlimit
    rw [Encode.limits_field?, hlimit]
    rfl
  · rw [← Settings.withDefaults_limitPath]
    refine Settings.decode_prune (fun step path hpath => ?_) hs
    rw [beq_iff_eq.1 hpath]
    cases f <;> rfl
  · rw [← hnone (Encode.diagnostic d)]
    exact Diagnostic.decode_prune (fun _ => rfl) hstart hstop

/-- Settings that differ from the defaults in every part. -/
def Settings.tuned : Settings where
  engine := { parallel := false, jobs := 3 }
  output := { format := .json, color := .never, verbose := true }
  rules := { disabled := ["notation"], severity := .ofList [("spacing", .error)] }
  table := {
    keywords := ["Foo"]
    spacers := [⟨"=", "code", "tab"⟩, ⟨"<", "code", "tab"⟩]
    brackets := [⟨"begin", "end"⟩]
    strategy := .strict
    limits := { casing := some 7, spacing := none } }

/-- Some fields of them. -/
def Settings.tunedFields : List Path :=
  [[.key "output"], [.key "output", .key "color"], [.key "engine", .key "jobs"],
    [.key "table", .key "keywords"], [.key "table", .key "thresholds", .key "casing"],
    [.key "table", .key "spacers", .item 1, .key "required_scope"]]

theorem settings_read_back_tuned :
    Settings.tuned.IsSized ∧
      (∀ path ∈ Settings.tunedFields, Settings.isDefaultable path = true) ∧
      Decode.settings Json.reader
          ((Encode.settings Settings.tuned).prune (fun path => path ∈ Settings.tunedFields)) =
        some { Settings.tuned with
          engine := { parallel := false }
          output := {}
          table := { Settings.tuned.table with
            keywords := ["eoi", "NullObject", "JSONObject"]
            spacers := [⟨"=", "code", "tab"⟩, ⟨"<", "", "tab"⟩]
            limits := { casing := none, spacing := none } } } ∧
      Decode.settings Json.reader (Encode.settings Settings.tuned) = some Settings.tuned ∧
      (Encode.limits Settings.tuned.table.limits).field? "spacing" = some .null ∧
      Decode.settings Json.reader ((Encode.settings Settings.tuned).prune
          (fun path => path == [.key "table", .key "thresholds", .key "spacing"])) =
        some { Settings.tuned with table := { Settings.tuned.table with
          limits := { casing := some 7, spacing := some 2500 } } } ∧
      Decode.diagnostic Json.reader
          (Encode.diagnostic ⟨"casing", .error, "\"", ⟨⟨0, 1⟩, ⟨2, 0⟩⟩, some "Foo"⟩) =
        some ⟨"casing", .error, "\"", ⟨⟨0, 1⟩, ⟨2, 0⟩⟩, some "Foo"⟩ := by
  have hsized : Settings.tuned.IsSized := by
    refine ⟨by decide, fun f n h => ?_⟩
    cases f <;> cases h
    decide
  have hfields : ∀ path ∈ Settings.tunedFields, Settings.isDefaultable path = true := by decide
  obtain ⟨hsome, hall, hlimit, hdiagnostic⟩ := settings_read_back hsized
    (fun path hpath => hfields path (of_decide_eq_true hpath))
    (d := ⟨"casing", .error, "\"", ⟨⟨0, 1⟩, ⟨2, 0⟩⟩, some "Foo"⟩)
    ⟨by decide, by decide⟩ ⟨by decide, by decide⟩
  exact ⟨hsized, hfields, hsome, hall, (hlimit .spacing).1 rfl, (hlimit .spacing).2, hdiagnostic⟩

end Defaults

end ScopeLint
