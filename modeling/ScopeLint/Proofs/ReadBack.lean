import Mathlib.Data.List.Forall2
import ScopeLint.Output.Formatter
import ScopeLint.Proofs.JsonText

/-!
# Reading the output back

The output for programs keeps all that a summary says about the files: the diagnostics in their
order, each with its file, and the counts.  They are read back here field by field, from the value
that either layout of the output stands for.  So the output of two summaries can only be the same
where they agree in all of that.
-/

namespace ScopeLint.JsonOutput

/-- What the output keeps of a summary. -/
structure Content where
  diagnostics : List (String × Diagnostic)
  filesProcessed : Nat
  filesWithErrors : Nat
  filesWithWarnings : Nat
  errorCount : Nat
  warningCount : Nat
  infoCount : Nat
  milliseconds : Nat
  deriving Repr, DecidableEq

def Content.ofSummary (s : Summary) : Content where
  diagnostics := s.diagnostics
  filesProcessed := s.filesProcessed
  filesWithErrors := s.filesWithErrors
  filesWithWarnings := s.filesWithWarnings
  errorCount := s.errorCount
  warningCount := s.warningCount
  infoCount := s.infoCount
  milliseconds := Duration.millis s.duration

/-! ## Reading fields -/

def textAt? (j : Json) (key : String) : Option String :=
  match j.field? key with
  | some (.string s) => some s
  | _ => none

def countAt? (j : Json) (key : String) : Option Nat :=
  match j.field? key with
  | some (.integer (.ofNat n)) => some n
  | _ => none

/-- The row or column in a field, in which it is counted from one. -/
def placeAt? (j : Json) (key : String) : Option Nat :=
  match countAt? j key with
  | some (n + 1) => some n
  | _ => none

/-- The text in a field that may be left out. -/
def optionalTextAt? (j : Json) (key : String) : Option (Option String) :=
  match j.field? key with
  | none => some none
  | some (.string s) => some (some s)
  | some _ => none

/-- The diagnostic that a value shows, with its file. -/
def diagnostic? (j : Json) : Option (String × Diagnostic) := do
  let path ← textAt? j "file"
  let start : Position := ⟨← placeAt? j "line", ← placeAt? j "column"⟩
  let stop : Position := ⟨← placeAt? j "end_line", ← placeAt? j "end_column"⟩
  return (path,
    { rule := ← textAt? j "rule_id"
      severity := ← (textAt? j "severity").bind Severity.named?
      message := ← textAt? j "message"
      span := ⟨start, stop⟩
      suggestion := ← optionalTextAt? j "suggestion" })

/-- The diagnostics and counts that a value shows. -/
def content? (j : Json) : Option Content :=
  match j.field? "diagnostics", j.field? "summary" with
  | some (.array items), some counts => do
    return { diagnostics := ← items.mapM diagnostic?
             filesProcessed := ← countAt? counts "files_processed"
             filesWithErrors := ← countAt? counts "files_with_errors"
             filesWithWarnings := ← countAt? counts "files_with_warnings"
             errorCount := ← countAt? counts "error_count"
             warningCount := ← countAt? counts "warning_count"
             infoCount := ← countAt? counts "info_count"
             milliseconds := ← countAt? counts "duration_ms" }
  | _, _ => none

/-! ## What stands in the fields -/

theorem textAt?_of_field? {j : Json} {key s : String} (h : j.field? key = some (.string s)) :
    textAt? j key = some s := by
  rw [textAt?, h]

theorem countAt?_of_field? {j : Json} {key : String} {n : Nat} (h : j.field? key = some (.nat n)) :
    countAt? j key = some n := by
  rw [countAt?, h]
  rfl

theorem placeAt?_of_field? {j : Json} {key : String} {n : Nat}
    (h : j.field? key = some (.nat (n + 1))) : placeAt? j key = some n := by
  rw [placeAt?, countAt?_of_field? h]

theorem optionalTextAt?_of_field? {j : Json} {key : String} {o : Option String}
    (h : j.field? key = o.map .string) : optionalTextAt? j key = some o := by
  cases o with
  | none => rw [optionalTextAt?, h]; rfl
  | some s => rw [optionalTextAt?, h]; rfl

/-- The value shows a diagnostic of a file: rows and columns are counted from one, and the
suggestion is left out exactly where there is none. -/
structure Shows (j : Json) (path : String) (d : Diagnostic) : Prop where
  rule : j.field? "rule_id" = some (.string d.rule)
  severity : j.field? "severity" = some (.string d.severity.text)
  message : j.field? "message" = some (.string d.message)
  file : j.field? "file" = some (.string path)
  line : j.field? "line" = some (.nat (d.span.start.row + 1))
  column : j.field? "column" = some (.nat (d.span.start.column + 1))
  endLine : j.field? "end_line" = some (.nat (d.span.stop.row + 1))
  endColumn : j.field? "end_column" = some (.nat (d.span.stop.column + 1))
  suggestion : j.field? "suggestion" = d.suggestion.map .string

theorem shows_diagnostic (path : String) (d : Diagnostic) : Shows (diagnostic path d) path d := by
  refine ⟨rfl, rfl, rfl, rfl, rfl, rfl, rfl, rfl, ?_⟩
  unfold diagnostic
  cases d.suggestion <;> rfl

/-- A diagnostic that is shown is read. -/
theorem Shows.diagnostic?_eq {j : Json} {path : String} {d : Diagnostic} (h : Shows j path d) :
    diagnostic? j = some (path, d) := by
  have hseverity : (textAt? j "severity").bind Severity.named? = some d.severity := by
    rw [textAt?_of_field? h.severity, Option.bind_some, Severity.named?_text]
  simp only [diagnostic?, textAt?_of_field? h.file, placeAt?_of_field? h.line,
    placeAt?_of_field? h.column, placeAt?_of_field? h.endLine, placeAt?_of_field? h.endColumn,
    textAt?_of_field? h.rule, hseverity, textAt?_of_field? h.message,
    optionalTextAt?_of_field? h.suggestion, Option.bind_eq_bind, Option.bind_some]
  rfl

theorem mapM_diagnostic? {items : List Json} {shown : List (String × Diagnostic)}
    (h : List.Forall₂ (fun item e => Shows item e.1 e.2) items shown) :
    items.mapM diagnostic? = some shown := by
  induction h with
  | nil => rfl
  | cons hitem _ ih => rw [List.mapM_cons, hitem.diagnostic?_eq, ih]; rfl

theorem forall₂_shows (shown : List (String × Diagnostic)) :
    List.Forall₂ (fun item e => Shows item e.1 e.2)
      (shown.map (fun (path, d) => diagnostic path d)) shown := by
  rw [List.forall₂_map_left_iff, List.forall₂_same]
  exact fun e _ => shows_diagnostic e.1 e.2

theorem content?_summary (s : Summary) : content? (summary s) = some (.ofSummary s) := by
  have hdiagnostics : (summary s).field? "diagnostics" =
      some (.array (s.diagnostics.map (fun (path, d) => diagnostic path d))) := rfl
  have hcounts : (summary s).field? "summary" = some (counts s) := rfl
  simp only [content?, hdiagnostics, hcounts, mapM_diagnostic? (forall₂_shows s.diagnostics)]
  rfl

/-! ## The texts -/

theorem plain_diagnostic (path : String) (d : Diagnostic) : Json.Plain (diagnostic path d) := by
  refine .object (List.forall_mem_append.2 ⟨by simp, ?_⟩)
  cases d.suggestion <;> simp

/-- The value of a summary holds integers and texts only, so it can be read back. -/
theorem plain_summary (s : Summary) : Json.Plain (summary s) := by
  have hdiagnostics :
      Json.Plain (.array (s.diagnostics.map (fun (path, d) => diagnostic path d))) := by
    refine .array fun j hj => ?_
    obtain ⟨e, -, rfl⟩ := List.mem_map.1 hj
    exact plain_diagnostic e.1 e.2
  have hcounts : Json.Plain (counts s) := .object (by simp)
  exact .object (by simp [hdiagnostics, hcounts])

/-- The value of the output is read from both layouts. -/
theorem read?_format (pretty : Bool) (s : Summary) :
    Json.read? ((Formatter.json pretty).format s) = some (summary s) := by
  cases pretty with
  | false => exact Json.read?_compact (plain_summary s)
  | true => exact Json.read?_pretty (plain_summary s)

/-- Both layouts of the output of a summary stand for one value.  It shows the diagnostics in their
order, and what is read from it is the whole content of the summary.  So two summaries that differ
in their content are printed differently, in whichever layouts. -/
theorem json_output_reads_back (s : Summary) :
    ∃ value items,
      (∀ pretty, Json.read? ((Formatter.json pretty).format s) = some value) ∧
      value.field? "diagnostics" = some (.array items) ∧
      List.Forall₂ (fun item e => Shows item e.1 e.2) items s.diagnostics ∧
      content? value = some (.ofSummary s) ∧
      ∀ (other : Summary) (pretty pretty' : Bool),
        (Formatter.json pretty).format s = (Formatter.json pretty').format other →
          Content.ofSummary s = Content.ofSummary other := by
  refine ⟨summary s, _, fun pretty => read?_format pretty s, rfl, forall₂_shows s.diagnostics,
    content?_summary s, ?_⟩
  intro other pretty pretty' htext
  have hvalue : some (summary s) = some (summary other) := by
    rw [← read?_format pretty s, htext, read?_format]
  have hcontent : some (Content.ofSummary s) = some (Content.ofSummary other) := by
    rw [← content?_summary s, Option.some.inj hvalue, content?_summary]
  exact Option.some.inj hcontent

end ScopeLint.JsonOutput
