import ScopeLint.Files
import ScopeLint.Linter

/-!
# Summaries over files

The reports of several files with their counts.  The timings are kept by rule and sorted, one entry
for each rule, so that the order in which files come does not show in them.  A path is only handed
to the file system and back, so any type of paths will do; it is text unless said otherwise.
-/

namespace ScopeLint

structure FileReport (π : Type := String) where
  path : π
  diagnostics : List Diagnostic
  disabled : List Family
  deriving Repr, DecidableEq

/-- Timings under keys, sorted by key, each key once. -/
structure TimingMap where
  entries : List (String × Timing)
  sorted : entries.Pairwise (fun a b => a.1 < b.1)
  deriving Repr, DecidableEq

namespace TimingMap

def empty : TimingMap := ⟨[], .nil⟩

/-- Add an entry to what is kept under a key; under a new key that is an entry of the same rule
with nothing in it. -/
def absorbAt (key : String) (t : Timing) : List (String × Timing) → List (String × Timing)
  | [] => [(key, Timing.absorb { rule := t.rule } t)]
  | first :: rest =>
    if key = first.1 then (first.1, first.2.absorb t) :: rest
    else if key < first.1 then (key, Timing.absorb { rule := t.rule } t) :: first :: rest
    else first :: absorbAt key t rest

/-- Only the key can be new. -/
theorem key_of_mem_absorbAt {key : String} {t : Timing} {entries : List (String × Timing)}
    {e : String × Timing} (h : e ∈ absorbAt key t entries) :
    e.1 = key ∨ ∃ e' ∈ entries, e'.1 = e.1 := by
  induction entries with
  | nil =>
    rw [absorbAt, List.mem_singleton] at h
    exact .inl (congrArg Prod.fst h)
  | cons first rest ih =>
    rw [absorbAt] at h
    split at h
    · rcases List.mem_cons.1 h with rfl | h
      · exact .inr ⟨first, List.mem_cons_self, rfl⟩
      · exact .inr ⟨e, List.mem_cons_of_mem first h, rfl⟩
    · split at h
      · rcases List.mem_cons.1 h with rfl | h
        · exact .inl rfl
        · exact .inr ⟨e, h, rfl⟩
      · rcases List.mem_cons.1 h with rfl | h
        · exact .inr ⟨e, List.mem_cons_self, rfl⟩
        · rcases ih h with hkey | ⟨e', he', hkey⟩
          · exact .inl hkey
          · exact .inr ⟨e', List.mem_cons_of_mem first he', hkey⟩

theorem absorbAt_sorted (key : String) (t : Timing) {entries : List (String × Timing)}
    (h : entries.Pairwise (fun a b => a.1 < b.1)) :
    (absorbAt key t entries).Pairwise (fun a b => a.1 < b.1) := by
  induction entries with
  | nil => exact List.pairwise_singleton _ _
  | cons first rest ih =>
    obtain ⟨hfirst, hrest⟩ := List.pairwise_cons.1 h
    rw [absorbAt]
    split
    · exact List.pairwise_cons.2 ⟨hfirst, hrest⟩
    case isFalse hne =>
      split
      case isTrue hlt =>
        refine List.pairwise_cons.2 ⟨fun e he => ?_, h⟩
        rcases List.mem_cons.1 he with rfl | he
        · exact hlt
        · exact String.lt_trans hlt (hfirst e he)
      case isFalse hge =>
        refine List.pairwise_cons.2 ⟨fun e he => ?_, ih hrest⟩
        rcases key_of_mem_absorbAt he with hkey | ⟨e', he', hkey⟩
        · rw [hkey]
          exact Std.lt_of_le_of_ne (String.not_lt.1 hge) (Ne.symm hne)
        · rw [← hkey]
          exact hfirst e' he'

def absorb (m : TimingMap) (key : String) (t : Timing) : TimingMap :=
  ⟨absorbAt key t m.entries, absorbAt_sorted key t m.sorted⟩

/-- Add all entries of another map, each under its key. -/
def merge (a b : TimingMap) : TimingMap := b.entries.foldl (fun m e => m.absorb e.1 e.2) a

/-- The map of the entries of a report, each under its rule. -/
def ofTimings (timings : List Timing) : TimingMap :=
  timings.foldl (fun m t => m.absorb t.rule t) empty

end TimingMap

/-- The outcome of linting a list of files. -/
structure Summary (π : Type := String) where
  /-- In the order in which the files were given. -/
  files : List (FileReport π) := []
  filesProcessed : Nat := 0
  filesWithErrors : Nat := 0
  filesWithWarnings : Nat := 0
  errorCount : Nat := 0
  warningCount : Nat := 0
  infoCount : Nat := 0
  /-- In nanoseconds. -/
  duration : Nat := 0
  /-- What each rule did in all files. -/
  byRule : TimingMap := .empty
  deriving Repr, DecidableEq

namespace Summary

variable {π : Type}

def ofReport (path : π) (r : Report) : Summary π :=
  { files := [⟨path, r.diagnostics, r.disabled⟩]
    filesProcessed := 1
    filesWithErrors := if 0 < r.count .error then 1 else 0
    filesWithWarnings := if 0 < r.count .warning then 1 else 0
    errorCount := r.count .error
    warningCount := r.count .warning
    infoCount := r.count .info
    byRule := .ofTimings r.timings }

/-- Both summaries together; the duration is that of the first. -/
def merge (a b : Summary π) : Summary π :=
  { files := a.files ++ b.files
    filesProcessed := a.filesProcessed + b.filesProcessed
    filesWithErrors := a.filesWithErrors + b.filesWithErrors
    filesWithWarnings := a.filesWithWarnings + b.filesWithWarnings
    errorCount := a.errorCount + b.errorCount
    warningCount := a.warningCount + b.warningCount
    infoCount := a.infoCount + b.infoCount
    duration := a.duration
    byRule := a.byRule.merge b.byRule }

/-- 2 with errors, else 1 with warnings, else 0. -/
def exitCode (s : Summary π) : Nat :=
  if 0 < s.errorCount then 2 else if 0 < s.warningCount then 1 else 0

def diagnostics (s : Summary π) : List (π × Diagnostic) :=
  s.files.flatMap (fun f => f.diagnostics.map (fun d => (f.path, d)))

def timings (s : Summary π) : List Timing := s.byRule.entries.map Prod.snd

/-- The timings, the longest total first. -/
def sortedTimings (s : Summary π) : List Timing :=
  s.timings.mergeSort (fun a b => decide (b.total ≤ a.total))

end Summary

namespace Linter

variable {π : Type}

/-- The report of a file that could not be linted. -/
def failure (rule message : String) : Report :=
  { diagnostics := [Diagnostic.ofMessage rule .error message (Span.emptyAt Position.origin)] }

/-- The summary of one file, given what linting it yields. -/
def settle (path : π) (outcome : Except LintError Report) : Summary π :=
  match outcome with
  | .ok report => .ofReport path report
  | .error e => .ofReport path (failure failedRule ("Lint failed: " ++ e.message))

def unreadable (path : π) (e : ReadError) : Summary π :=
  .ofReport path (failure unreadableRule ("Failed to read file: " ++ e.message))

def lintFile (l : Linter) (read : π → Except ReadError String) (path : π) : Summary π :=
  match read path with
  | .ok text => settle path (l.lintText text)
  | .error e => unreadable path e

def lintFiles (l : Linter) (read : π → Except ReadError String) (paths : List π) : Summary π :=
  paths.foldl (fun acc path => acc.merge (l.lintFile read path)) {}

end Linter

def unreadableWarning (path : String) (e : ReadError) : String :=
  s!"Failed to read {path}: {e.message}"

end ScopeLint
