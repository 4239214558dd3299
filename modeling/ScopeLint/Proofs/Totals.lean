import ScopeLint.Proofs.Accounting
import ScopeLint.Proofs.Merging

/-!
# The counts of a summary

A summary keeps its counts beside its files, and a merge adds them up without looking at the files.
However a summary is made, its counts are those of its files, and each timing is kept under its own
rule.  Where the files were linted, the timing of a family counts the diagnostics of that family in
all files, those that could not be read or linted included.
-/

namespace ScopeLint

variable {π : Type}

/-! ## How summaries are made -/

def FileReport.holds (f : FileReport π) (severity : Severity) : Bool :=
  f.diagnostics.any (fun x => x.severity == severity)

namespace Summary

/-- The summaries that are made of reports by merges. -/
inductive IsBuilt : Summary π → Prop
  | empty : IsBuilt {}
  | report (path : π) (r : Report) : IsBuilt (.ofReport path r)
  | merge {a b : Summary π} : IsBuilt a → IsBuilt b → IsBuilt (a.merge b)

def found (s : Summary π) : List Diagnostic := s.files.flatMap (·.diagnostics)

def count (s : Summary π) (severity : Severity) : Nat :=
  s.found.countP (fun x => x.severity == severity)

/-- The counts are those of the files, and each timing is kept under its own rule. -/
structure IsAccurate (s : Summary π) : Prop where
  filesProcessed : s.filesProcessed = s.files.length
  filesWithErrors : s.filesWithErrors = s.files.countP (·.holds .error)
  filesWithWarnings : s.filesWithWarnings = s.files.countP (·.holds .warning)
  errorCount : s.errorCount = s.count .error
  warningCount : s.warningCount = s.count .warning
  infoCount : s.infoCount = s.count .info
  keyed : s.byRule.IsKeyed

theorem found_merge (a b : Summary π) : (a.merge b).found = a.found ++ b.found :=
  List.flatMap_append

theorem count_merge (a b : Summary π) (severity : Severity) :
    (a.merge b).count severity = a.count severity + b.count severity := by
  rw [count, found_merge, List.countP_append, count, count]

theorem found_ofReport (path : π) (r : Report) : (ofReport path r).found = r.diagnostics :=
  List.flatMap_singleton ..

theorem count_ofReport (path : π) (r : Report) (severity : Severity) :
    (ofReport path r).count severity = r.count severity := by
  rw [count, found_ofReport, Report.count]

theorem isAccurate_empty : ({} : Summary π).IsAccurate :=
  ⟨rfl, rfl, rfl, rfl, rfl, rfl, TimingMap.isKeyed_empty⟩

/-- One file counts where it has at least one diagnostic of the severity. -/
theorem countP_holds (path : π) (r : Report) (severity : Severity) :
    (if 0 < r.count severity then 1 else 0) =
      (ofReport path r).files.countP (·.holds severity) := by
  have hholds : (FileReport.holds ⟨path, r.diagnostics, r.disabled⟩ severity) =
      decide (0 < r.count severity) := by
    rw [FileReport.holds, Report.count, Bool.eq_iff_iff, List.any_eq_true, decide_eq_true_iff,
      List.countP_pos_iff]
  rw [ofReport, List.countP_singleton, hholds]
  simp only [decide_eq_true_eq]

theorem isAccurate_ofReport (path : π) (r : Report) : (ofReport path r).IsAccurate where
  filesProcessed := rfl
  filesWithErrors := countP_holds path r .error
  filesWithWarnings := countP_holds path r .warning
  errorCount := (count_ofReport path r .error).symm
  warningCount := (count_ofReport path r .warning).symm
  infoCount := (count_ofReport path r .info).symm
  keyed := TimingMap.isKeyed_ofTimings r.timings

/-- Counts add up in a merge, and so do the files they are counted from. -/
theorem IsAccurate.merge {a b : Summary π} (ha : a.IsAccurate) (hb : b.IsAccurate) :
    (a.merge b).IsAccurate where
  filesProcessed := by
    rw [Summary.merge, List.length_append, ha.filesProcessed, hb.filesProcessed]
  filesWithErrors := by
    rw [Summary.merge, List.countP_append, ha.filesWithErrors, hb.filesWithErrors]
  filesWithWarnings := by
    rw [Summary.merge, List.countP_append, ha.filesWithWarnings, hb.filesWithWarnings]
  errorCount := by rw [count_merge, ← ha.errorCount, ← hb.errorCount]; rfl
  warningCount := by rw [count_merge, ← ha.warningCount, ← hb.warningCount]; rfl
  infoCount := by rw [count_merge, ← ha.infoCount, ← hb.infoCount]; rfl
  keyed := ha.keyed.merge hb.keyed

/-- Every summary made of reports by merges is accurate. -/
theorem IsBuilt.isAccurate {s : Summary π} (h : s.IsBuilt) : s.IsAccurate := by
  induction h with
  | empty => exact isAccurate_empty
  | report path r => exact isAccurate_ofReport path r
  | merge _ _ iha ihb => exact iha.merge ihb

theorem count_pos_iff (s : Summary π) (severity : Severity) :
    0 < s.count severity ↔ s.files.any (·.holds severity) = true := by
  simp only [count, found, List.countP_pos_iff, List.any_eq_true, FileReport.holds,
    List.mem_flatMap]
  constructor
  · rintro ⟨x, ⟨f, hf, hx⟩, hseverity⟩
    exact ⟨f, hf, x, hx, hseverity⟩
  · rintro ⟨f, hf, x, hx, hseverity⟩
    exact ⟨x, ⟨f, hf, hx⟩, hseverity⟩

/-- The exit code tells the highest severity of all files. -/
theorem IsAccurate.exitCode_eq {s : Summary π} (h : s.IsAccurate) :
    s.exitCode = if s.files.any (·.holds .error) then 2
      else if s.files.any (·.holds .warning) then 1 else 0 := by
  rw [exitCode, h.errorCount, h.warningCount]
  simp only [count_pos_iff]

end Summary

/-! ## Diagnostics by family -/

namespace TimingMap

/-- The number of diagnostics that the timing of a rule tells. -/
def diagnosticsOf (m : TimingMap) (rule : String) : Nat :=
  ((m.get? rule).map (·.diagnostics)).getD 0

theorem diagnosticsOf_join (a b : Option Timing) :
    ((Timing.join a b).map (·.diagnostics)).getD 0 =
      (a.map (·.diagnostics)).getD 0 + (b.map (·.diagnostics)).getD 0 := by
  cases a <;> cases b <;> simp [Timing.join, Timing.absorb]

theorem diagnosticsOf_merge (a b : TimingMap) (rule : String) :
    (a.merge b).diagnosticsOf rule = a.diagnosticsOf rule + b.diagnosticsOf rule := by
  rw [diagnosticsOf, get?_merge, diagnosticsOf_join, diagnosticsOf, diagnosticsOf]

theorem diagnosticsOf_absorb (m : TimingMap) (t : Timing) (rule : String) :
    (m.absorb t.rule t).diagnosticsOf rule =
      m.diagnosticsOf rule + if rule = t.rule then t.diagnostics else 0 := by
  rw [diagnosticsOf, get?_absorb]
  split
  case isTrue h =>
    rw [h, diagnosticsOf_join]
    rfl
  case isFalse => rfl

/-- Entries that tell the lengths of blocks of diagnostics, each block of one family. -/
theorem diagnosticsOf_blocks {blocks : List (Family × List Diagnostic)} {timings : List Timing}
    (htimings : timings.map (fun t => (t.rule, t.runs, t.diagnostics)) =
      blocks.map (fun block => (block.1.id, 1, block.2.length)))
    (hmarked : ∀ block ∈ blocks, ∀ x ∈ block.2, x.rule = block.1.id) (rule : String)
    (m : TimingMap) :
    (timings.foldl (fun m t => m.absorb t.rule t) m).diagnosticsOf rule =
      m.diagnosticsOf rule + (blocks.flatMap Prod.snd).countP (fun x => x.rule == rule) := by
  induction blocks generalizing timings m with
  | nil =>
    rw [List.map_nil, List.map_eq_nil_iff] at htimings
    rw [htimings]
    rfl
  | cons block blocks ih =>
    obtain ⟨t, timings, rfl, ht, htimings⟩ := List.map_eq_cons_iff.1 htimings
    obtain ⟨hrule, -, hlength⟩ : t.rule = block.1.id ∧ t.runs = 1 ∧
        t.diagnostics = block.2.length := by simpa using ht
    have hblock : (block.2.countP fun x => x.rule == rule) =
        if rule = t.rule then t.diagnostics else 0 := by
      have hown := hmarked block List.mem_cons_self
      split
      case isTrue h =>
        rw [hlength, List.countP_eq_length]
        exact fun x hx => beq_iff_eq.2 ((hown x hx).trans (hrule.symm.trans h.symm))
      case isFalse h =>
        rw [List.countP_eq_zero]
        exact fun x hx hx' =>
          h ((beq_iff_eq.1 hx').symm.trans ((hown x hx).trans hrule.symm))
    rw [List.foldl_cons, ih htimings fun b hb => hmarked b (List.mem_cons_of_mem block hb),
      diagnosticsOf_absorb, List.flatMap_cons, List.countP_append, hblock, Nat.add_assoc]

end TimingMap

namespace Linter

/-- The entries of a report tell how many diagnostics each family has. -/
theorem diagnosticsOf_lintText {l : Linter} {text : String} {report : Report}
    (h : l.lintText text = .ok report) (f : Family) :
    (TimingMap.ofTimings report.timings).diagnosticsOf f.id =
      report.diagnostics.countP (fun x => x.rule == f.id) := by
  obtain ⟨blocks, done, hblocks, rfl⟩ := accounts_of_lint h
  have hnotice : ∀ disabled : List Family, (notice disabled).rule ≠ f.id := by
    intro disabled hrule
    exact f.id_ne_skippedRule hrule.symm
  have hcount : (done.report.diagnostics.countP fun x => x.rule == f.id) =
      (blocks.flatMap Prod.snd).countP (fun x => x.rule == f.id) := by
    rw [Accounts.diagnostics_report, List.countP_append, ← hblocks.diagnostics]
    split <;> simp [hnotice]
  rw [hcount, ← Nat.zero_add (List.countP _ _)]
  exact TimingMap.diagnosticsOf_blocks hblocks.timings
    (fun block hblock x hx => (hblocks.marked block hblock x hx).1) f.id .empty

/-- A file that cannot be linted has no timing and no diagnostic of a family. -/
theorem diagnosticsOf_failure {rule : String} (message : String) {f : Family} (h : rule ≠ f.id) :
    (TimingMap.ofTimings (failure rule message).timings).diagnosticsOf f.id =
      (failure rule message).diagnostics.countP (fun x => x.rule == f.id) := by
  have hcount : (failure rule message).diagnostics.countP (fun x => x.rule == f.id) = 0 := by
    rw [List.countP_eq_zero]
    intro x hx hrule
    rw [failure, List.mem_singleton] at hx
    rw [hx] at hrule
    exact h (beq_iff_eq.1 hrule)
  rw [hcount]
  rfl

variable (l : Linter) (read : π → Except ReadError String)

theorem lintFile_tallies (path : π) (f : Family) :
    (l.lintFile read path).byRule.diagnosticsOf f.id =
      (l.lintFile read path).found.countP (fun x => x.rule == f.id) := by
  obtain ⟨report, hfile, ⟨text, hreport⟩ | ⟨rule, hrule, message, rfl⟩⟩ :=
    l.lintFile_cases read path
  · rw [hfile, Summary.found_ofReport]
    exact diagnosticsOf_lintText hreport f
  · rw [hfile, Summary.found_ofReport]
    apply diagnosticsOf_failure
    rintro rfl
    cases f <;> exact absurd hrule (by decide)

/-- The timings of all files tell how many diagnostics each family has in them. -/
theorem lintFiles_tallies (paths : List π) (f : Family) :
    (l.lintFiles read paths).byRule.diagnosticsOf f.id =
      (l.lintFiles read paths).found.countP (fun x => x.rule == f.id) := by
  induction paths with
  | nil => rfl
  | cons path paths ih =>
    rw [lintFiles_cons, Summary.found_merge, List.countP_append, ← ih, ← lintFile_tallies]
    exact TimingMap.diagnosticsOf_merge _ _ _

theorem lintFiles_isBuilt (paths : List π) : (l.lintFiles read paths).IsBuilt := by
  induction paths with
  | nil => exact .empty
  | cons path paths ih =>
    obtain ⟨report, hreport, -⟩ := l.lintFile_cases read path
    rw [lintFiles_cons, hreport]
    exact .merge (.report path report) ih

end Linter

/-- Summaries count right.  Whatever reports a summary is made of, by merges in any order, its
counts are those of its files, each timing is kept under its own rule, and the exit code tells the
highest severity.  Where files were linted, the timing of each family tells how many diagnostics of
that family all files have, and there are none of a family without timing. -/
theorem summaries_count_right :
    (∀ s : Summary π, s.IsBuilt → s.IsAccurate ∧
      s.exitCode = if s.files.any (·.holds .error) then 2
        else if s.files.any (·.holds .warning) then 1 else 0) ∧
    ∀ (l : Linter) (read : π → Except ReadError String) (paths : List π),
      (l.lintFiles read paths).IsBuilt ∧
      ∀ f : Family,
        (∀ t, (l.lintFiles read paths).byRule.get? f.id = some t →
          t.diagnostics = (l.lintFiles read paths).found.countP (fun x => x.rule == f.id)) ∧
        ((l.lintFiles read paths).byRule.get? f.id = none →
          (l.lintFiles read paths).found.countP (fun x => x.rule == f.id) = 0) := by
  refine ⟨fun s hs => ⟨hs.isAccurate, hs.isAccurate.exitCode_eq⟩, fun l read paths =>
    ⟨l.lintFiles_isBuilt read paths, fun f => ?_⟩⟩
  rw [← l.lintFiles_tallies read paths f, TimingMap.diagnosticsOf]
  constructor
  · intro t ht
    rw [ht]
    rfl
  · intro hnone
    rw [hnone]
    rfl

/-- A file with something for each family, one that is no text, and no others. -/
def shelf : String → Except ReadError String
  | "crowded" => .ok "EOI=(\n$x"
  | "raw" => .error .notText
  | _ => .error .notFound

/-- The standard linter, which leaves out the spacing of more than one row. -/
def Linter.hurried : Linter := Linter.standard.configured Family.all { spacing := some 1 }

/-- Two runs, one of them merged into nothing before: a file that is given twice, two that cannot be
read, and a family that is left out. -/
theorem summaries_count_right_shelf :
    (∃ s : Summary, s = (Linter.hurried.lintFiles shelf ["crowded", "missing"]).merge
        (.merge {} (Linter.hurried.lintFiles shelf ["raw", "crowded"])) ∧
      s.files.length = 4 ∧ s.errorCount = 4 ∧ s.IsAccurate ∧ s.exitCode = 2) ∧
    ∃ (s : Summary) (t : Timing),
      s = Linter.hurried.lintFiles shelf ["crowded", "missing", "crowded"] ∧
      s.byRule.get? "bracket-match" = some t ∧ t.diagnostics = 2 ∧
      t.diagnostics = s.found.countP (fun x => x.rule == "bracket-match") ∧
      s.byRule.get? "spacing" = none ∧ s.found.countP (fun x => x.rule == "spacing") = 0 := by
  obtain ⟨hbuilt, hlinted⟩ := @summaries_count_right String
  obtain ⟨hfirst, -⟩ := hlinted Linter.hurried shelf ["crowded", "missing"]
  obtain ⟨hsecond, -⟩ := hlinted Linter.hurried shelf ["raw", "crowded"]
  obtain ⟨haccurate, -⟩ := hbuilt _ (.merge hfirst (.merge .empty hsecond))
  obtain ⟨-, htimings⟩ := hlinted Linter.hurried shelf ["crowded", "missing", "crowded"]
  have hbrackets : (Linter.hurried.lintFiles shelf ["crowded", "missing", "crowded"]).byRule.get?
      "bracket-match" = some ⟨"bracket-match", 0, 2, 2, 2⟩ := by
    decide +kernel
  have hspacing : (Linter.hurried.lintFiles shelf ["crowded", "missing", "crowded"]).byRule.get?
      "spacing" = none := by
    decide +kernel
  refine ⟨⟨_, rfl, ?_, ?_, haccurate, ?_⟩, _, _, rfl, hbrackets, rfl, ?_, hspacing, ?_⟩
  · decide +kernel
  · decide +kernel
  · decide +kernel
  · exact (htimings .brackets).1 _ hbrackets
  · exact (htimings .spacing).2 hspacing

end ScopeLint
