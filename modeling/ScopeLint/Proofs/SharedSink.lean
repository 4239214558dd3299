import ScopeLint.Proofs.Reported

/-!
# A pass over one sink

A pass can be run step by step: the families share one sink, each adds to it while it goes through
its matches, the length of the sink is read before and after, and the first refusal ends the pass.
Below, every loop is written out in this way and shown to come to what the families find by
themselves.  So what a sink holds has no influence on what is added to it.
-/

namespace ScopeLint

/-- The number of matches looked at so far, and the sink. -/
structure Tally where
  examined : Nat
  sink : Sink

namespace Tally

def skip (t : Tally) : Tally := { t with examined := t.examined + 1 }

def flag (t : Tally) (f : Family) (severity : Severity) (message : String) (span : Span) :
    Except LintError Tally := do
  return ⟨t.examined + 1, ← t.sink.add f.id severity message (.span span)⟩

def plus (t : Tally) (found : Findings) : Tally :=
  ⟨t.examined + found.examined, ⟨t.sink.document, t.sink.diagnostics ++ found.diagnostics⟩⟩

end Tally

/-! ## The loops -/

def Casing.look (ctx : Context) (severity : Severity) (keyword : Keyword) (t : Tally) (m : Match) :
    Except LintError Tally := do
  if m.text = keyword.text then return t.skip
  if !(← ctx.isTypicalAt m.span.start) then return t.skip
  t.flag .casing severity (message keyword.text) m.span

def Spacing.look (ctx : Context) (severity : Severity) (spacer : Spacer) (t : Tally) (m : Match) :
    Except LintError Tally := do
  let path ← ctx.pathAt m.span.start
  if !Scope.isTypical path then return t.skip
  if spacer.requiredScope ≠ "" ∧ !Scope.carries path spacer.requiredScope then return t.skip
  if ← isSpacedBefore ctx spacer.breakScope m.span.start then
    if ← isSpaced ctx spacer.breakScope m.span.stop then return t.skip
  t.flag .spacing severity message m.span

def Naming.look (ctx : Context) (severity : Severity) (t : Tally) (m : Match) :
    Except LintError Tally := do
  let path ← ctx.pathAt m.span.start
  if !Scope.isTypical path || Scope.carries path Scope.constant then return t.skip
  if isHungarian (m.text.toList.drop 1) then return t.skip
  t.flag .naming severity message m.span

namespace Brackets

/-- Look at a bracket, given the number of matches looked at and the brackets without a partner. -/
def look (ctx : Context) (read : Nat × Unpaired) (m : Match) :
    Except LintError (Nat × Unpaired) := do
  if !(← ctx.isTypicalAt m.span.start) then return (read.1 + 1, read.2)
  return (read.1 + 1, read.2.step ctx.table.strategy ⟨m.hasGroup openingGroup, m.span.start⟩)

/-- Go through the brackets of a pair, then report those without a partner. -/
def runPair (ctx : Context) (severity : Severity) (t : Tally) (pair : Pattern) :
    Except LintError Tally := do
  let read ← (pair.scan ctx.document).foldlM (look ctx) (t.examined, ⟨[], []⟩)
  let sink ← read.2.positions.foldlM
    (fun sink p => sink.add Family.brackets.id severity message (.span (Span.charAt p))) t.sink
  return ⟨read.1, sink⟩

end Brackets

/-- Run one family on a sink. -/
def Family.run (f : Family) (ctx : Context) (severity : Severity) (sink : Sink) :
    Except LintError Tally :=
  match f with
  | .casing => ctx.table.keywords.foldlM (fun t keyword =>
      (keyword.pattern.scan ctx.document).foldlM (Casing.look ctx severity keyword) t) ⟨0, sink⟩
  | .spacing => ctx.table.spacers.foldlM (fun t spacer =>
      (spacer.pattern.scan ctx.document).foldlM (Spacing.look ctx severity spacer) t) ⟨0, sink⟩
  | .brackets => ctx.table.brackets.foldlM (Brackets.runPair ctx severity) ⟨0, sink⟩
  | .naming =>
      (ctx.table.variablePattern.scan ctx.document).foldlM (Naming.look ctx severity) ⟨0, sink⟩

namespace Linter

/-- A pass so far: its sink, the families skipped, and an entry for each one that ran. -/
structure Progress where
  sink : Sink
  disabled : List Family
  timings : List Timing

/-- Skip a family or run it. -/
def advance (l : Linter) (d : Document) (classifier : Classifier) (now : Progress) (f : Family) :
    Except LintError Progress :=
  match l.exceeded? d f with
  | some _ => .ok { now with disabled := now.disabled ++ [f] }
  | none => do
    let t ← f.run ⟨d, classifier, l.table⟩ (l.severityOf f) now.sink
    return { now with
      sink := t.sink
      timings := now.timings ++ [{ rule := f.id, runs := 1, examined := t.examined,
                                   diagnostics := t.sink.size - now.sink.size }] }

/-- The report at the end of a pass. -/
def Progress.report (done : Progress) : Report where
  diagnostics := if done.disabled.isEmpty then done.sink.diagnostics
    else notice done.disabled :: done.sink.diagnostics
  disabled := done.disabled
  timings := done.timings

/-- Lint a document with one sink for all families. -/
def pass (l : Linter) (d : Document) (classifier : Classifier) : Except LintError Report := do
  return (← l.families.foldlM (l.advance d classifier) ⟨.empty d, [], []⟩).report

end Linter

/-! ## What the loops come to -/

theorem Tally.plus_nothing (t : Tally) : t.plus ⟨0, []⟩ = t := by
  simp [plus]

theorem Tally.plus_plus (t : Tally) (found rest : Findings) :
    (t.plus found).plus rest =
      t.plus ⟨found.examined + rest.examined, found.diagnostics ++ rest.diagnostics⟩ := by
  simp [plus, Nat.add_assoc]

theorem Sink.add_eq (s : Sink) (rule : String) (severity : Severity) (message : String)
    (anchor : Anchor) :
    s.add rule severity message anchor =
      (Diagnostic.report s.document rule severity message anchor).map
        (fun x => ⟨s.document, s.diagnostics ++ [x]⟩) := by
  rw [add]
  cases Diagnostic.report s.document rule severity message anchor <;> rfl

/-- Where each step adds the findings of its entry, a loop adds the findings of all of them. -/
theorem foldlM_plus {α : Type} {d : Document} {step : Tally → α → Except LintError Tally}
    {part : α → Except LintError Findings} {entries : List α}
    (h : ∀ t, t.sink.document = d → ∀ a ∈ entries, step t a = (part a).map t.plus) (t : Tally)
    (ht : t.sink.document = d) :
    entries.foldlM step t = (do return Findings.concat (← entries.mapM part)).map t.plus := by
  induction entries generalizing t with
  | nil => exact congrArg Except.ok t.plus_nothing.symm
  | cons a entries ih =>
    rw [List.foldlM_cons, List.mapM_cons, h t ht a List.mem_cons_self]
    cases part a with
    | error e => rfl
    | ok found =>
      have hrest := ih (fun t ht a ha => h t ht a (List.mem_cons_of_mem _ ha)) (t.plus found) ht
      refine hrest.trans ?_
      cases entries.mapM part with
      | error e => rfl
      | ok parts => exact congrArg Except.ok (t.plus_plus found (.concat parts))

theorem mapM_eq_map {α β γ : Type} {f : α → Except LintError β} {f' : α → Except LintError γ}
    {g : β → γ} {xs : List α} (h : ∀ x ∈ xs, f' x = (f x).map g) :
    xs.mapM f' = (xs.mapM f).map (List.map g) := by
  induction xs with
  | nil => rfl
  | cons x xs ih =>
    rw [List.mapM_cons, List.mapM_cons, h x List.mem_cons_self,
      ih (fun y hy => h y (List.mem_cons_of_mem x hy))]
    cases f x with
    | error e => rfl
    | ok y => cases xs.mapM f <;> rfl

/-- The findings of one match. -/
def Findings.ofVerdict (verdict : Option Diagnostic) : Findings := ⟨1, verdict.toList⟩

theorem Findings.concat_ofVerdict (verdicts : List (Option Diagnostic)) :
    concat (verdicts.map ofVerdict) = ⟨verdicts.length, verdicts.filterMap (fun x => x)⟩ := by
  induction verdicts with
  | nil => rfl
  | cons verdict verdicts ih =>
    rw [concat, Findings.mk.injEq] at ih ⊢
    rw [List.map_cons, List.foldr_cons, List.flatMap_cons, ih.1, ih.2]
    refine ⟨Nat.add_comm _ _, ?_⟩
    cases verdict <;> rfl

/-! ## The steps -/

theorem Tally.plus_none (t : Tally) : t.plus (.ofVerdict none) = t.skip := by
  simp [plus, skip, Findings.ofVerdict]

/-- To report on a sink is to add what is reported on its document. -/
theorem Tally.flag_eq {t : Tally} {ctx : Context} (ht : t.sink.document = ctx.document) (f : Family)
    (severity : Severity) (message : String) (span : Span) :
    t.flag f severity message span =
      (ctx.report f severity message span).map (fun x => t.plus (.ofVerdict (some x))) := by
  rw [flag, Sink.add_eq, ht, Context.report]
  cases Diagnostic.report ctx.document f.id severity message (.span span) with
  | error e => rfl
  | ok x =>
    simp only [plus, Findings.ofVerdict, ht]
    rfl

/-- Look at a match once it is known whether it is at fault. -/
def Tally.take (t : Tally) (fault : Bool) (f : Family) (severity : Severity) (message : String)
    (span : Span) : Except LintError Tally :=
  if fault then t.flag f severity message span else return t.skip

/-- To look at a match on a sink is to add what is found for it alone. -/
theorem Tally.bind_take {t : Tally} {ctx : Context} (ht : t.sink.document = ctx.document)
    (faulty : Except LintError Bool) (f : Family) (severity : Severity) (message : String)
    (span : Span) :
    (do t.take (← faulty) f severity message span) =
      (do ctx.reportIf (← faulty) f severity message span).map
        (fun verdict => t.plus (.ofVerdict verdict)) := by
  cases faulty with
  | error e => rfl
  | ok fault =>
    cases fault with
    | false => exact congrArg Except.ok t.plus_none.symm
    | true =>
      refine (t.flag_eq ht f severity message span).trans ?_
      simp only [Context.reportIf, bind, Except.bind]
      cases ctx.report f severity message span <;> rfl

/-- Where a match is judged and looked at by the same fault, the loop over the matches adds the
findings. -/
theorem foldlM_ofMatches {ctx : Context} {look : Tally → Match → Except LintError Tally}
    {judge : Match → Except LintError (Option Diagnostic)}
    {isFaulty : Match → Except LintError Bool} {f : Family} {severity : Severity}
    {message : String} {found : List Match}
    (hjudge : ∀ m, judge m = (do ctx.reportIf (← isFaulty m) f severity message m.span))
    (hlook : ∀ t m, look t m = (do t.take (← isFaulty m) f severity message m.span))
    (t : Tally) (ht : t.sink.document = ctx.document) :
    found.foldlM look t = (Findings.ofMatches judge found).map t.plus := by
  have hpart : ∀ t : Tally, t.sink.document = ctx.document → ∀ m ∈ found,
      look t m = ((judge m).map Findings.ofVerdict).map t.plus := by
    intro t ht m _
    rw [hlook, Tally.bind_take ht, ← hjudge]
    cases judge m <;> rfl
  rw [foldlM_plus hpart t ht, mapM_eq_map (fun m _ => rfl), Findings.ofMatches]
  cases hverdicts : found.mapM judge with
  | error e => rfl
  | ok verdicts =>
    have hlength : found.length = verdicts.length := (mapM_eq_ok_iff.1 hverdicts).length_eq
    rw [hlength]
    exact congrArg (fun r => Except.ok (t.plus r)) (Findings.concat_ofVerdict verdicts)

theorem Casing.look_eq_take (ctx : Context) (severity : Severity) (keyword : Keyword) (t : Tally)
    (m : Match) :
    look ctx severity keyword t m = (do
      t.take (← isFaulty ctx keyword m) .casing severity (message keyword.text) m.span) := by
  rw [look, isFaulty]
  split
  · rfl
  · cases ctx.isTypicalAt m.span.start with
    | error e => rfl
    | ok typical => cases typical <;> rfl

theorem Spacing.look_eq_take (ctx : Context) (severity : Severity) (spacer : Spacer) (t : Tally)
    (m : Match) :
    look ctx severity spacer t m = (do
      t.take (← isFaulty ctx spacer m) .spacing severity message m.span) := by
  rw [look, isFaulty, isSpacedBefore_eq, isSpaced_eq]
  cases ctx.pathAt m.span.start with
  | error e => rfl
  | ok path =>
    simp only [bind, Except.bind, pure, Except.pure]
    split
    · rfl
    split
    · rfl
    cases spacedBefore ctx spacer.breakScope m.span.start <;>
      cases spaced ctx spacer.breakScope m.span.stop <;> rfl

theorem Naming.look_eq_take (ctx : Context) (severity : Severity) (t : Tally) (m : Match) :
    look ctx severity t m = (do
      t.take (← isFaulty ctx m) .naming severity message m.span) := by
  rw [look, isFaulty]
  cases ctx.pathAt m.span.start with
  | error e => rfl
  | ok path =>
    simp only [bind, Except.bind, pure, Except.pure]
    cases !Scope.isTypical path || Scope.carries path Scope.constant <;>
      cases isHungarian (m.text.toList.drop 1) <;> rfl

namespace Brackets

/-- Pairing brackets while they are looked at comes to the same as pairing them all at the end. -/
theorem foldlM_look (ctx : Context) (found : List Match) (examined : Nat) (u : Unpaired) :
    found.foldlM (look ctx) (examined, u) = (found.mapM (bracket? ctx)).map (fun brackets =>
      (examined + found.length,
        (brackets.filterMap (fun b => b)).foldl (Unpaired.step ctx.table.strategy) u)) := by
  induction found generalizing examined u with
  | nil => rfl
  | cons m found ih =>
    rw [List.foldlM_cons, List.mapM_cons, look, bracket?, List.length_cons,
      show examined + (found.length + 1) = examined + 1 + found.length by omega]
    cases ctx.isTypicalAt m.span.start with
    | error e => rfl
    | ok typical =>
      cases typical with
      | false =>
        refine (ih (examined + 1) u).trans ?_
        cases found.mapM (bracket? ctx) <;> rfl
      | true =>
        refine (ih (examined + 1) (u.step ctx.table.strategy
          ⟨m.hasGroup openingGroup, m.span.start⟩)).trans ?_
        cases found.mapM (bracket? ctx) <;> rfl

theorem foldlM_add {ctx : Context} (severity : Severity) (positions : List Position) {s : Sink}
    (hs : s.document = ctx.document) :
    positions.foldlM (fun sink p =>
        sink.add Family.brackets.id severity message (.span (Span.charAt p))) s =
      (positions.mapM (fun p => ctx.report .brackets severity message (Span.charAt p))).map
        (fun diagnostics => ⟨s.document, s.diagnostics ++ diagnostics⟩) := by
  induction positions generalizing s with
  | nil => simp [Except.map, pure, Except.pure]
  | cons p positions ih =>
    rw [List.foldlM_cons, List.mapM_cons, Sink.add_eq, hs, ← Context.report]
    cases ctx.report .brackets severity message (Span.charAt p) with
    | error e => rfl
    | ok x =>
      refine (ih (s := ⟨ctx.document, s.diagnostics ++ [x]⟩) rfl).trans ?_
      cases positions.mapM (fun p => ctx.report .brackets severity message (Span.charAt p)) with
      | error e => rfl
      | ok diagnostics =>
        refine congrArg (fun r => Except.ok (Sink.mk ctx.document r)) ?_
        rw [List.append_assoc, List.singleton_append]

/-- A pair that runs on a sink adds what is found for it alone. -/
theorem runPair_eq {ctx : Context} (severity : Severity) {t : Tally}
    (ht : t.sink.document = ctx.document) (pair : Pattern) :
    runPair ctx severity t pair = (pairFindings ctx severity pair).map t.plus := by
  rw [runPair, pairFindings, foldlM_look]
  cases (pair.scan ctx.document).mapM (bracket? ctx) with
  | error e => rfl
  | ok brackets =>
    simp only [Except.map, bind, Except.bind]
    rw [foldlM_add severity _ ht, ← unpaired]
    cases (unpaired ctx.table.strategy (brackets.filterMap (fun b => b))).positions.mapM
      (fun p => ctx.report .brackets severity message (Span.charAt p)) <;> rfl

end Brackets

/-- Whatever a sink holds, a family adds to it what it finds. -/
theorem Family.run_eq (f : Family) (ctx : Context) (severity : Severity) {sink : Sink}
    (h : sink.document = ctx.document) :
    f.run ctx severity sink = (f.findings ctx severity).map (Tally.plus ⟨0, sink⟩) := by
  cases f with
  | casing =>
    have hkeyword : ∀ t : Tally, t.sink.document = ctx.document → ∀ keyword ∈ ctx.table.keywords,
        (keyword.pattern.scan ctx.document).foldlM (Casing.look ctx severity keyword) t =
          (Casing.keywordFindings ctx severity keyword).map t.plus :=
      fun t ht keyword _ =>
        foldlM_ofMatches (Casing.judge_eq_reportIf ctx severity keyword)
          (Casing.look_eq_take ctx severity keyword) t ht
    exact foldlM_plus hkeyword ⟨0, sink⟩ h
  | spacing =>
    have hspacer : ∀ t : Tally, t.sink.document = ctx.document → ∀ spacer ∈ ctx.table.spacers,
        (spacer.pattern.scan ctx.document).foldlM (Spacing.look ctx severity spacer) t =
          (Spacing.spacerFindings ctx severity spacer).map t.plus :=
      fun t ht spacer _ =>
        foldlM_ofMatches (Spacing.judge_eq_reportIf ctx severity spacer)
          (Spacing.look_eq_take ctx severity spacer) t ht
    exact foldlM_plus hspacer ⟨0, sink⟩ h
  | brackets =>
    exact foldlM_plus (fun t ht pair _ => Brackets.runPair_eq severity ht pair) _ h
  | naming =>
    exact foldlM_ofMatches (Naming.judge_eq_reportIf ctx severity)
      (Naming.look_eq_take ctx severity) ⟨0, sink⟩ h

namespace Linter

/-- Take the outcome of a family into account. -/
def Progress.plus (now : Progress) (outcomes : List (Family × Outcome)) : Progress :=
  ⟨⟨now.sink.document,
      now.sink.diagnostics ++ (ranIn outcomes).flatMap (fun entry => entry.2.diagnostics)⟩,
    now.disabled ++ skippedIn outcomes, now.timings ++ (ranIn outcomes).map timing⟩

theorem Progress.plus_cons (now : Progress) (entry : Family × Outcome)
    (outcomes : List (Family × Outcome)) :
    (now.plus [entry]).plus outcomes = now.plus (entry :: outcomes) := by
  obtain ⟨f, outcome⟩ := entry
  cases outcome <;> simp [plus, ranIn, skippedIn]

/-- One more family on the sink adds its outcome, which does not depend on the sink. -/
theorem advance_eq {l : Linter} {d : Document} {now : Progress} (h : now.sink.document = d)
    (classifier : Classifier) (f : Family) :
    l.advance d classifier now f =
      (l.outcome d classifier f).map (fun outcome => now.plus [(f, outcome)]) := by
  rw [advance, outcome]
  cases l.exceeded? d f with
  | some limit => simp [Except.map, Progress.plus, ranIn, skippedIn]
  | none =>
    simp only
    rw [f.run_eq ⟨d, classifier, l.table⟩ (l.severityOf f) h]
    cases f.findings ⟨d, classifier, l.table⟩ (l.severityOf f) with
    | error e => rfl
    | ok found =>
      simp [Except.map, bind, Except.bind, pure, Except.pure, Progress.plus, ranIn, skippedIn,
        timing, Tally.plus, Sink.size]

theorem foldlM_advance (l : Linter) {d : Document} (classifier : Classifier)
    (families : List Family) (now : Progress) (h : now.sink.document = d) :
    families.foldlM (l.advance d classifier) now =
      (families.mapM (fun f => do return (f, ← l.outcome d classifier f))).map now.plus := by
  induction families generalizing now with
  | nil => simp [Progress.plus, ranIn, skippedIn, Except.map, pure, Except.pure]
  | cons f families ih =>
    rw [List.foldlM_cons, List.mapM_cons, advance_eq h]
    cases l.outcome d classifier f with
    | error e => rfl
    | ok outcome =>
      refine (ih (now.plus [(f, outcome)]) h).trans ?_
      cases families.mapM (fun f => do return (f, ← l.outcome d classifier f)) with
      | error e => rfl
      | ok outcomes => exact congrArg Except.ok (now.plus_cons (f, outcome) outcomes)

theorem Progress.report_eq (done : Progress) :
    done.report = ⟨(if done.disabled.isEmpty then [] else [notice done.disabled]) ++
      done.sink.diagnostics, done.disabled, done.timings⟩ := by
  rw [report, Report.mk.injEq]
  refine ⟨?_, rfl, rfl⟩
  split <;> rfl

/-- A pass over one sink comes to the report of what the families find by themselves, and fails
where that fails. -/
theorem pass_eq_lint (l : Linter) (d : Document) (classifier : Classifier) :
    l.pass d classifier = l.lint d classifier := by
  rw [pass, lint, l.foldlM_advance classifier l.families ⟨.empty d, [], []⟩ (d := d) rfl]
  cases l.families.mapM (fun f => do return (f, ← l.outcome d classifier f)) with
  | error e => rfl
  | ok outcomes => exact congrArg Except.ok (Progress.report_eq _)

end Linter

end ScopeLint
