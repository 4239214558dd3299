import Mathlib.Data.List.Nodup
import ScopeLint.Proofs.SharedSink

/-!
# Families are independent

The diagnostics of a pass are blocks, one for each family that is enabled and not skipped, in the
order of `Family.all`.  A block is what its family leaves in an empty sink.  It depends neither on
the other families nor on any limit, and on the severities only through the severity that its
diagnostics carry.  A block of casing, spacing or brackets is cut in the same way into what single
entries of the table yield.
-/

namespace ScopeLint

/-- The family leaves these diagnostics in an empty sink. -/
def Family.Yields (f : Family) (ctx : Context) (severity : Severity) (found : List Diagnostic) :
    Prop :=
  ∃ examined, f.run ctx severity (.empty ctx.document) = .ok ⟨examined, ⟨ctx.document, found⟩⟩

theorem Family.yields_iff {f : Family} {ctx : Context} {severity : Severity}
    {found : List Diagnostic} :
    f.Yields ctx severity found ↔ ∃ n, f.findings ctx severity = .ok ⟨n, found⟩ := by
  have hempty : (Sink.empty ctx.document).document = ctx.document := rfl
  rw [Yields, f.run_eq ctx severity hempty]
  cases f.findings ctx severity with
  | error e => simp [Except.map]
  | ok r =>
    obtain ⟨n, diagnostics⟩ := r
    simp [Except.map, Tally.plus, Sink.empty]

/-! ## Entries of the table -/

/-- What a table lists for a family. -/
inductive Entry where
  | keyword (k : Keyword)
  | spacer (s : Spacer)
  | pair (p : Pattern)

namespace RuleTable

/-- The entries that a family goes through.  Names of variables have one pattern and no entries. -/
def entries (t : RuleTable) : Family → List Entry
  | .casing => t.keywords.map .keyword
  | .spacing => t.spacers.map .spacer
  | .brackets => t.brackets.map .pair
  | .naming => []

def only (t : RuleTable) : Entry → RuleTable
  | .keyword k => { t with keywords := [k], spacers := [], brackets := [] }
  | .spacer s => { t with keywords := [], spacers := [s], brackets := [] }
  | .pair p => { t with keywords := [], spacers := [], brackets := [p] }

end RuleTable

theorem Findings.concat_singleton {α : Type} (part : α → Except LintError Findings) (a : α) :
    (do return concat (← [a].mapM part)) = part a := by
  rw [List.mapM_cons, List.mapM_nil]
  cases part a with
  | error e => rfl
  | ok found =>
    refine congrArg Except.ok ?_
    simp [concat]

/-- A family with entries finds what it finds for each of them alone, in turn. -/
theorem Family.findings_eq_entries {f : Family} (hf : f ≠ .naming) (d : Document)
    (classifier : Classifier) (t : RuleTable) (severity : Severity) :
    f.findings ⟨d, classifier, t⟩ severity = (do
      return Findings.concat (← (t.entries f).mapM
        (fun entry => f.findings ⟨d, classifier, t.only entry⟩ severity))) := by
  cases f with
  | casing =>
    have hentry : (fun entry => Family.casing.findings ⟨d, classifier, t.only entry⟩ severity) ∘
        Entry.keyword = Casing.keywordFindings ⟨d, classifier, t⟩ severity :=
      funext (Findings.concat_singleton (Casing.keywordFindings ⟨d, classifier, t⟩ severity))
    rw [RuleTable.entries, List.mapM_map, hentry]
    rfl
  | spacing =>
    have hentry : (fun entry => Family.spacing.findings ⟨d, classifier, t.only entry⟩ severity) ∘
        Entry.spacer = Spacing.spacerFindings ⟨d, classifier, t⟩ severity :=
      funext (Findings.concat_singleton (Spacing.spacerFindings ⟨d, classifier, t⟩ severity))
    rw [RuleTable.entries, List.mapM_map, hentry]
    rfl
  | brackets =>
    have hentry : (fun entry => Family.brackets.findings ⟨d, classifier, t.only entry⟩ severity) ∘
        Entry.pair = Brackets.pairFindings ⟨d, classifier, t⟩ severity :=
      funext (Findings.concat_singleton (Brackets.pairFindings ⟨d, classifier, t⟩ severity))
    rw [RuleTable.entries, List.mapM_map, hentry]
    rfl
  | naming => exact absurd rfl hf

theorem Family.yields_entries {f : Family} (hf : f ≠ .naming) {d : Document}
    {classifier : Classifier} {t : RuleTable} {severity : Severity} {found : List Diagnostic}
    (h : f.Yields ⟨d, classifier, t⟩ severity found) :
    ∃ parts : List (List Diagnostic), found = parts.flatten ∧ List.Forall₂
      (fun entry part => f.Yields ⟨d, classifier, t.only entry⟩ severity part)
      (t.entries f) parts := by
  obtain ⟨n, h⟩ := yields_iff.1 h
  rw [findings_eq_entries hf] at h
  obtain ⟨parts, hparts, h⟩ := bind_eq_ok.1 h
  have hfound : found = parts.flatMap (·.diagnostics) :=
    (congrArg (·.diagnostics) (Except.ok.inj h)).symm
  refine ⟨parts.map (·.diagnostics), by rw [hfound, List.flatMap_def], ?_⟩
  rw [List.forall₂_map_right_iff]
  exact (mapM_eq_ok_iff.1 hparts).imp fun entry part hpart => yields_iff.2 ⟨_, hpart⟩

/-! ## Blocks -/

theorem exists_mapM_iff {α β : Type} {f : α → Except LintError β} {xs : List α} :
    (∃ ys, xs.mapM f = .ok ys) ↔ ∀ x ∈ xs, ∃ y, f x = .ok y := by
  induction xs with
  | nil => exact ⟨fun _ x hx => absurd hx List.not_mem_nil, fun _ => ⟨[], rfl⟩⟩
  | cons x xs ih =>
    rw [List.forall_mem_cons, ← ih]
    constructor
    · rintro ⟨ys, h⟩
      rw [mapM_eq_ok_iff, List.forall₂_cons_left_iff] at h
      obtain ⟨y, rest, hy, hrest, -⟩ := h
      exact ⟨⟨y, hy⟩, rest, mapM_eq_ok_iff.2 hrest⟩
    · rintro ⟨⟨y, hy⟩, rest, hrest⟩
      exact ⟨y :: rest, mapM_eq_ok_iff.2 (.cons hy (mapM_eq_ok_iff.1 hrest))⟩

namespace Linter

/-- The linter with other families and limits. -/
def configured (l : Linter) (enabled : List Family) (limits : Limits) : Linter :=
  { l with table := { l.table with limits } }.withFamilies enabled

/-- The families that run on the document. -/
def active (l : Linter) (d : Document) : List Family :=
  l.families.filter (fun f => (l.exceeded? d f).isNone)

/-- What stands in front of the findings: a notice if families were skipped. -/
def noticeOf (disabled : List Family) : List Diagnostic :=
  if disabled.isEmpty then [] else [notice disabled]

/-- What a family leaves in an empty sink, nothing if it fails. -/
def block (l : Linter) (d : Document) (classifier : Classifier) (f : Family) : List Diagnostic :=
  match f.run ⟨d, classifier, l.table⟩ (l.severityOf f) (.empty d) with
  | .ok t => t.sink.diagnostics
  | .error _ => []

variable {l : Linter} {d : Document} {classifier : Classifier}

theorem block_of_yields {f : Family} {found : List Diagnostic}
    (h : f.Yields ⟨d, classifier, l.table⟩ (l.severityOf f) found) :
    l.block d classifier f = found := by
  obtain ⟨examined, h⟩ := h
  rw [block, h]

/-- Families read no limits. -/
theorem block_configured (enabled : List Family) (limits : Limits) (f : Family) :
    (l.configured enabled limits).block d classifier f = l.block d classifier f := by
  cases f <;> rfl

theorem yields_configured {enabled : List Family} {limits : Limits} {f : Family}
    {severity : Severity} {found : List Diagnostic} :
    f.Yields ⟨d, classifier, (l.configured enabled limits).table⟩ severity found ↔
      f.Yields ⟨d, classifier, l.table⟩ severity found := by
  cases f <;> rfl

theorem mem_active {f : Family} : f ∈ l.active d ↔ f ∈ l.families ∧ l.exceeded? d f = none := by
  rw [active, List.mem_filter, Option.isNone_iff_eq_none]

/-- A family is skipped for its limit, or it runs and yields its findings. -/
theorem outcome_cases {f : Family} {outcome : Outcome}
    (h : l.outcome d classifier f = .ok outcome) :
    (∃ limit, l.exceeded? d f = some limit ∧ outcome = .skipped limit) ∨
      l.exceeded? d f = none ∧ ∃ found, outcome = .ran found ∧
        f.Yields ⟨d, classifier, l.table⟩ (l.severityOf f) found.diagnostics := by
  rw [Linter.outcome] at h
  cases hlimit : l.exceeded? d f with
  | some limit =>
    rw [hlimit] at h
    cases h
    exact .inl ⟨limit, rfl, rfl⟩
  | none =>
    rw [hlimit] at h
    obtain ⟨found, hfound, h⟩ := bind_eq_ok.1 h
    cases h
    exact .inr ⟨rfl, found, rfl, Family.yields_iff.2 ⟨_, hfound⟩⟩

theorem exists_outcome {f : Family} (h : l.exceeded? d f = none →
    ∃ found, f.Yields ⟨d, classifier, l.table⟩ (l.severityOf f) found) :
    ∃ outcome, l.outcome d classifier f = .ok outcome := by
  rw [Linter.outcome]
  cases hlimit : l.exceeded? d f with
  | some limit => exact ⟨_, rfl⟩
  | none =>
    obtain ⟨found, hfound⟩ := h hlimit
    obtain ⟨n, hn⟩ := Family.yields_iff.1 hfound
    exact ⟨_, by rw [hn]; rfl⟩

/-- The outcomes of a pass hold the blocks of the families that run. -/
theorem diagnostics_ranIn {families : List Family} {outcomes : List (Family × Outcome)}
    (h : List.Forall₂ (fun f entry => (do return (f, ← l.outcome d classifier f)) = Except.ok entry)
      families outcomes) :
    (ranIn outcomes).flatMap (fun entry => entry.2.diagnostics) =
      (families.filter (fun f => (l.exceeded? d f).isNone)).flatMap (l.block d classifier) := by
  induction h with
  | nil => rfl
  | @cons f entry families outcomes hentry _ ih =>
    obtain ⟨outcome, houtcome, hentry⟩ := bind_eq_ok.1 hentry
    cases hentry
    rcases outcome_cases houtcome with ⟨limit, hlimit, rfl⟩ | ⟨hlimit, found, rfl, hyields⟩
    · rw [List.filter_cons_of_neg (by simp [hlimit]), ← ih]
      rfl
    · rw [List.filter_cons_of_pos (by simp [hlimit]), List.flatMap_cons, block_of_yields hyields,
        ← ih]
      rfl

/-- A pass puts the blocks of the families that run behind the notice. -/
theorem diagnostics_of_lint {report : Report} (h : l.lint d classifier = .ok report) :
    report.diagnostics =
      noticeOf report.disabled ++ (l.active d).flatMap (l.block d classifier) := by
  obtain ⟨outcomes, houtcomes, h⟩ := bind_eq_ok.1 h
  cases h
  rw [active, ← diagnostics_ranIn (mapM_eq_ok_iff.1 houtcomes)]
  rfl

/-- A pass succeeds exactly where every family that runs does. -/
theorem exists_lint_iff :
    (∃ report, l.lint d classifier = .ok report) ↔
      ∀ f ∈ l.active d, ∃ found, f.Yields ⟨d, classifier, l.table⟩ (l.severityOf f) found := by
  constructor
  · rintro ⟨report, h⟩ f hf
    obtain ⟨hf, hlimit⟩ := mem_active.1 hf
    obtain ⟨outcomes, houtcomes, -⟩ := bind_eq_ok.1 h
    obtain ⟨entry, hentry⟩ := exists_mapM_iff.1 ⟨outcomes, houtcomes⟩ f hf
    obtain ⟨outcome, houtcome, -⟩ := bind_eq_ok.1 hentry
    rcases outcome_cases houtcome with ⟨limit, hsome, -⟩ | ⟨-, found, -, hyields⟩
    · rw [hlimit] at hsome
      cases hsome
    · exact ⟨_, hyields⟩
  · intro h
    have hentry : ∀ f ∈ l.families, ∃ entry,
        (do return (f, ← l.outcome d classifier f)) = (.ok entry : Except LintError _) := by
      intro f hf
      obtain ⟨outcome, houtcome⟩ := exists_outcome (fun hlimit => h f (mem_active.2 ⟨hf, hlimit⟩))
      exact ⟨(f, outcome), bind_eq_ok.2 ⟨outcome, houtcome, rfl⟩⟩
    obtain ⟨outcomes, houtcomes⟩ := exists_mapM_iff.2 hentry
    exact ⟨reportOf outcomes, bind_eq_ok.2 ⟨outcomes, houtcomes, rfl⟩⟩

theorem active_configured (l : Linter) (d : Document) (enabled : List Family) (limits : Limits) :
    (l.configured enabled limits).active d = Family.all.filter (fun f =>
      ((l.configured enabled limits).exceeded? d f).isNone && enabled.contains f) :=
  List.filter_filter

/-- Two choices of families that differ in one family only take the same blocks before it and the
same blocks behind it. -/
theorem flatMap_filter_all (part : Family → List Diagnostic) {g : Family} {p q : Family → Bool}
    (h : ∀ f, f ≠ g → p f = q f) :
    ∃ before behind,
      (Family.all.filter p).flatMap part =
        before ++ (if g ∈ Family.all.filter p then part g else []) ++ behind ∧
      (Family.all.filter q).flatMap part =
        before ++ (if g ∈ Family.all.filter q then part g else []) ++ behind := by
  have hmem : g ∈ Family.all := by cases g <;> decide
  have hnodup : Family.all.Nodup := by decide
  obtain ⟨front, back, hall⟩ := List.append_of_mem hmem
  rw [hall, List.nodup_middle, List.nodup_cons, List.mem_append, not_or] at hnodup
  have hfront : front.filter q = front.filter p :=
    List.filter_congr fun f hf => (h f fun heq => hnodup.1.1 (heq ▸ hf)).symm
  have hback : back.filter q = back.filter p :=
    List.filter_congr fun f hf => (h f fun heq => hnodup.1.2 (heq ▸ hf)).symm
  have hcut : ∀ r : Family → Bool, (Family.all.filter r).flatMap part =
      (front.filter r).flatMap part ++ (if g ∈ Family.all.filter r then part g else []) ++
        (back.filter r).flatMap part := by
    intro r
    have hg : g ∈ Family.all.filter r ↔ r g = true := by
      rw [List.mem_filter, and_iff_right hmem]
    simp only [hg]
    rw [hall, List.filter_append, List.flatMap_append, List.filter_cons, List.append_assoc]
    split <;> simp
  exact ⟨_, _, hcut p, by rw [hcut q, hfront, hback]⟩

theorem diagnostics_of_configured {enabled : List Family} {limits : Limits} {report : Report}
    (h : (l.configured enabled limits).lint d classifier = .ok report) :
    report.diagnostics = noticeOf report.disabled ++
      ((l.configured enabled limits).active d).flatMap (l.block d classifier) := by
  have hblock : (l.configured enabled limits).block d classifier = l.block d classifier :=
    funext (block_configured enabled limits)
  rw [diagnostics_of_lint h, hblock]

theorem exists_configured_iff {enabled : List Family} {limits : Limits} :
    (∃ report, (l.configured enabled limits).lint d classifier = .ok report) ↔
      ∀ f ∈ (l.configured enabled limits).active d,
        ∃ found, f.Yields ⟨d, classifier, l.table⟩ (l.severityOf f) found :=
  exists_lint_iff.trans (forall₂_congr fun _ _ => exists_congr fun _ => yields_configured)

/-- Where two settings agree on all families but one, the blocks agree around it. -/
theorem flatMap_active {g : Family} {enabled enabled' : List Family} {limits limits' : Limits}
    (h : ∀ f, f ≠ g → (f ∈ enabled ↔ f ∈ enabled') ∧ limits.maxLines f = limits'.maxLines f)
    (part : Family → List Diagnostic) :
    ∃ before behind,
      ((l.configured enabled limits).active d).flatMap part = before ++
        (if g ∈ (l.configured enabled limits).active d then part g else []) ++ behind ∧
      ((l.configured enabled' limits').active d).flatMap part = before ++
        (if g ∈ (l.configured enabled' limits').active d then part g else []) ++ behind := by
  rw [active_configured, active_configured]
  refine flatMap_filter_all part fun f hf => ?_
  obtain ⟨henabled, hlimit⟩ := h f hf
  have hcontains : enabled.contains f = enabled'.contains f := by
    rw [Bool.eq_iff_iff, List.contains_iff_mem, List.contains_iff_mem]
    exact henabled
  have hexceeded : (l.configured enabled limits).exceeded? d f =
      (l.configured enabled' limits').exceeded? d f := by
    simp only [exceeded?, configured, withFamilies, hlimit]
  rw [hcontains, hexceeded]

end Linter

/-! ## Severities -/

def Diagnostic.withSeverity (severity : Severity) (x : Diagnostic) : Diagnostic :=
  { x with severity }

/-- The diagnostic with the severity that its family has now. -/
def Diagnostic.repaint (severityOf : Family → Severity) (x : Diagnostic) : Diagnostic :=
  match Family.named? x.rule with
  | some f => x.withSeverity (severityOf f)
  | none => x

def Findings.mapDiagnostics (g : Diagnostic → Diagnostic) (r : Findings) : Findings :=
  ⟨r.examined, r.diagnostics.map g⟩

theorem Findings.concat_mapDiagnostics (g : Diagnostic → Diagnostic) (parts : List Findings) :
    concat (parts.map (mapDiagnostics g)) = (concat parts).mapDiagnostics g := by
  simp [concat, mapDiagnostics, List.foldr_map, List.flatMap_map, List.map_flatMap]

theorem Findings.ofMatches_mapDiagnostics
    {judge judge' : Match → Except LintError (Option Diagnostic)} {g : Diagnostic → Diagnostic}
    (h : ∀ m, judge' m = (judge m).map (Option.map g)) (found : List Match) :
    ofMatches judge' found = (ofMatches judge found).map (mapDiagnostics g) := by
  rw [ofMatches, ofMatches, mapM_eq_map (fun m _ => h m)]
  cases found.mapM judge with
  | error e => rfl
  | ok verdicts =>
    refine congrArg Except.ok ?_
    simp [mapDiagnostics, List.filterMap_map, List.map_filterMap]

theorem Findings.concat_mapM_mapDiagnostics {α : Type} {part part' : α → Except LintError Findings}
    {g : Diagnostic → Diagnostic} (h : ∀ a, part' a = (part a).map (mapDiagnostics g))
    (entries : List α) :
    (do return concat (← entries.mapM part')) =
      (do return concat (← entries.mapM part) : Except LintError Findings).map
        (mapDiagnostics g) := by
  rw [mapM_eq_map (fun a _ => h a)]
  cases entries.mapM part with
  | error e => rfl
  | ok parts => exact congrArg Except.ok (concat_mapDiagnostics g parts)

theorem Context.report_withSeverity (ctx : Context) (f : Family) (severity severity' : Severity)
    (message : String) (span : Span) :
    ctx.report f severity' message span =
      (ctx.report f severity message span).map (Diagnostic.withSeverity severity') := by
  rw [report, report, Diagnostic.report, Diagnostic.report]
  cases Anchor.resolve ctx.document (.span span) <;> rfl

theorem Context.reportIf_withSeverity (ctx : Context) (faulty : Except LintError Bool) (f : Family)
    (severity severity' : Severity) (message : String) (span : Span) :
    (do ctx.reportIf (← faulty) f severity' message span) =
      (do ctx.reportIf (← faulty) f severity message span).map
        (Option.map (Diagnostic.withSeverity severity')) := by
  cases faulty with
  | error e => rfl
  | ok fault =>
    simp only [reportIf, bind, Except.bind, ctx.report_withSeverity f severity severity']
    cases fault with
    | false => rfl
    | true => cases ctx.report f severity message span <;> rfl

/-- Where a match is judged by its fault, the severity is that of the findings and no more. -/
theorem Findings.ofMatches_withSeverity {ctx : Context}
    {judge : Severity → Match → Except LintError (Option Diagnostic)}
    {isFaulty : Match → Except LintError Bool} {f : Family} {message : String}
    (h : ∀ severity m,
      judge severity m = (do ctx.reportIf (← isFaulty m) f severity message m.span))
    (severity severity' : Severity) (found : List Match) :
    ofMatches (judge severity') found =
      (ofMatches (judge severity) found).map
        (mapDiagnostics (Diagnostic.withSeverity severity')) := by
  refine ofMatches_mapDiagnostics (fun m => ?_) found
  rw [h, h]
  exact ctx.reportIf_withSeverity (isFaulty m) f severity severity' message m.span

theorem Brackets.pairFindings_withSeverity (ctx : Context) (severity severity' : Severity)
    (pair : Pattern) :
    pairFindings ctx severity' pair = (pairFindings ctx severity pair).map
      (Findings.mapDiagnostics (Diagnostic.withSeverity severity')) := by
  rw [pairFindings, pairFindings]
  cases (pair.scan ctx.document).mapM (bracket? ctx) with
  | error e => rfl
  | ok brackets =>
    simp only [bind, Except.bind]
    rw [mapM_eq_map (fun p _ => ctx.report_withSeverity .brackets severity severity' message
      (Span.charAt p))]
    cases (unpaired ctx.table.strategy (brackets.filterMap (fun b => b))).positions.mapM
      (fun p => ctx.report .brackets severity message (Span.charAt p)) <;> rfl

/-- The severity of a family is that of its findings and decides nothing else. -/
theorem Family.findings_withSeverity (f : Family) (ctx : Context) (severity severity' : Severity) :
    f.findings ctx severity' = (f.findings ctx severity).map
      (Findings.mapDiagnostics (Diagnostic.withSeverity severity')) := by
  cases f with
  | casing =>
    exact Findings.concat_mapM_mapDiagnostics (fun keyword => Findings.ofMatches_withSeverity
      (fun severity m => Casing.judge_eq_reportIf ctx severity keyword m) severity severity' _) _
  | spacing =>
    exact Findings.concat_mapM_mapDiagnostics (fun spacer => Findings.ofMatches_withSeverity
      (fun severity m => Spacing.judge_eq_reportIf ctx severity spacer m) severity severity' _) _
  | brackets =>
    exact Findings.concat_mapM_mapDiagnostics
      (Brackets.pairFindings_withSeverity ctx severity severity') _
  | naming =>
    exact Findings.ofMatches_withSeverity (Naming.judge_eq_reportIf ctx) severity severity' _

theorem Family.named?_id (f : Family) : Family.named? f.id = some f := by
  cases f <;> decide

theorem Family.id_injective {f g : Family} (h : f.id = g.id) : f = g := by
  have hnamed := g.named?_id
  rw [← h, f.named?_id] at hnamed
  exact Option.some.inj hnamed

theorem Family.id_ne_skippedRule (f : Family) : f.id ≠ Linter.skippedRule := by
  cases f <;> decide

/-- Findings have the id and the severity of their family. -/
theorem Family.rule_severity_of_mem {f : Family} {ctx : Context} {severity : Severity}
    {found : Findings} (h : f.findings ctx severity = .ok found) {x : Diagnostic}
    (hx : x ∈ found.diagnostics) : x.rule = f.id ∧ x.severity = severity := by
  obtain ⟨message, span, hreport⟩ := reported_of_mem h hx
  obtain ⟨span', -, rfl⟩ := Diagnostic.report_eq_ok_iff.1 hreport
  exact ⟨rfl, rfl⟩

theorem Family.findings_repaint (f : Family) (ctx : Context) (severity : Severity)
    (severityOf : Family → Severity) :
    f.findings ctx (severityOf f) =
      (f.findings ctx severity).map (Findings.mapDiagnostics (Diagnostic.repaint severityOf)) := by
  rw [f.findings_withSeverity ctx severity]
  cases hfound : f.findings ctx severity with
  | error e => rfl
  | ok found =>
    refine congrArg (fun diagnostics => Except.ok (Findings.mk found.examined diagnostics)) ?_
    refine List.map_congr_left fun x hx => ?_
    rw [Diagnostic.repaint, (rule_severity_of_mem hfound hx).1, named?_id]

namespace Linter

def mapOutcome (g : Diagnostic → Diagnostic) : Family × Outcome → Family × Outcome
  | (f, .skipped limit) => (f, .skipped limit)
  | (f, .ran found) => (f, .ran (found.mapDiagnostics g))

/-- Other severities repaint the outcome of each family. -/
theorem outcome_repaint (l : Linter) (d : Document) (classifier : Classifier)
    (severities : List (Family × Severity)) (f : Family) :
    (do return (f, ← { l with severities }.outcome d classifier f)) =
      (do return (f, ← l.outcome d classifier f) : Except LintError (Family × Outcome)).map
        (mapOutcome (Diagnostic.repaint { l with severities }.severityOf)) := by
  have hlimit : { l with severities }.exceeded? d f = l.exceeded? d f := rfl
  rw [outcome, outcome, hlimit]
  cases l.exceeded? d f with
  | some limit => rfl
  | none =>
    simp only
    rw [f.findings_repaint ⟨d, classifier, l.table⟩ (l.severityOf f)]
    cases f.findings ⟨d, classifier, l.table⟩ (l.severityOf f) <;> rfl

theorem skippedIn_map (g : Diagnostic → Diagnostic) (outcomes : List (Family × Outcome)) :
    skippedIn (outcomes.map (mapOutcome g)) = skippedIn outcomes := by
  rw [skippedIn, List.filterMap_map]
  refine List.filterMap_congr fun entry _ => ?_
  obtain ⟨f, outcome⟩ := entry
  cases outcome <;> rfl

theorem ranIn_map (g : Diagnostic → Diagnostic) (outcomes : List (Family × Outcome)) :
    ranIn (outcomes.map (mapOutcome g)) =
      (ranIn outcomes).map (fun entry => (entry.1, entry.2.mapDiagnostics g)) := by
  rw [ranIn, ranIn, List.filterMap_map, List.map_filterMap]
  refine List.filterMap_congr fun entry _ => ?_
  obtain ⟨f, outcome⟩ := entry
  cases outcome <;> rfl

/-- The report with every diagnostic in the severity of its family. -/
def repaint (severityOf : Family → Severity) (report : Report) : Report :=
  { report with diagnostics := report.diagnostics.map (Diagnostic.repaint severityOf) }

theorem named?_notice (disabled : List Family) :
    Family.named? (notice disabled).rule = none := by
  change Family.named? skippedRule = none
  decide

theorem repaint_notice (severityOf : Family → Severity) (disabled : List Family) :
    (notice disabled).repaint severityOf = notice disabled := by
  rw [Diagnostic.repaint, named?_notice]

theorem reportOf_map (severityOf : Family → Severity) (outcomes : List (Family × Outcome)) :
    reportOf (outcomes.map (mapOutcome (Diagnostic.repaint severityOf))) =
      repaint severityOf (reportOf outcomes) := by
  rw [reportOf, reportOf, repaint, skippedIn_map, ranIn_map, Report.mk.injEq]
  refine ⟨?_, rfl, ?_⟩
  · rw [List.map_append, List.map_flatMap, List.flatMap_map]
    congr 1
    split
    · rfl
    · rw [List.map_singleton, repaint_notice]
  · rw [List.map_map]
    refine List.map_congr_left fun entry _ => ?_
    simp [timing, Findings.mapDiagnostics]

/-- Other severities only repaint the report. -/
theorem lint_severities (l : Linter) (d : Document) (classifier : Classifier)
    (severities : List (Family × Severity)) :
    { l with severities }.lint d classifier =
      (l.lint d classifier).map (repaint { l with severities }.severityOf) := by
  rw [lint, lint, mapM_eq_map (fun f _ => l.outcome_repaint d classifier severities f)]
  cases l.families.mapM (fun f => do return (f, ← l.outcome d classifier f)) with
  | error e => rfl
  | ok outcomes => exact congrArg Except.ok (reportOf_map _ outcomes)

/-- A diagnostic with the id of a family is one of that family's findings. -/
theorem findings_of_mem_lint {l : Linter} {d : Document} {classifier : Classifier} {report : Report}
    (h : l.lint d classifier = .ok report) {x : Diagnostic} (hx : x ∈ report.diagnostics)
    {f : Family} (hf : x.rule = f.id) :
    ∃ found, f.findings ⟨d, classifier, l.table⟩ (l.severityOf f) = .ok found ∧
      x ∈ found.diagnostics := by
  rcases exists_of_mem_lint h hx with rfl | ⟨g, -, found, hfound, hx⟩
  · exact absurd hf f.id_ne_skippedRule.symm
  · obtain rfl : g = f :=
      Family.id_injective ((Family.rule_severity_of_mem hfound hx).1.symm.trans hf)
    exact ⟨found, hfound, hx⟩

/-- A diagnostic of a report has the severity of the family that it names. -/
theorem severity_of_mem_lint {l : Linter} {d : Document} {classifier : Classifier} {report : Report}
    (h : l.lint d classifier = .ok report) {x : Diagnostic} (hx : x ∈ report.diagnostics)
    {f : Family} (hf : x.rule = f.id) : x.severity = l.severityOf f := by
  obtain ⟨found, hfound, hx⟩ := findings_of_mem_lint h hx hf
  exact (Family.rule_severity_of_mem hfound hx).2

end Linter

/-- The families of a pass do not influence one another.  A pass over one sink succeeds exactly
where each family that runs does by itself, and its report holds, behind the notice, the blocks that
these families leave in an empty sink.  Where a family goes through entries of the table, its block
is made of what the table yields with one entry only.  Settings that differ in the choice or the
limit of one family differ in that family's block at most, and other severities change nothing but
the severities of diagnostics, family by family. -/
theorem families_independent (l : Linter) (d : Document) (classifier : Classifier) :
    (∀ (enabled : List Family) (limits : Limits),
      (l.configured enabled limits).pass d classifier =
        (l.configured enabled limits).lint d classifier ∧
      ((∃ report, (l.configured enabled limits).lint d classifier = .ok report) ↔
        ∀ f ∈ (l.configured enabled limits).active d,
          ∃ found, f.Yields ⟨d, classifier, l.table⟩ (l.severityOf f) found) ∧
      ∀ report, (l.configured enabled limits).lint d classifier = .ok report →
        report.diagnostics = Linter.noticeOf report.disabled ++
          ((l.configured enabled limits).active d).flatMap (l.block d classifier) ∧
        ∀ f ∈ (l.configured enabled limits).active d,
          f.Yields ⟨d, classifier, l.table⟩ (l.severityOf f) (l.block d classifier f)) ∧
    (∀ (f : Family) (severity : Severity) (found : List Diagnostic), f ≠ .naming →
      f.Yields ⟨d, classifier, l.table⟩ severity found →
        ∃ parts : List (List Diagnostic), found = parts.flatten ∧ List.Forall₂
          (fun entry part => f.Yields ⟨d, classifier, l.table.only entry⟩ severity part)
          (l.table.entries f) parts) ∧
    (∀ (g : Family) (enabled enabled' : List Family) (limits limits' : Limits)
      (report report' : Report),
      (∀ f, f ≠ g → (f ∈ enabled ↔ f ∈ enabled') ∧ limits.maxLines f = limits'.maxLines f) →
      (l.configured enabled limits).lint d classifier = .ok report →
      (l.configured enabled' limits').lint d classifier = .ok report' →
        ∃ before behind,
          report.diagnostics = Linter.noticeOf report.disabled ++ (before ++
            (if g ∈ (l.configured enabled limits).active d then l.block d classifier g else []) ++
            behind) ∧
          report'.diagnostics = Linter.noticeOf report'.disabled ++ (before ++
            (if g ∈ (l.configured enabled' limits').active d then l.block d classifier g else []) ++
            behind)) ∧
    (∀ severities : List (Family × Severity),
      { l with severities }.lint d classifier =
        (l.lint d classifier).map (Linter.repaint { l with severities }.severityOf)) ∧
    ∀ report, l.lint d classifier = .ok report → ∀ x ∈ report.diagnostics, ∀ f : Family,
      x.rule = f.id → x.severity = l.severityOf f := by
  refine ⟨fun enabled limits => ⟨Linter.pass_eq_lint _ d classifier, Linter.exists_configured_iff,
    fun report h => ⟨Linter.diagnostics_of_configured h, fun f hf => ?_⟩⟩,
    fun f severity found hf h => Family.yields_entries hf h, ?_,
    l.lint_severities d classifier, fun report h x hx f => Linter.severity_of_mem_lint h hx⟩
  · obtain ⟨found, hfound⟩ := Linter.exists_configured_iff.1 ⟨report, h⟩ f hf
    rwa [Linter.block_of_yields hfound]
  · intro g enabled enabled' limits limits' report report' hsame h h'
    obtain ⟨before, behind, hfirst, hsecond⟩ :=
      Linter.flatMap_active hsame (l.block d classifier)
    refine ⟨before, behind, ?_, ?_⟩
    · rw [Linter.diagnostics_of_configured h, hfirst]
    · rw [Linter.diagnostics_of_configured h', hsecond]

/-- The built-in rules with every family. -/
def Linter.standard : Linter := ⟨BuiltIn.table, Family.all, []⟩

/-- Two rows with something for each family. -/
def crowded : Document := .ofString "EOI=(\n$x"

/-- A limit of one row takes out the block of the spacing family and leaves the rest as it was. -/
theorem families_independent_crowded :
    ∃ report report', ∃ classifier : Classifier,
      (Linter.standard.configured Family.all {}).lint crowded classifier = .ok report ∧
      (Linter.standard.configured Family.all { spacing := some 1 }).lint crowded classifier =
        .ok report' ∧
      report.diagnostics.map (·.rule) = ["casing", "spacing", "bracket-match", "notation"] ∧
      (∃ before behind,
        report.diagnostics =
          before ++ Linter.standard.block crowded classifier .spacing ++ behind ∧
        report'.diagnostics = Linter.notice [.spacing] :: (before ++ behind)) ∧
      (∃ parts : List (List Diagnostic),
        Linter.standard.block crowded classifier .brackets = parts.flatten ∧
        List.Forall₂ (fun entry part =>
          Family.brackets.Yields ⟨crowded, classifier, BuiltIn.table.only entry⟩ .error part)
          (BuiltIn.table.entries .brackets) parts) ∧
      ∀ x ∈ report.diagnostics, x.rule = "bracket-match" → x.severity = .error := by
  have hfull : (Linter.standard.configured Family.all {}).lint crowded ⟨fun _ => [Scope.root]⟩ =
      .ok ⟨[.ofMessage "casing" .warning (Casing.message "eoi") (Span.onRow 0 0 3),
          .ofMessage "spacing" .warning Spacing.message (Span.charAt ⟨0, 3⟩),
          .ofMessage "bracket-match" .error Brackets.message (Span.charAt ⟨0, 4⟩),
          .ofMessage "notation" .warning Naming.message (Span.onRow 1 0 2)], [],
        [⟨"casing", 0, 1, 1, 1⟩, ⟨"spacing", 0, 1, 1, 1⟩, ⟨"bracket-match", 0, 1, 1, 1⟩,
          ⟨"notation", 0, 1, 1, 1⟩]⟩ := by
    decide +kernel
  have hshort : (Linter.standard.configured Family.all { spacing := some 1 }).lint crowded
      ⟨fun _ => [Scope.root]⟩ =
      .ok ⟨[Linter.notice [.spacing],
          .ofMessage "casing" .warning (Casing.message "eoi") (Span.onRow 0 0 3),
          .ofMessage "bracket-match" .error Brackets.message (Span.charAt ⟨0, 4⟩),
          .ofMessage "notation" .warning Naming.message (Span.onRow 1 0 2)], [.spacing],
        [⟨"casing", 0, 1, 1, 1⟩, ⟨"bracket-match", 0, 1, 1, 1⟩, ⟨"notation", 0, 1, 1, 1⟩]⟩ := by
    decide +kernel
  have hactive : (Linter.standard.configured Family.all {}).active crowded = Family.all := by
    decide +kernel
  have hskipped :
      .spacing ∉ (Linter.standard.configured Family.all { spacing := some 1 }).active crowded := by
    decide +kernel
  have hothers : ∀ f : Family, f ≠ .spacing → (f ∈ Family.all ↔ f ∈ Family.all) ∧
      Limits.maxLines {} f = Limits.maxLines { spacing := some 1 } f := by
    intro f hf
    cases f with
    | spacing => exact absurd rfl hf
    | casing | brackets | naming => exact ⟨Iff.rfl, rfl⟩
  obtain ⟨hruns, hentries, hchange, -, -⟩ :=
    families_independent Linter.standard crowded ⟨fun _ => [Scope.root]⟩
  refine ⟨_, _, _, hfull, hshort, rfl, ?_, ?_, ?_⟩
  · obtain ⟨before, behind, h, h'⟩ := hchange .spacing _ _ _ _ _ _ hothers hfull hshort
    rw [hactive, if_pos (by decide)] at h
    rw [if_neg hskipped, List.append_nil] at h'
    exact ⟨before, behind, h, h'⟩
  · have hyields := ((hruns Family.all {}).2.2 _ hfull).2 .brackets (by rw [hactive]; decide)
    exact hentries .brackets .error _ (by decide) hyields
  · intro x hx hrule
    exact (families_independent (Linter.standard.configured Family.all {}) crowded
      ⟨fun _ => [Scope.root]⟩).2.2.2.2 _ hfull x hx .brackets hrule

end ScopeLint
