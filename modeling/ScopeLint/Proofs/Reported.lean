import Mathlib.Data.List.Forall2
import ScopeLint.Proofs.BuiltIn
import ScopeLint.Proofs.Layout

/-!
# What is reported lies in the document

A span is accepted when both ends are in the document and in order, and then its text can be read.
Whatever an anchor resolves to is accepted.  So a sink only ever holds accepted spans, whichever
calls it is given and however many of them it refuses, and every finding of a pass has an accepted
span as well.  Nothing is said here of which places are reported.
-/

namespace ScopeLint

/-! ## Answers that are no refusals -/

theorem bind_eq_ok {α β : Type} {x : Except LintError α} {f : α → Except LintError β} {b : β} :
    x >>= f = .ok b ↔ ∃ a, x = .ok a ∧ f a = .ok b := by
  cases x with
  | error e => simp [bind, Except.bind]
  | ok a => simp [bind, Except.bind]

theorem mapM_eq_ok_iff {α β : Type} {f : α → Except LintError β} {xs : List α} {ys : List β} :
    xs.mapM f = .ok ys ↔ List.Forall₂ (fun x y => f x = .ok y) xs ys := by
  induction xs generalizing ys with
  | nil =>
    rw [List.mapM_nil, List.forall₂_nil_left_iff]
    exact ⟨fun h => (Except.ok.inj h).symm, fun h => by rw [h]; rfl⟩
  | cons x xs ih =>
    rw [List.mapM_cons, bind_eq_ok, List.forall₂_cons_left_iff]
    constructor
    · rintro ⟨y, hy, h⟩
      obtain ⟨rest, hrest, h⟩ := bind_eq_ok.1 h
      exact ⟨y, rest, hy, ih.1 hrest, (Except.ok.inj h).symm⟩
    · rintro ⟨y, rest, hy, hrest, rfl⟩
      exact ⟨y, hy, bind_eq_ok.2 ⟨rest, ih.2 hrest, rfl⟩⟩

theorem exists_of_mem_mapM {α β : Type} {f : α → Except LintError β} {xs : List α} {ys : List β}
    (h : xs.mapM f = .ok ys) {y : β} (hy : y ∈ ys) : ∃ x ∈ xs, f x = .ok y := by
  obtain ⟨n, hn, rfl⟩ := List.mem_iff_getElem.1 hy
  have hall := mapM_eq_ok_iff.1 h
  have hlt : n < xs.length := hall.length_eq ▸ hn
  exact ⟨xs[n], List.getElem_mem hlt, hall.get hlt hn⟩

/-! ## Accepted spans -/

/-- Both ends of the span are in the document, and in order. -/
structure Span.IsIn (s : Span) (d : Document) : Prop where
  start_mem : d.contains s.start = true
  stop_mem : d.contains s.stop = true
  le : s.start ≤ s.stop

/-- The ends of an accepted span cut the document in three, and nothing stands between them where
the stop is not behind the start. -/
theorem Span.IsIn.exists_cut {s : Span} {d : Document} (h : s.IsIn d) :
    ∃ before inside behind, d.chars.toList = before ++ inside ++ behind ∧
      ¬ CutsLineEnd before (inside ++ behind) ∧ ¬ CutsLineEnd (before ++ inside) behind ∧
      s = ⟨Position.origin.after before, Position.origin.after (before ++ inside)⟩ := by
  obtain ⟨before, behind, hcut, hwhole, hstart⟩ := (d.contains_iff _).1 h.start_mem
  obtain ⟨before', behind', hcut', hwhole', hstop⟩ := (d.contains_iff _).1 h.stop_mem
  have hle := h.le
  rw [← hstart, ← hstop] at hle
  rcases List.prefix_or_prefix_of_prefix ⟨behind, hcut.symm⟩ ⟨behind', hcut'.symm⟩ with
    ⟨inside, rfl⟩ | ⟨more, rfl⟩
  · rw [hcut, List.append_assoc, List.append_cancel_left_eq] at hcut'
    subst hcut'
    exact ⟨before, inside, behind', by rw [hcut, List.append_assoc], hwhole, hwhole',
      by rw [hstart, hstop]⟩
  · obtain rfl : more = [] := by
      by_contra hmore
      have hlt := (Position.origin.after before').lt_after hmore
      rw [← Position.after_append] at hlt
      exact Position.not_lt_of_le hle hlt
    rw [List.append_nil] at hcut hwhole hstart
    exact ⟨before', [], behind, by rw [List.append_nil, hcut], hwhole,
      by rwa [List.append_nil],
      by rw [List.append_nil]; exact congrArg₂ Span.mk hstart.symm hstop.symm⟩

namespace Document

variable {d : Document}

theorem check_eq_ok_iff {p : Position} : d.check p = .ok () ↔ d.contains p = true := by
  rw [check]
  split <;> simp_all

theorem checkSpan_eq_ok_iff {s t : Span} : d.checkSpan s = .ok t ↔ t = s ∧ s.IsIn d := by
  constructor
  · intro h
    obtain ⟨_, hstart, h⟩ := bind_eq_ok.1 h
    obtain ⟨_, hstop, h⟩ := bind_eq_ok.1 h
    split at h
    case isTrue => cases h
    case isFalse hlt =>
      refine ⟨(Except.ok.inj h).symm, check_eq_ok_iff.1 hstart, check_eq_ok_iff.1 hstop, ?_⟩
      rw [Position.lt_def] at hlt
      rw [Position.le_def]
      omega
  · rintro ⟨rfl, hin⟩
    exact checkSpan_inside hin.start_mem hin.stop_mem hin.le

/-- The text of an accepted span can be read. -/
theorem textIn_of_isIn {s : Span} (h : s.IsIn d) : ∃ text, d.textIn s = .ok (some text) := by
  obtain ⟨before, inside, behind, hcut, hfirst, hlast, rfl⟩ := h.exists_cut
  exact ⟨_, textIn_cut hcut hfirst hlast⟩

theorem isIn_onRow {row n first last : Nat} (h : d.lineLength? row = some n)
    (hle : first ≤ last) (hlast : last ≤ n) : (Span.onRow row first last).IsIn d :=
  ⟨(contains_iff_column h first).2 (Nat.le_trans hle hlast), (contains_iff_column h last).2 hlast,
    .inr ⟨rfl, hle⟩⟩

theorem inferSpan_isIn {row column : Nat} {s : Span} (h : d.inferSpan row column = .ok s) :
    s.IsIn d := by
  rw [inferSpan] at h
  split at h
  case h_1 => cases h
  case h_2 line hline =>
    have hlength := lineLength?_of_line? hline
    split at h
    case isTrue => cases h
    case isFalse hcolumn =>
      have hrun : ((line.toList.drop column).takeWhile (fun c => !Text.isBlank c)).length ≤
          line.size - column := by
        have hle := (List.takeWhile_sublist (fun c => !Text.isBlank c)
          (l := line.toList.drop column)).length_le
        rwa [List.length_drop, Array.length_toList] at hle
      dsimp only at h
      split at h
      case isTrue =>
        cases h
        exact isIn_onRow hlength (Nat.le_add_right _ _) (by omega)
      case isFalse =>
        cases h
        have hblank := (List.takeWhile_sublist Text.isBlank (l := line.toList)).length_le
        rw [Array.length_toList] at hblank
        refine isIn_onRow hlength ?_ (Nat.le_refl _)
        split <;> omega

end Document

theorem Anchor.resolve_isIn {d : Document} {anchor : Anchor} {s : Span}
    (h : anchor.resolve d = .ok s) : s.IsIn d := by
  unfold resolve at h
  split at h
  · obtain ⟨rfl, hin⟩ := Document.checkSpan_eq_ok_iff.1 h
    exact hin
  · exact Document.inferSpan_isIn h
  · exact Document.inferSpan_isIn h
  · obtain ⟨rfl, hin⟩ := Document.checkSpan_eq_ok_iff.1 h
    exact hin

theorem Diagnostic.report_eq_ok_iff {d : Document} {rule message : String} {severity : Severity}
    {anchor : Anchor} {x : Diagnostic} :
    Diagnostic.report d rule severity message anchor = .ok x ↔
      ∃ span, anchor.resolve d = .ok span ∧ x = .ofMessage rule severity message span := by
  rw [Diagnostic.report, bind_eq_ok]
  constructor
  · rintro ⟨span, hspan, h⟩
    exact ⟨span, hspan, (Except.ok.inj h).symm⟩
  · rintro ⟨span, hspan, rfl⟩
    exact ⟨span, hspan, rfl⟩

/-! ## Sinks -/

namespace Sink

/-- What a sink is asked to take up. -/
structure Call where
  rule : String
  severity : Severity
  message : String
  anchor : Anchor
  deriving Repr, DecidableEq

/-- A call that changes its sink in place: what has been done to the sink before a refusal would
stay done. -/
def submit (c : Call) : ExceptT LintError (StateM Sink) Unit := do
  let s ← get
  let span ← c.anchor.resolve s.document
  set { s with
    diagnostics := s.diagnostics ++ [Diagnostic.ofMessage c.rule c.severity c.message span] }

/-- Submitting is adding, and a refused call leaves the sink as it was, because the anchor is
resolved before the sink is set. -/
theorem submit_run (s : Sink) (c : Call) :
    (submit c).run.run s =
      match s.add c.rule c.severity c.message c.anchor with
      | .ok s' => (.ok (), s')
      | .error e => (.error e, s) := by
  have hresolved : (submit c).run.run s =
      ExceptT.bindCont (m := StateM Sink) (fun span => set { s with
        diagnostics := s.diagnostics ++ [Diagnostic.ofMessage c.rule c.severity c.message span] })
        (c.anchor.resolve s.document) s := rfl
  rw [hresolved, add, Diagnostic.report]
  cases c.anchor.resolve s.document with
  | ok span => rfl
  | error e => rfl

/-- The sink of a document after some calls, whatever their answers. -/
def after (d : Document) (calls : List Call) : Sink :=
  calls.foldl (fun s c => ((submit c).run.run s).2) (empty d)

theorem after_snoc (d : Document) (calls : List Call) (c : Call) :
    after d (calls ++ [c]) = ((submit c).run.run (after d calls)).2 := by
  rw [after, List.foldl_append]
  rfl

/-- All that a call can do: take up one more diagnostic with an accepted span, or nothing. -/
theorem add_cases (s : Sink) (c : Call) :
    (∃ span, span.IsIn s.document ∧
      s.add c.rule c.severity c.message c.anchor =
        .ok ⟨s.document, s.diagnostics ++ [.ofMessage c.rule c.severity c.message span]⟩) ∨
    ∃ e, s.add c.rule c.severity c.message c.anchor = .error e := by
  rw [add, Diagnostic.report]
  cases h : c.anchor.resolve s.document with
  | ok span => exact .inl ⟨span, Anchor.resolve_isIn h, rfl⟩
  | error e => exact .inr ⟨e, rfl⟩

theorem after_snoc_ok {d : Document} {calls : List Call} {c : Call} {s : Sink}
    (h : (after d calls).add c.rule c.severity c.message c.anchor = .ok s) :
    after d (calls ++ [c]) = s := by
  rw [after_snoc, submit_run, h]

theorem after_snoc_error {d : Document} {calls : List Call} {c : Call} {e : LintError}
    (h : (after d calls).add c.rule c.severity c.message c.anchor = .error e) :
    after d (calls ++ [c]) = after d calls := by
  rw [after_snoc, submit_run, h]

theorem after_document (d : Document) (calls : List Call) : (after d calls).document = d := by
  induction calls using List.reverseRecOn with
  | nil => rfl
  | append_singleton calls c ih =>
    rcases add_cases (after d calls) c with ⟨span, -, h⟩ | ⟨e, h⟩
    · rw [after_snoc_ok h, ih]
    · rw [after_snoc_error h, ih]

/-- After any calls, all spans that the sink holds are accepted. -/
theorem after_isIn (d : Document) (calls : List Call) :
    ∀ x ∈ (after d calls).diagnostics, x.span.IsIn d := by
  induction calls using List.reverseRecOn with
  | nil => simp [after, empty]
  | append_singleton calls c ih =>
    rcases add_cases (after d calls) c with ⟨span, hin, h⟩ | ⟨e, h⟩
    · rw [after_document] at hin
      rw [after_snoc_ok h]
      intro x hx
      rcases List.mem_append.1 hx with hx | hx
      · exact ih x hx
      · obtain rfl := List.mem_singleton.1 hx
        exact hin
    · rwa [after_snoc_error h]

/-- Further calls leave what the sink holds at its front. -/
theorem after_prefix (d : Document) (calls more : List Call) :
    (after d calls).diagnostics <+: (after d (calls ++ more)).diagnostics := by
  induction more using List.reverseRecOn with
  | nil => simp
  | append_singleton more c ih =>
    rw [← List.append_assoc]
    rcases add_cases (after d (calls ++ more)) c with ⟨span, -, h⟩ | ⟨e, h⟩
    · rw [after_snoc_ok h]
      exact ih.trans (List.prefix_append _ _)
    · rwa [after_snoc_error h]

end Sink

/-! ## Findings -/

namespace Findings

theorem exists_of_mem_ofMatches {judge : Match → Except LintError (Option Diagnostic)}
    {found : List Match} {r : Findings} (h : ofMatches judge found = .ok r) {x : Diagnostic}
    (hx : x ∈ r.diagnostics) : ∃ m ∈ found, judge m = .ok (some x) := by
  obtain ⟨verdicts, hverdicts, h⟩ := bind_eq_ok.1 h
  cases h
  obtain ⟨verdict, hv, rfl⟩ := List.mem_filterMap.1 hx
  exact exists_of_mem_mapM hverdicts hv

theorem exists_of_mem_concat {α : Type} {part : α → Except LintError Findings} {entries : List α}
    {r : Findings} (h : (do return concat (← entries.mapM part)) = Except.ok r) {x : Diagnostic}
    (hx : x ∈ r.diagnostics) :
    ∃ entry ∈ entries, ∃ found, part entry = .ok found ∧ x ∈ found.diagnostics := by
  obtain ⟨parts, hparts, h⟩ := bind_eq_ok.1 h
  cases h
  obtain ⟨found, hfound, hx⟩ := List.mem_flatMap.1 hx
  obtain ⟨entry, hentry, hpart⟩ := exists_of_mem_mapM hparts hfound
  exact ⟨entry, hentry, found, hpart, hx⟩

end Findings

/-- Report a match if it is at fault. -/
def Context.reportIf (ctx : Context) (fault : Bool) (f : Family) (severity : Severity)
    (message : String) (span : Span) : Except LintError (Option Diagnostic) := do
  if fault then return some (← ctx.report f severity message span) else return none

theorem Context.report_of_reportIf {ctx : Context} {faulty : Except LintError Bool} {f : Family}
    {severity : Severity} {message : String} {span : Span} {x : Diagnostic}
    (h : (do ctx.reportIf (← faulty) f severity message span) = .ok (some x)) :
    ctx.report f severity message span = .ok x := by
  obtain ⟨fault, -, h⟩ := bind_eq_ok.1 h
  cases fault with
  | false => cases h
  | true =>
    obtain ⟨y, hy, h⟩ := bind_eq_ok.1 h
    cases h
    exact hy

/-! Each family first finds out whether a match is at fault, and the severity plays no part in
that. -/

/-- Is the match a wrong spelling of the keyword in code? -/
def Casing.isFaulty (ctx : Context) (keyword : Keyword) (m : Match) : Except LintError Bool := do
  if m.text = keyword.text then return false
  ctx.isTypicalAt m.span.start

theorem Casing.judge_eq_reportIf (ctx : Context) (severity : Severity) (keyword : Keyword)
    (m : Match) :
    judge ctx severity keyword m = (do
      ctx.reportIf (← isFaulty ctx keyword m) .casing severity (message keyword.text) m.span) := by
  rw [judge, isFaulty]
  split
  · rfl
  · cases ctx.isTypicalAt m.span.start with
    | error e => rfl
    | ok typical => cases typical <;> rfl

/-- Is the match an operator in code that lacks a blank? -/
def Spacing.isFaulty (ctx : Context) (spacer : Spacer) (m : Match) : Except LintError Bool := do
  let path ← ctx.pathAt m.span.start
  if !Scope.isTypical path then return false
  if spacer.requiredScope ≠ "" ∧ !Scope.carries path spacer.requiredScope then return false
  return !(spacedBefore ctx spacer.breakScope m.span.start &&
    spaced ctx spacer.breakScope m.span.stop)

theorem Spacing.judge_eq_reportIf (ctx : Context) (severity : Severity) (spacer : Spacer)
    (m : Match) :
    judge ctx severity spacer m = (do
      ctx.reportIf (← isFaulty ctx spacer m) .spacing severity message m.span) := by
  rw [judge, isFaulty, isSpacedBefore_eq, isSpaced_eq]
  cases ctx.pathAt m.span.start with
  | error e => rfl
  | ok path =>
    simp only [bind, Except.bind, pure, Except.pure]
    split
    · rfl
    split
    · rfl
    cases spacedBefore ctx spacer.breakScope m.span.start <;>
      cases spaced ctx spacer.breakScope m.span.stop <;> rfl

/-- Is the match a variable in code whose name is not Hungarian? -/
def Naming.isFaulty (ctx : Context) (m : Match) : Except LintError Bool := do
  let path ← ctx.pathAt m.span.start
  return !(!Scope.isTypical path || Scope.carries path Scope.constant) &&
    !isHungarian (m.text.toList.drop 1)

theorem Naming.judge_eq_reportIf (ctx : Context) (severity : Severity) (m : Match) :
    judge ctx severity m = (do
      ctx.reportIf (← isFaulty ctx m) .naming severity message m.span) := by
  rw [judge, isFaulty]
  cases ctx.pathAt m.span.start with
  | error e => rfl
  | ok path =>
    simp only [bind, Except.bind, pure, Except.pure]
    cases !Scope.isTypical path || Scope.carries path Scope.constant <;>
      cases isHungarian (m.text.toList.drop 1) <;> rfl

/-- What a family finds it has reported. -/
theorem Family.reported_of_mem {f : Family} {ctx : Context} {severity : Severity} {found : Findings}
    (h : f.findings ctx severity = .ok found) {x : Diagnostic} (hx : x ∈ found.diagnostics) :
    ∃ message span, ctx.report f severity message span = .ok x := by
  cases f with
  | casing =>
    obtain ⟨keyword, -, part, hpart, hx⟩ := Findings.exists_of_mem_concat h hx
    obtain ⟨m, -, hm⟩ := Findings.exists_of_mem_ofMatches hpart hx
    rw [Casing.judge_eq_reportIf] at hm
    exact ⟨_, _, Context.report_of_reportIf hm⟩
  | spacing =>
    obtain ⟨spacer, -, part, hpart, hx⟩ := Findings.exists_of_mem_concat h hx
    obtain ⟨m, -, hm⟩ := Findings.exists_of_mem_ofMatches hpart hx
    rw [Spacing.judge_eq_reportIf] at hm
    exact ⟨_, _, Context.report_of_reportIf hm⟩
  | brackets =>
    obtain ⟨pair, -, part, hpart, hx⟩ := Findings.exists_of_mem_concat h hx
    obtain ⟨brackets, -, hpart⟩ := bind_eq_ok.1 hpart
    obtain ⟨diagnostics, hreported, hpart⟩ := bind_eq_ok.1 hpart
    cases hpart
    obtain ⟨p, -, hp⟩ := exists_of_mem_mapM hreported hx
    exact ⟨_, _, hp⟩
  | naming =>
    obtain ⟨m, -, hm⟩ := Findings.exists_of_mem_ofMatches h hx
    rw [Naming.judge_eq_reportIf] at hm
    exact ⟨_, _, Context.report_of_reportIf hm⟩

namespace Linter

theorem ranIn_of_mem {outcomes : List (Family × Outcome)} {entry : Family × Findings}
    (h : entry ∈ ranIn outcomes) : (entry.1, .ran entry.2) ∈ outcomes := by
  obtain ⟨⟨f, outcome⟩, hmem, h⟩ := List.mem_filterMap.1 h
  cases outcome with
  | skipped limit => cases h
  | ran findings =>
    cases h
    exact hmem

theorem findings_of_outcome {l : Linter} {d : Document} {classifier : Classifier} {f : Family}
    {found : Findings} (h : l.outcome d classifier f = .ok (.ran found)) :
    l.exceeded? d f = none ∧ f.findings ⟨d, classifier, l.table⟩ (l.severityOf f) = .ok found := by
  rw [outcome] at h
  split at h
  case h_1 => cases h
  case h_2 hlimit =>
    obtain ⟨r, hr, h⟩ := bind_eq_ok.1 h
    cases h
    exact ⟨hlimit, hr⟩

/-- Where a diagnostic of a pass comes from: it is the notice, or a family has found it. -/
theorem exists_of_mem_lint {l : Linter} {d : Document} {classifier : Classifier} {report : Report}
    (h : l.lint d classifier = .ok report) {x : Diagnostic} (hx : x ∈ report.diagnostics) :
    x = notice report.disabled ∨ ∃ f ∈ l.families, ∃ found,
      f.findings ⟨d, classifier, l.table⟩ (l.severityOf f) = .ok found ∧
        x ∈ found.diagnostics := by
  obtain ⟨outcomes, houtcomes, h⟩ := bind_eq_ok.1 h
  cases h
  rcases List.mem_append.1 hx with hx | hx
  · left
    split at hx
    · cases hx
    · exact List.mem_singleton.1 hx
  · right
    obtain ⟨⟨f, found⟩, hran, hx⟩ := List.mem_flatMap.1 hx
    obtain ⟨f', hf, hout⟩ := exists_of_mem_mapM houtcomes (ranIn_of_mem hran)
    obtain ⟨outcome, hout, heq⟩ := bind_eq_ok.1 hout
    cases heq
    exact ⟨f, hf, found, (findings_of_outcome hout).2, hx⟩

/-- Every span of a report is one of the document. -/
theorem isIn_of_mem_lint {l : Linter} {d : Document} {classifier : Classifier} {report : Report}
    (h : l.lint d classifier = .ok report) {x : Diagnostic} (hx : x ∈ report.diagnostics) :
    x.span.IsIn d := by
  rcases exists_of_mem_lint h hx with rfl | ⟨f, -, found, hfound, hx⟩
  · have horigin : d.contains Position.origin = true :=
      (d.contains_iff_inLines _).2 (inLines_origin _)
    exact ⟨horigin, horigin, Position.le_refl _⟩
  · obtain ⟨message, span, hreport⟩ := Family.reported_of_mem hfound hx
    obtain ⟨span', hresolve, rfl⟩ := Diagnostic.report_eq_ok_iff.1 hreport
    exact Anchor.resolve_isIn hresolve

end Linter

/-- Every diagnostic of a pass, the notice included, has a span that the document accepts and whose
text can be read.  A sink takes up one diagnostic with an accepted span for a call that succeeds
and none for a call that fails, and keeps what it holds, whatever calls came before. -/
theorem reported_spans_accepted :
    (∀ (l : Linter) (d : Document) (classifier : Classifier) (report : Report),
      l.lint d classifier = .ok report → ∀ x ∈ report.diagnostics,
        d.checkSpan x.span = .ok x.span ∧ x.span.IsIn d ∧
          ∃ text, d.textIn x.span = .ok (some text)) ∧
    (∀ (d : Document) (calls : List Sink.Call) (c : Sink.Call),
      (∀ x ∈ (Sink.after d calls).diagnostics, d.checkSpan x.span = .ok x.span) ∧
      (∀ s, (Sink.after d calls).add c.rule c.severity c.message c.anchor = .ok s →
        Sink.after d (calls ++ [c]) = s ∧ ∃ span, d.checkSpan span = .ok span ∧
          s = ⟨d, (Sink.after d calls).diagnostics ++
            [.ofMessage c.rule c.severity c.message span]⟩) ∧
      (∀ e, (Sink.after d calls).add c.rule c.severity c.message c.anchor = .error e →
        Sink.after d (calls ++ [c]) = Sink.after d calls) ∧
      ∀ more, (Sink.after d calls).diagnostics <+: (Sink.after d (calls ++ more)).diagnostics) := by
  have haccept : ∀ {d : Document} {s : Span}, s.IsIn d → d.checkSpan s = .ok s :=
    fun h => Document.checkSpan_eq_ok_iff.2 ⟨rfl, h⟩
  constructor
  · intro l d classifier report h x hx
    have hin := Linter.isIn_of_mem_lint h hx
    exact ⟨haccept hin, hin, Document.textIn_of_isIn hin⟩
  · intro d calls c
    refine ⟨fun x hx => haccept (Sink.after_isIn d calls x hx), ?_, ?_, Sink.after_prefix d calls⟩
    · intro s hs
      refine ⟨Sink.after_snoc_ok hs, ?_⟩
      rcases Sink.add_cases (Sink.after d calls) c with ⟨span, hin, h⟩ | ⟨e, h⟩
      · rw [Sink.after_document] at hin h
        rw [h] at hs
        exact ⟨span, haccept hin, (Except.ok.inj hs).symm⟩
      · rw [h] at hs
        cases hs
    · intro e he
      exact Sink.after_snoc_error he

/-- A pass that skips a family, next to a line end of two characters; a sink that takes up a point
and refuses a stretch whose ends are in the wrong order. -/
theorem reported_spans_accepted_skipping :
    (∃ report, Linter.lint ⟨{ BuiltIn.table with limits := { spacing := some 0 } }, Family.all, []⟩
        (.ofString "EOI\r\n(") ⟨fun _ => [Scope.root]⟩ = .ok report ∧
      report.diagnostics.map (·.span) =
        [Span.emptyAt .origin, Span.onRow 0 0 3, Span.charAt ⟨1, 0⟩] ∧
      ∀ x ∈ report.diagnostics, ∃ text, (Document.ofString "EOI\r\n(").textIn x.span =
        .ok (some text)) ∧
    (∃ span, (Document.ofString "foo bar").checkSpan span = .ok span ∧
      Sink.after (.ofString "foo bar") ([] ++ [⟨"r", .info, "", .point 0 4⟩]) =
        ⟨.ofString "foo bar", [.ofMessage "r" .info "" span]⟩) ∧
    Sink.after (.ofString "foo bar")
        ([⟨"r", .info, "", .point 0 4⟩] ++ [⟨"r", .info, "", .stretch 0 6 4⟩]) =
      Sink.after (.ofString "foo bar") [⟨"r", .info, "", .point 0 4⟩] := by
  have hlint : Linter.lint ⟨{ BuiltIn.table with limits := { spacing := some 0 } }, Family.all, []⟩
      (.ofString "EOI\r\n(") ⟨fun _ => [Scope.root]⟩ =
      .ok ⟨[Linter.notice [.spacing],
        .ofMessage "casing" .warning (Casing.message "eoi") (Span.onRow 0 0 3),
        .ofMessage "bracket-match" .error Brackets.message (Span.charAt ⟨1, 0⟩)], [.spacing],
        [⟨"casing", 0, 1, 1, 1⟩, ⟨"bracket-match", 0, 1, 1, 1⟩, ⟨"notation", 0, 1, 0, 0⟩]⟩ := by
    decide +kernel
  refine ⟨⟨_, hlint, rfl, ?_⟩, ?_, ?_⟩
  · intro x hx
    exact (reported_spans_accepted.1 _ _ _ _ hlint x hx).2.2
  · obtain ⟨hafter, span, hspan, hs⟩ := (reported_spans_accepted.2 (.ofString "foo bar") []
      ⟨"r", .info, "", .point 0 4⟩).2.1 _ rfl
    exact ⟨span, hspan, hafter.trans hs⟩
  · exact (reported_spans_accepted.2 _ _ ⟨"r", .info, "", .stretch 0 6 4⟩).2.2.1
      (.reversedSpan (Span.onRow 0 6 4)) rfl

end ScopeLint
