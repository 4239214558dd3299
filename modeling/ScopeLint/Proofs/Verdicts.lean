import Mathlib.Data.List.Basic
import ScopeLint.Linter
import ScopeLint.Proofs.Scanning

/-!
# Verdicts

Where all matches of a table hold at least one character and none that ends a line, every place
that the families ask about is in the document.  So no family fails, and what it finds is a plain
function of the matches, the text and the classifier.
-/

namespace ScopeLint

/-- A match of at least one character, none of which ends a line. -/
structure Match.IsPlain (m : Match) : Prop where
  ne_empty : m.text.toList ≠ []
  no_return : '\r' ∉ m.text.toList
  no_feed : '\n' ∉ m.text.toList

/-- Are all matches of the pattern in the document plain? -/
def Pattern.IsPlainIn (p : Pattern) (d : Document) : Prop := ∀ m ∈ p.scan d, m.IsPlain

/-- Are all matches of all patterns of the table in the document plain? -/
structure RuleTable.IsPlainIn (t : RuleTable) (d : Document) : Prop where
  keywords : ∀ k ∈ t.keywords, k.pattern.IsPlainIn d
  spacers : ∀ s ∈ t.spacers, s.pattern.IsPlainIn d
  brackets : ∀ p ∈ t.brackets, p.IsPlainIn d
  variablePattern : t.variablePattern.IsPlainIn d

/-- Where a plain match stands: within one row of the document, its first character included. -/
structure Span.IsPlainIn (s : Span) (d : Document) : Prop where
  start_mem : d.contains s.start = true
  stop_mem : d.contains s.stop = true
  next_mem : d.contains ⟨s.start.row, s.start.column + 1⟩ = true
  lt : s.start < s.stop

/-- A plain match stands within one row: a cut behind a character that ends no line leaves line ends
whole. -/
theorem Match.IsPlain.span {p : Pattern} {d : Document} {m : Match} (hm : m ∈ p.scan d)
    (hplain : m.IsPlain) : m.span.IsPlainIn d := by
  obtain ⟨before, inside, behind, hcut, -, -, hspan, htext⟩ := Pattern.exists_stretch hm
  obtain ⟨hne, hreturn, hfeed⟩ := hplain
  rw [htext, String.toList_ofList] at hne hreturn hfeed
  have hwhole : ∀ front back, inside = front ++ back → front ≠ [] →
      ¬ CutsLineEnd (before ++ front) (back ++ behind) := by
    rintro front back rfl hfront ⟨hlast, -⟩
    rw [List.getLast?_append_of_ne_nil _ hfront] at hlast
    exact hreturn (List.mem_append_left _ (List.mem_of_getLast? hlast))
  obtain ⟨c, cs, rfl⟩ := List.exists_cons_of_ne_nil hne
  have hc : c ≠ '\n' := fun h => hfeed (by simp [h])
  rw [hspan]
  refine ⟨?_, ?_, ?_, ?_⟩
  · have hcut' : d.chars.toList = before ++ (c :: cs ++ behind) := by
      rw [hcut, List.append_assoc]
    refine (Document.contains_cut hcut').2 ?_
    rintro ⟨-, h | h⟩
    · cases h
    · exact hc (Option.some.inj h)
  · exact (Document.contains_cut hcut).2 (hwhole (c :: cs) [] (by simp) hne)
  · have hcut' : d.chars.toList = before ++ [c] ++ (cs ++ behind) := by
      simp [hcut]
    have hnext := (Document.contains_cut hcut').2 (hwhole [c] cs rfl (by simp))
    rwa [Position.after_append, Position.after_cons, Position.step, if_neg hc] at hnext
  · rw [Position.after_append]
    exact Position.lt_after _ hne

theorem mapM_eq_ok {α β : Type} {f : α → Except LintError β} {g : α → β} {xs : List α}
    (h : ∀ x ∈ xs, f x = .ok (g x)) : xs.mapM f = .ok (xs.map g) := by
  induction xs with
  | nil => rfl
  | cons x xs ih =>
    have hx := h x List.mem_cons_self
    have hxs := ih (fun y hy => h y (List.mem_cons_of_mem x hy))
    rw [List.mapM_cons, hx, hxs]
    rfl

namespace Context

variable {ctx : Context}

/-- The scope path at a place, whether it is in the document or not. -/
def path (ctx : Context) (p : Position) : ScopePath := ctx.classifier.pathAt p

theorem pathAt_eq {p : Position} (h : ctx.document.contains p = true) :
    ctx.pathAt p = .ok (ctx.path p) := by
  rw [pathAt, Document.check_inside h]
  rfl

theorem isTypicalAt_eq {p : Position} (h : ctx.document.contains p = true) :
    ctx.isTypicalAt p = .ok (Scope.isTypical (ctx.path p)) := by
  rw [isTypicalAt, pathAt_eq h]
  rfl

theorem report_eq {s : Span} (hstart : ctx.document.contains s.start = true)
    (hstop : ctx.document.contains s.stop = true) (hle : s.start ≤ s.stop) (f : Family)
    (severity : Severity) (message : String) :
    ctx.report f severity message s = .ok (Diagnostic.ofMessage f.id severity message s) := by
  rw [report, Diagnostic.report, Anchor.resolve, Document.checkSpan_inside hstart hstop hle]
  rfl

theorem report_plain {s : Span} (h : s.IsPlainIn ctx.document) (f : Family)
    (severity : Severity) (message : String) :
    ctx.report f severity message s = .ok (Diagnostic.ofMessage f.id severity message s) :=
  report_eq h.start_mem h.stop_mem (Position.le_iff_lt_or_eq.2 (.inl h.lt)) f severity message

end Context

/-- The findings of one pattern whose matches are judged without failure. -/
def Findings.judged (verdict : Match → Option Diagnostic) (found : List Match) : Findings :=
  ⟨found.length, found.filterMap verdict⟩

/-- Where no match fails to be judged, the findings are made of the verdicts. -/
theorem Findings.ofMatches_eq {judge : Match → Except LintError (Option Diagnostic)}
    {verdict : Match → Option Diagnostic} {found : List Match}
    (h : ∀ m ∈ found, judge m = .ok (verdict m)) :
    ofMatches judge found = .ok (judged verdict found) := by
  rw [ofMatches, mapM_eq_ok h]
  simp only [bind, Except.bind, pure, Except.pure, judged, List.filterMap_map]
  rfl

namespace Casing

/-- What becomes of a spelling of a keyword. -/
def verdict (ctx : Context) (severity : Severity) (keyword : Keyword) (m : Match) :
    Option Diagnostic :=
  if m.text = keyword.text then none
  else if Scope.isTypical (ctx.path m.span.start) then
    some (Diagnostic.ofMessage Family.casing.id severity (message keyword.text) m.span)
  else none

theorem judge_of_contains {ctx : Context} {m : Match}
    (hstart : ctx.document.contains m.span.start = true)
    (hstop : ctx.document.contains m.span.stop = true) (hle : m.span.start ≤ m.span.stop)
    (severity : Severity) (keyword : Keyword) :
    judge ctx severity keyword m = .ok (verdict ctx severity keyword m) := by
  rw [judge, verdict, Context.isTypicalAt_eq hstart, Context.report_eq hstart hstop hle]
  split
  · rfl
  · cases Scope.isTypical (ctx.path m.span.start) <;> rfl

theorem judge_eq {ctx : Context} {m : Match} (h : m.span.IsPlainIn ctx.document)
    (severity : Severity) (keyword : Keyword) :
    judge ctx severity keyword m = .ok (verdict ctx severity keyword m) :=
  judge_of_contains h.start_mem h.stop_mem (Position.le_iff_lt_or_eq.2 (.inl h.lt)) severity keyword

end Casing

namespace Spacing

/-- Is the neighbour at a place as good as a blank? -/
def spaced (ctx : Context) (breakScope : String) (p : Position) : Bool :=
  match ctx.document.charAt? p with
  | none => true
  | some c =>
    c == ' ' || c == '\t' || (breakScope != "" && Scope.carries (ctx.path p) breakScope)

/-- Is the neighbour before a place as good as a blank? -/
def spacedBefore (ctx : Context) (breakScope : String) (p : Position) : Bool :=
  match p.column with
  | 0 => true
  | column + 1 => spaced ctx breakScope ⟨p.row, column⟩

/-- What becomes of an operator. -/
def verdict (ctx : Context) (severity : Severity) (spacer : Spacer) (m : Match) :
    Option Diagnostic :=
  let path := ctx.path m.span.start
  if Scope.isTypical path &&
      (spacer.requiredScope == "" || Scope.carries path spacer.requiredScope) &&
      !(spacedBefore ctx spacer.breakScope m.span.start &&
        spaced ctx spacer.breakScope m.span.stop) then
    some (Diagnostic.ofMessage Family.spacing.id severity message m.span)
  else none

/-- A neighbour can be asked for at any place, in the document or not. -/
theorem isSpaced_eq (ctx : Context) (breakScope : String) (p : Position) :
    isSpaced ctx breakScope p = .ok (spaced ctx breakScope p) := by
  rw [isSpaced, spaced]
  cases hc : ctx.document.charAt? p with
  | none => rfl
  | some c =>
    simp only
    split
    case isTrue hblank => rcases hblank with rfl | rfl <;> simp
    case isFalse hblank =>
      rw [not_or] at hblank
      split
      case isTrue hscope => simp [hblank, hscope]
      case isFalse hscope =>
        have hspace : (c == ' ') = false := by simpa using hblank.1
        have htab : (c == '\t') = false := by simpa using hblank.2
        have hbreak : (breakScope != "") = true := by simpa using hscope
        rw [Context.pathAt_eq (Document.contains_of_charAt? hc), hspace, htab, hbreak]
        rfl

theorem isSpacedBefore_eq (ctx : Context) (breakScope : String) (p : Position) :
    isSpacedBefore ctx breakScope p = .ok (spacedBefore ctx breakScope p) := by
  rw [isSpacedBefore, spacedBefore]
  cases p.column with
  | zero => rfl
  | succ column => exact isSpaced_eq ctx breakScope _

theorem judge_eq {ctx : Context} {m : Match} (h : m.span.IsPlainIn ctx.document)
    (severity : Severity) (spacer : Spacer) :
    judge ctx severity spacer m = .ok (verdict ctx severity spacer m) := by
  rw [judge, verdict, Context.pathAt_eq h.start_mem, isSpacedBefore_eq, isSpaced_eq,
    Context.report_plain h]
  simp only [bind, Except.bind, pure, Except.pure]
  cases Scope.isTypical (ctx.path m.span.start) with
  | false => rfl
  | true =>
    by_cases hscope : spacer.requiredScope = ""
    · cases spacedBefore ctx spacer.breakScope m.span.start <;>
        cases spaced ctx spacer.breakScope m.span.stop <;> simp [hscope]
    · cases Scope.carries (ctx.path m.span.start) spacer.requiredScope <;>
        cases spacedBefore ctx spacer.breakScope m.span.start <;>
        cases spaced ctx spacer.breakScope m.span.stop <;> simp [hscope]

end Spacing

namespace Naming

/-- What becomes of a variable. -/
def verdict (ctx : Context) (severity : Severity) (m : Match) : Option Diagnostic :=
  let path := ctx.path m.span.start
  if Scope.isTypical path && !Scope.carries path Scope.constant &&
      !isHungarian (m.text.toList.drop 1) then
    some (Diagnostic.ofMessage Family.naming.id severity message m.span)
  else none

theorem judge_eq {ctx : Context} {m : Match} (h : m.span.IsPlainIn ctx.document)
    (severity : Severity) : judge ctx severity m = .ok (verdict ctx severity m) := by
  rw [judge, verdict, Context.pathAt_eq h.start_mem, Context.report_plain h]
  simp only [bind, Except.bind, pure, Except.pure]
  cases Scope.isTypical (ctx.path m.span.start) <;>
    cases Scope.carries (ctx.path m.span.start) Scope.constant <;>
    cases isHungarian (m.text.toList.drop 1) <;> rfl

end Naming

namespace Brackets

/-- The bracket of a match, if the classifier takes it for code. -/
def codeBracket? (ctx : Context) (m : Match) : Option Bracket :=
  if Scope.isTypical (ctx.path m.span.start) then some ⟨m.hasGroup openingGroup, m.span.start⟩
  else none

def codeBrackets (ctx : Context) (pair : Pattern) : List Bracket :=
  (pair.scan ctx.document).filterMap (codeBracket? ctx)

/-- What is found for one pair. -/
def pairVerdict (ctx : Context) (severity : Severity) (pair : Pattern) : Findings :=
  ⟨(pair.scan ctx.document).length,
    (unpaired ctx.table.strategy (codeBrackets ctx pair)).positions.map
      (fun p => Diagnostic.ofMessage Family.brackets.id severity message (Span.charAt p))⟩

theorem bracket?_eq {ctx : Context} {m : Match} (h : m.span.IsPlainIn ctx.document) :
    bracket? ctx m = .ok (codeBracket? ctx m) := by
  rw [bracket?, codeBracket?, Context.isTypicalAt_eq h.start_mem]
  simp only [bind, Except.bind, pure, Except.pure]
  cases Scope.isTypical (ctx.path m.span.start) <;> rfl

/-- Only positions of brackets are left without a partner. -/
theorem mem_unpaired_step {strategy : BracketStrategy} {u : Unpaired} {b : Bracket} {p : Position}
    (h : p ∈ (u.step strategy b).positions) : p ∈ u.positions ∨ p = b.position := by
  rw [Unpaired.step] at h
  simp only [Unpaired.positions, List.mem_append, List.mem_reverse] at h ⊢
  split at h
  · rcases h with h | h
    · rcases List.mem_cons.1 h with rfl | h
      · exact .inr rfl
      · exact .inl (.inl h)
    · exact .inl (.inr h)
  · split at h
    · rcases h with h | h
      · exact .inl (.inl (List.mem_of_mem_eraseP h))
      · exact .inl (.inr h)
    · rcases h with h | h
      · exact .inl (.inl h)
      · rcases List.mem_cons.1 h with rfl | h
        · exact .inr rfl
        · exact .inl (.inr h)

theorem mem_unpaired {strategy : BracketStrategy} {brackets : List Bracket} {p : Position}
    (h : p ∈ (unpaired strategy brackets).positions) : ∃ b ∈ brackets, p = b.position := by
  have hrun : ∀ (bs : List Bracket) (u : Unpaired),
      p ∈ (bs.foldl (Unpaired.step strategy) u).positions →
        p ∈ u.positions ∨ ∃ b ∈ bs, p = b.position := by
    intro bs
    induction bs with
    | nil => intro u hu; exact .inl hu
    | cons b bs ih =>
      intro u hu
      rcases ih _ hu with hstep | ⟨b', hb', hp⟩
      · rcases mem_unpaired_step hstep with hu' | hp
        · exact .inl hu'
        · exact .inr ⟨b, List.mem_cons_self, hp⟩
      · exact .inr ⟨b', List.mem_cons_of_mem b hb', hp⟩
  rcases hrun brackets ⟨[], []⟩ h with hnone | hb
  · simp [Unpaired.positions] at hnone
  · exact hb

theorem pairFindings_eq {ctx : Context} {pair : Pattern} (h : pair.IsPlainIn ctx.document)
    (severity : Severity) :
    pairFindings ctx severity pair = .ok (pairVerdict ctx severity pair) := by
  have hspan : ∀ m ∈ pair.scan ctx.document, m.span.IsPlainIn ctx.document :=
    fun m hm => (h m hm).span hm
  have hbrackets := mapM_eq_ok (fun m hm => bracket?_eq (hspan m hm))
  have hreport : ∀ p ∈ (unpaired ctx.table.strategy (codeBrackets ctx pair)).positions,
      ctx.report .brackets severity message (Span.charAt p) =
        .ok (Diagnostic.ofMessage Family.brackets.id severity message (Span.charAt p)) := by
    intro p hp
    obtain ⟨b, hb, rfl⟩ := mem_unpaired hp
    obtain ⟨m, hm, hmb⟩ := List.mem_filterMap.1 hb
    have hplain := hspan m hm
    rw [codeBracket?] at hmb
    split at hmb
    · cases hmb
      exact Context.report_eq (s := Span.charAt m.span.start) hplain.start_mem hplain.next_mem
        (.inr ⟨rfl, Nat.le_succ _⟩) .brackets severity message
    · cases hmb
  rw [pairFindings, hbrackets]
  simp only [bind, Except.bind, pure, Except.pure, List.filterMap_map]
  rw [show (List.filterMap ((fun b => b) ∘ codeBracket? ctx) (pair.scan ctx.document)) =
    codeBrackets ctx pair from rfl, mapM_eq_ok hreport]
  rfl

end Brackets

/-- What a family finds where it cannot fail. -/
def Family.verdict (f : Family) (ctx : Context) (severity : Severity) : Findings :=
  match f with
  | .casing => .concat (ctx.table.keywords.map (fun keyword =>
      .judged (Casing.verdict ctx severity keyword) (keyword.pattern.scan ctx.document)))
  | .spacing => .concat (ctx.table.spacers.map (fun spacer =>
      .judged (Spacing.verdict ctx severity spacer) (spacer.pattern.scan ctx.document)))
  | .brackets => .concat (ctx.table.brackets.map (Brackets.pairVerdict ctx severity))
  | .naming => .judged (Naming.verdict ctx severity) (ctx.table.variablePattern.scan ctx.document)

/-- A family cannot fail where all matches of the table are plain. -/
theorem Family.findings_eq (f : Family) {ctx : Context} (h : ctx.table.IsPlainIn ctx.document)
    (severity : Severity) : f.findings ctx severity = .ok (f.verdict ctx severity) := by
  cases f with
  | casing =>
    have hkeyword : ∀ k ∈ ctx.table.keywords, Casing.keywordFindings ctx severity k =
        .ok (.judged (Casing.verdict ctx severity k) (k.pattern.scan ctx.document)) :=
      fun k hk => Findings.ofMatches_eq (fun m hm =>
        Casing.judge_eq ((h.keywords k hk m hm).span hm) severity k)
    rw [findings, Casing.findings, mapM_eq_ok hkeyword]
    rfl
  | spacing =>
    have hspacer : ∀ s ∈ ctx.table.spacers, Spacing.spacerFindings ctx severity s =
        .ok (.judged (Spacing.verdict ctx severity s) (s.pattern.scan ctx.document)) :=
      fun s hs => Findings.ofMatches_eq (fun m hm =>
        Spacing.judge_eq ((h.spacers s hs m hm).span hm) severity s)
    rw [findings, Spacing.findings, mapM_eq_ok hspacer]
    rfl
  | brackets =>
    have hpair : ∀ p ∈ ctx.table.brackets, Brackets.pairFindings ctx severity p =
        .ok (Brackets.pairVerdict ctx severity p) :=
      fun p hp => Brackets.pairFindings_eq (h.brackets p hp) severity
    rw [findings, Brackets.findings, mapM_eq_ok hpair]
    rfl
  | naming =>
    exact Findings.ofMatches_eq (fun m hm =>
      Naming.judge_eq ((h.variablePattern m hm).span hm) severity)

namespace Linter

/-- What becomes of one family where none can fail. -/
def verdict (l : Linter) (d : Document) (classifier : Classifier) (f : Family) : Outcome :=
  match l.exceeded? d f with
  | some limit => .skipped limit
  | none => .ran (f.verdict ⟨d, classifier, l.table⟩ (l.severityOf f))

/-- Where no family fails a pass succeeds, with what the families find. -/
theorem lint_of_findings {l : Linter} {d : Document} {classifier : Classifier}
    (h : ∀ f : Family, f.findings ⟨d, classifier, l.table⟩ (l.severityOf f) =
      .ok (f.verdict ⟨d, classifier, l.table⟩ (l.severityOf f))) :
    l.lint d classifier =
      .ok (reportOf (l.families.map (fun f => (f, l.verdict d classifier f)))) := by
  have houtcome : ∀ f, l.outcome d classifier f = .ok (l.verdict d classifier f) := by
    intro f
    rw [outcome, verdict]
    cases l.exceeded? d f with
    | some limit => rfl
    | none =>
      rw [h f]
      rfl
  have hall : l.families.mapM (fun f => do return (f, ← l.outcome d classifier f)) =
      (.ok (l.families.map (fun f => (f, l.verdict d classifier f))) : Except LintError _) := by
    apply mapM_eq_ok
    intro f _
    rw [houtcome f]
    rfl
  rw [lint, hall]
  rfl

theorem lint_eq {l : Linter} {d : Document} (h : l.table.IsPlainIn d) (classifier : Classifier) :
    l.lint d classifier =
      .ok (reportOf (l.families.map (fun f => (f, l.verdict d classifier f)))) :=
  lint_of_findings fun f => f.findings_eq h (l.severityOf f)

end Linter

end ScopeLint
