import ScopeLint.Proofs.Independence
import ScopeLint.Proofs.Pairing

/-!
# Where reported spans start

Each family asks for the scope at the start of a match, and reports it only where there is code.  So
no reported span starts outside a script.  Its other places are not asked for: a classifier that
leaves the script within a match makes the span reach beyond it.  The span of a bracket is one
character and cannot, and the lexical classifier never leaves the script.
-/

namespace ScopeLint

theorem Scope.isRoot_of_isTypical {path : ScopePath} (h : isTypical path = true) :
    isRoot path = true := by
  simp only [isTypical, Bool.and_eq_true] at h
  exact h.1.1.1.1

theorem Span.contains_charAt_iff {p q : Position} : (charAt p).contains q = true ↔ q = p := by
  obtain ⟨row, column⟩ := q
  simp only [contains_iff, charAt, onRow, Position.le_def, Position.lt_def]
  constructor
  · intro h
    have hrow : row = p.row := by omega
    have hcolumn : column = p.column := by omega
    rw [hrow, hcolumn]
  · intro h
    subst h
    exact ⟨.inr ⟨rfl, Nat.le_refl _⟩, .inr ⟨rfl, Nat.lt_succ_self _⟩⟩

/-- Where matches are judged by their faults, what is found is a match that is at fault. -/
theorem Findings.exists_fault {ctx : Context} {judge : Match → Except LintError (Option Diagnostic)}
    {isFaulty : Match → Except LintError Bool} {f : Family} {severity : Severity} {message : String}
    (hjudge : ∀ m, judge m = (do ctx.reportIf (← isFaulty m) f severity message m.span))
    {found : List Match} {part : Findings} (h : ofMatches judge found = .ok part) {x : Diagnostic}
    (hx : x ∈ part.diagnostics) :
    ∃ m ∈ found, isFaulty m = .ok true ∧ x = .ofMessage f.id severity message m.span := by
  obtain ⟨m, hm, hx⟩ := exists_of_mem_ofMatches h hx
  rw [hjudge] at hx
  obtain ⟨fault, hfault, hx⟩ := bind_eq_ok.1 hx
  have hverdict := Context.reportIf_of_ok hx
  cases fault with
  | false => cases hverdict
  | true => exact ⟨m, hm, hfault, Option.some.inj hverdict⟩

/-! ## A faulty match starts in code -/

section Faulty

variable {ctx : Context} {m : Match}

/-- A fault that is denied outside code lies in code. -/
theorem Context.typical_of_fault {p : Position} {fault : ScopePath → Except LintError Bool}
    (hdenied : ∀ path, Scope.isTypical path = false → fault path = .ok false)
    (h : (do fault (← ctx.pathAt p)) = .ok true) : Scope.isTypical (ctx.path p) = true := by
  obtain ⟨path, hpath, h⟩ := bind_eq_ok.1 h
  obtain ⟨-, rfl⟩ := pathAt_of_ok hpath
  by_contra hnot
  rw [hdenied _ (Bool.not_eq_true _ ▸ hnot)] at h
  cases h

theorem Casing.typical_of_isFaulty {keyword : Keyword} (h : isFaulty ctx keyword m = .ok true) :
    Scope.isTypical (ctx.path m.span.start) = true := by
  rw [isFaulty] at h
  split at h
  case isTrue => cases h
  case isFalse => exact (Context.isTypicalAt_of_ok h).symm

theorem Spacing.typical_of_isFaulty {spacer : Spacer} (h : isFaulty ctx spacer m = .ok true) :
    Scope.isTypical (ctx.path m.span.start) = true := by
  refine Context.typical_of_fault (fun path hpath => ?_) h
  rw [hpath]
  rfl

theorem Naming.typical_of_isFaulty (h : isFaulty ctx m = .ok true) :
    Scope.isTypical (ctx.path m.span.start) = true := by
  refine Context.typical_of_fault (fun path hpath => ?_) h
  rw [hpath]
  rfl

end Faulty

/-- A bracket that is reported is one of those that were read in code. -/
theorem Brackets.typical_of_mem {ctx : Context} {severity : Severity} {pair : Pattern}
    {found : Findings} (h : pairFindings ctx severity pair = .ok found) {x : Diagnostic}
    (hx : x ∈ found.diagnostics) :
    x.span = Span.charAt x.span.start ∧ Scope.isTypical (ctx.path x.span.start) = true := by
  rw [pairFindings_of_ok h] at hx
  obtain ⟨q, hq, hlonely⟩ := exists_accounts ctx severity pair
  rw [hlonely] at hx
  obtain ⟨m, hm, rfl⟩ := List.mem_map.1 hx
  have hword : m ∈ wordOf ctx pair :=
    hq.perm.mem_iff.1 (List.mem_append_left q.partners hm)
  exact ⟨rfl, (List.mem_filter.1 hword).2⟩

/-- Whatever a family reports starts in code, and a bracket is one character. -/
theorem Family.typical_of_mem {f : Family} {ctx : Context} {severity : Severity} {found : Findings}
    (h : f.findings ctx severity = .ok found) {x : Diagnostic} (hx : x ∈ found.diagnostics) :
    Scope.isTypical (ctx.path x.span.start) = true ∧
      (f = .brackets → x.span = Span.charAt x.span.start) := by
  cases f with
  | casing =>
    obtain ⟨keyword, -, part, hpart, hx⟩ := Findings.exists_of_mem_concat h hx
    obtain ⟨m, -, hfault, rfl⟩ :=
      Findings.exists_fault (Casing.judge_eq_reportIf ctx severity keyword) hpart hx
    exact ⟨Casing.typical_of_isFaulty hfault, fun hf => nomatch hf⟩
  | spacing =>
    obtain ⟨spacer, -, part, hpart, hx⟩ := Findings.exists_of_mem_concat h hx
    obtain ⟨m, -, hfault, rfl⟩ :=
      Findings.exists_fault (Spacing.judge_eq_reportIf ctx severity spacer) hpart hx
    exact ⟨Spacing.typical_of_isFaulty hfault, fun hf => nomatch hf⟩
  | brackets =>
    obtain ⟨pair, -, part, hpart, hx⟩ := Findings.exists_of_mem_concat h hx
    obtain ⟨hspan, htypical⟩ := Brackets.typical_of_mem hpart hx
    exact ⟨htypical, fun _ => hspan⟩
  | naming =>
    obtain ⟨m, -, hfault, rfl⟩ :=
      Findings.exists_fault (Naming.judge_eq_reportIf ctx severity) h hx
    exact ⟨Naming.typical_of_isFaulty hfault, fun hf => nomatch hf⟩

theorem Lexical.isRoot_pathAt (table : Array (Array (Option Inner))) (p : Position) :
    Scope.isRoot (pathAt table p) = true := by
  rw [pathAt]
  cases innerAt table p with
  | none => decide
  | some scope => exact beq_self_eq_true Scope.root

/-- Every span that a pass reports and that holds a place at all starts in code.  Where the span
holds a place outside the script, that place lies behind its start and the span is that of a
keyword, an operator or a variable.  With the lexical classifier there is no such place. -/
theorem reported_spans_start_in_code :
    (∀ (l : Linter) (d : Document) (classifier : Classifier) (report : Report),
      l.lint d classifier = .ok report → ∀ x ∈ report.diagnostics, ∀ p,
        x.span.contains p = true →
          Scope.isTypical (classifier.pathAt x.span.start) = true ∧
          Scope.isRoot (classifier.pathAt x.span.start) = true ∧
          (Scope.isRoot (classifier.pathAt p) = true ∨
            x.span.start < p ∧ x.rule ∈ [Family.casing.id, Family.spacing.id, Family.naming.id])) ∧
    (∀ (l : Linter) (text : String) (report : Report),
      l.lintText text = .ok report → ∀ x ∈ report.diagnostics, ∀ p,
        x.span.contains p = true →
          Scope.isRoot ((l.lexical (.ofString text)).pathAt p) = true) := by
  refine ⟨?_, fun l text report _ x _ p _ => Lexical.isRoot_pathAt _ p⟩
  intro l d classifier report h x hx p hp
  rcases Linter.exists_of_mem_lint h hx with rfl | ⟨f, -, found, hfound, hx⟩
  · obtain ⟨hle, hlt⟩ := Span.contains_iff.1 hp
    exact absurd hlt (Position.not_lt_of_le hle)
  obtain ⟨htypical, hbracket⟩ := Family.typical_of_mem hfound hx
  have hroot := Scope.isRoot_of_isTypical htypical
  refine ⟨htypical, hroot, ?_⟩
  by_cases hstart : p = x.span.start
  · left
    rw [hstart]
    exact hroot
  right
  have hbehind : x.span.start < p :=
    (Position.le_iff_lt_or_eq.1 (Span.contains_iff.1 hp).1).resolve_right (Ne.symm hstart)
  have hrule : x.rule = f.id := (Family.rule_severity_of_mem hfound hx).1
  refine ⟨hbehind, ?_⟩
  rw [hrule]
  cases f with
  | casing | spacing | naming => decide
  | brackets =>
    rw [hbracket rfl, Span.contains_charAt_iff] at hp
    exact absurd hp hstart

/-- A keyword whose first letter alone stands in the script. -/
def leaving : Classifier := .ofRegions ["text.html.basic"] [⟨0, 0, 1, [Scope.root]⟩]

theorem Linter.lint_leaving :
    Linter.lint ⟨BuiltIn.table, [.casing], []⟩ (.ofString "EOI") leaving =
      .ok ⟨[.ofMessage "casing" .warning (Casing.message "eoi") (Span.onRow 0 0 3)], [],
        [⟨"casing", 0, 1, 1, 1⟩]⟩ := by
  decide +kernel

/-- The keyword is reported with its second letter, which stands outside the script. -/
theorem reported_span_leaves_script :
    ∃ (report : Report) (x : Diagnostic) (p : Position),
      Linter.lint ⟨BuiltIn.table, [.casing], []⟩ (.ofString "EOI") leaving = .ok report ∧
        x ∈ report.diagnostics ∧ x.span.contains p = true ∧
        (Document.ofString "EOI").contains p = true ∧ Scope.isRoot (leaving.pathAt p) = false :=
  ⟨_, _, ⟨0, 1⟩, Linter.lint_leaving, List.mem_singleton_self _, by decide, by decide, by decide⟩

/-- The first letter of the same keyword is code, and its other places lie behind that letter.  With
the lexical classifier all of them are in the script. -/
theorem reported_spans_start_in_code_leaving :
    (∃ report, Linter.lint ⟨BuiltIn.table, [.casing], []⟩ (.ofString "EOI") leaving = .ok report ∧
      ∀ x ∈ report.diagnostics, ∀ p, x.span.contains p = true →
        Scope.isTypical (leaving.pathAt x.span.start) = true ∧
          (Scope.isRoot (leaving.pathAt p) = true ∨ x.span.start < p)) ∧
    ∃ report, Linter.lintText ⟨BuiltIn.table, [.casing], []⟩ "EOI" = .ok report ∧
      ∃ x ∈ report.diagnostics, ∀ p, x.span.contains p = true →
        Scope.isRoot ((Linter.lexical ⟨BuiltIn.table, [.casing], []⟩ (.ofString "EOI")).pathAt p) =
          true := by
  have htext : Linter.lintText ⟨BuiltIn.table, [.casing], []⟩ "EOI" =
      .ok ⟨[.ofMessage "casing" .warning (Casing.message "eoi") (Span.onRow 0 0 3)], [],
        [⟨"casing", 0, 1, 1, 1⟩]⟩ := by
    decide +kernel
  refine ⟨⟨_, Linter.lint_leaving, fun x hx p hp => ?_⟩, _, htext, _, List.mem_singleton_self _, ?_⟩
  · obtain ⟨htypical, -, hplace⟩ :=
      reported_spans_start_in_code.1 _ _ _ _ Linter.lint_leaving x hx p hp
    exact ⟨htypical, hplace.imp_right And.left⟩
  · exact reported_spans_start_in_code.2 _ _ _ htext _ (List.mem_singleton_self _)

end ScopeLint
