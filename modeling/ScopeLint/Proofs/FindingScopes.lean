import ScopeLint.Proofs.Neighbours
import ScopeLint.Proofs.Suggestions

/-!
# The scopes at which findings start

A report holds nothing that a family should have passed over.  Each diagnostic behind the notice
comes from a match, and the tests that its family puts to the match held there: the path at its
start is that of code, it carries no constant for a variable, it carries the required scope for an
operator, and the text of a keyword is not the keyword itself.
-/

namespace ScopeLint

theorem Naming.not_constant_of_isFaulty {ctx : Context} {m : Match}
    (h : isFaulty ctx m = .ok true) :
    Scope.carries (ctx.path m.span.start) Scope.constant = false := by
  obtain ⟨path, hpath, h⟩ := bind_eq_ok.1 h
  obtain ⟨-, rfl⟩ := Context.pathAt_of_ok hpath
  by_contra hconstant
  rw [Bool.not_eq_false] at hconstant
  rw [hconstant, Bool.or_true] at h
  cases h

theorem Naming.not_constant_of_mem {ctx : Context} {severity : Severity} {found : Findings}
    (h : findings ctx severity = .ok found) {x : Diagnostic} (hx : x ∈ found.diagnostics) :
    Scope.carries (ctx.path x.span.start) Scope.constant = false := by
  obtain ⟨m, -, hfault, rfl⟩ := Findings.exists_fault (judge_eq_reportIf ctx severity) h hx
  exact not_constant_of_isFaulty hfault

/-- Is the diagnostic one of the spacer's findings? -/
def Spacing.IsOf (ctx : Context) (severity : Severity) (spacer : Spacer) (x : Diagnostic) : Prop :=
  ∃ part, spacerFindings ctx severity spacer = .ok part ∧ x ∈ part.diagnostics

/-- A spacer with a required scope reports in that scope only. -/
theorem Spacing.carries_of_isOf {ctx : Context} {severity : Severity} {spacer : Spacer}
    {x : Diagnostic} (h : IsOf ctx severity spacer x) (hscope : spacer.requiredScope ≠ "") :
    Scope.carries (ctx.path x.span.start) spacer.requiredScope = true := by
  obtain ⟨part, hpart, hx⟩ := h
  obtain ⟨m, -, hfault, rfl⟩ :=
    Findings.exists_fault (judge_eq_reportIf ctx severity spacer) hpart hx
  obtain ⟨-, hrequired, -⟩ := (isFaulty_of_ok hfault).2.1 rfl
  exact hrequired hscope

/-- Every diagnostic of a pass but the notice starts in code.  One for a variable does not start in
a constant.  One for an operator is a finding of a spacer, and it starts in the required scope of
each spacer, if any, that it is a finding of.  One for a keyword is drawn over a text that differs
from the keyword that it names. -/
theorem findings_respect_scopes {l : Linter} {d : Document} {classifier : Classifier}
    {report : Report} (h : l.lint d classifier = .ok report) {x : Diagnostic}
    (hx : x ∈ report.diagnostics) (hnotice : x ≠ Linter.notice report.disabled) :
    Scope.isTypical (classifier.pathAt x.span.start) = true ∧
    (x.rule = Family.naming.id →
      Scope.carries (classifier.pathAt x.span.start) Scope.constant = false) ∧
    (x.rule = Family.spacing.id →
      (∃ spacer ∈ l.table.spacers,
        Spacing.IsOf ⟨d, classifier, l.table⟩ (l.severityOf .spacing) spacer x) ∧
      ∀ spacer ∈ l.table.spacers,
        Spacing.IsOf ⟨d, classifier, l.table⟩ (l.severityOf .spacing) spacer x →
        spacer.requiredScope ≠ "" →
          Scope.carries (classifier.pathAt x.span.start) spacer.requiredScope = true) ∧
    (x.rule = Family.casing.id →
      ∃ keyword ∈ l.table.keywords, x.message = Casing.message keyword.text ∧
        ∃ text, d.textIn x.span = .ok (some text) ∧ text ≠ keyword.text) := by
  refine ⟨?_, ?_, ?_, ?_⟩
  · rcases Linter.exists_of_mem_lint h hx with hx | ⟨f, -, found, hfound, hx⟩
    · exact absurd hx hnotice
    · exact (Family.typical_of_mem hfound hx).1
  · intro hrule
    obtain ⟨found, hfound, hx⟩ := Linter.findings_of_mem_lint h hx hrule
    exact Naming.not_constant_of_mem hfound hx
  · intro hrule
    obtain ⟨found, hfound, hx⟩ := Linter.findings_of_mem_lint h hx hrule
    obtain ⟨spacer, hspacer, hof⟩ := Findings.exists_of_mem_concat hfound hx
    exact ⟨⟨spacer, hspacer, hof⟩, fun _ _ hof => Spacing.carries_of_isOf hof⟩
  · intro hrule
    have hin := Linter.isIn_of_mem_lint h hx
    obtain ⟨keyword, hkeyword, m, hm, hdiffers, rfl⟩ := Linter.casing_of_mem_lint h hx hrule
    exact ⟨keyword, hkeyword, rfl, m.text,
      Pattern.textIn_of_mem_scan hm hin.start_mem hin.stop_mem, hdiffers⟩

/-- Commas of an argument list have to be surrounded by blanks. -/
def Linter.listing : Linter where
  table := { BuiltIn.table with spacers := [⟨⟨",", .char (.single ',')⟩, "arguments", ""⟩] }
  families := Family.all
  severities := []

def Document.listing : Document := .ofString "EOI,eoi,(\n$x $y"

/-- The first comma is that of an argument list, and the second variable is a constant. -/
def Classifier.listing : Classifier :=
  .ofRegions [Scope.root]
    [⟨0, 3, 4, [Scope.root, "meta.arguments.ase"]⟩, ⟨1, 3, 5, [Scope.root, "constant.ase"]⟩]

/-- One comma and one variable are reported, and the keyword in its other spelling alone. -/
theorem findings_respect_scopes_listing :
    ∃ report, Linter.listing.lint .listing .listing = .ok report ∧
      report.diagnostics.map (·.span) =
        [Span.onRow 0 0 3, Span.charAt ⟨0, 3⟩, Span.charAt ⟨0, 8⟩, Span.onRow 1 0 2] ∧
      ∀ x ∈ report.diagnostics,
        Scope.isTypical (Classifier.listing.pathAt x.span.start) = true ∧
        (x.rule = "notation" →
          Scope.carries (Classifier.listing.pathAt x.span.start) Scope.constant = false) ∧
        (x.rule = "spacing" →
          Scope.carries (Classifier.listing.pathAt x.span.start) "arguments" = true) ∧
        (x.rule = "casing" →
          ∃ keyword ∈ BuiltIn.table.keywords, x.message = Casing.message keyword.text ∧
            ∃ text, Document.listing.textIn x.span = .ok (some text) ∧ text ≠ keyword.text) := by
  have hlint : Linter.listing.lint .listing .listing =
      .ok ⟨[.ofMessage "casing" .warning (Casing.message "eoi") (Span.onRow 0 0 3),
          .ofMessage "spacing" .warning Spacing.message (Span.charAt ⟨0, 3⟩),
          .ofMessage "bracket-match" .error Brackets.message (Span.charAt ⟨0, 8⟩),
          .ofMessage "notation" .warning Naming.message (Span.onRow 1 0 2)], [],
        [⟨"casing", 0, 1, 2, 1⟩, ⟨"spacing", 0, 1, 2, 1⟩, ⟨"bracket-match", 0, 1, 1, 1⟩,
          ⟨"notation", 0, 1, 2, 1⟩]⟩ := by
    decide +kernel
  refine ⟨_, hlint, rfl, fun x hx => ?_⟩
  have hnotice : x ≠ Linter.notice [] := by
    rintro rfl
    exact absurd hx (by decide +kernel)
  obtain ⟨htypical, hconstant, hspacing, hcasing⟩ :=
    findings_respect_scopes hlint hx hnotice
  refine ⟨htypical, hconstant, fun hrule => ?_, hcasing⟩
  obtain ⟨⟨spacer, hspacer, hof⟩, hrequired⟩ := hspacing hrule
  obtain rfl := List.mem_singleton.1 hspacer
  exact hrequired _ hspacer hof (by decide)

end ScopeLint
