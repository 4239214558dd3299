import ScopeLint.Proofs.FixedNames
import ScopeLint.Proofs.HiddenText
import ScopeLint.Proofs.KeywordMatches
import ScopeLint.Proofs.Regions

/-!
# What the list of keywords changes

Keywords are looked for by the casing family, and the lexical classifier takes them for constants.
Apart from its constants the classifier does not depend on them: forgetting the constants gives what
it says without keywords, character by character and then for all lines.  Constants are code as
plain words are, they are no operators, and no variable starts within one.  So all other families
see the same text.  With the word edges of its pattern a keyword cannot cut a line end, whatever its
characters, so a pass with accepted keywords never fails.
-/

namespace ScopeLint

namespace Lexical

/-- The scope without constants. -/
def forget : Option Inner → Option Inner
  | some .constant => none
  | scope => scope

def Mode.forget : Mode → Mode
  | .inside region => .inside region
  | .held scope left next => .held (Lexical.forget scope) left next

def forgetStep (result : Option Inner × Mode) : Option Inner × Mode :=
  (forget result.1, result.2.forget)

theorem hold_forget (scope : Option Inner) (count : Nat) (next : Region) :
    (hold scope count next).forget = hold (forget scope) count next := by
  cases count <;> rfl

theorem wordScope_forget (keywords : List (List Char)) (word : List Char) :
    forget (wordScope keywords word) = none := by
  unfold wordScope
  split <;> rfl

/-- Keywords decide between constants and plain names only, so a step without them is the same step
without constants. -/
theorem codeStep_forget (keywords : List (List Char)) (c : Char) (rest : List Char) :
    forgetStep (codeStep keywords c rest) = codeStep [] c rest := by
  simp only [codeStep, apply_ite forgetStep]
  simp only [forgetStep, hold_forget, wordScope_forget]
  rfl

/-- So is the step of any mode. -/
theorem step_forget (keywords : List (List Char)) (mode : Mode) (c : Char) (rest : List Char) :
    forgetStep (step keywords mode c rest) = step [] mode.forget c rest := by
  cases mode with
  | held scope left next => exact congrArg (Prod.mk _) (hold_forget scope left next)
  | inside region =>
    cases region with
    | code => exact codeStep_forget keywords c rest
    | blockComment =>
      simp only [step, apply_ite forgetStep, Mode.forget]
      rfl
    | inlineCode => rfl

/-- Along a line the constants are forgotten one by one, and the region at its end is the same. -/
theorem scopesFrom_forget (keywords : List (List Char)) (mode : Mode) (line : List Char) :
    (scopesFrom keywords mode line).1.map forget = (scopesFrom [] mode.forget line).1 ∧
      (scopesFrom keywords mode line).2 = (scopesFrom [] mode.forget line).2 := by
  induction line generalizing mode with
  | nil => cases mode <;> exact ⟨rfl, rfl⟩
  | cons c rest ih =>
    obtain ⟨hscopes, hregion⟩ := ih (step keywords mode c rest).2
    have hstep := step_forget keywords mode c rest
    have hfirst : forget (step keywords mode c rest).1 = (step [] mode.forget c rest).1 :=
      congrArg Prod.fst hstep
    have hnext : (step keywords mode c rest).2.forget = (step [] mode.forget c rest).2 :=
      congrArg Prod.snd hstep
    rw [hnext] at hscopes hregion
    exact ⟨congrArg₂ List.cons hfirst hscopes, hregion⟩

/-- The classifier without keywords tells the same of every line, but for constants. -/
theorem scopesOf_forget (keywords : List (List Char)) (region : Region)
    (lines : List (List Char)) :
    (scopesOf keywords region lines).map (List.map forget) = scopesOf [] region lines := by
  induction lines generalizing region with
  | nil => rfl
  | cons line lines ih =>
    obtain ⟨hscopes, hregion⟩ := scopesFrom_forget keywords (.inside region) line
    have hlines := (ih (scopesFrom keywords (.inside region) line).2).trans
      (congrArg (fun next => scopesOf [] next lines) hregion)
    exact congrArg₂ List.cons hscopes hlines

theorem innerAt_forget (keywords : List String) (d : Document) (p : Position) :
    forget (innerAt (scopes keywords d) p) = innerAt (scopes [] d) p := by
  unfold scopes
  rw [innerAt_toArray, innerAt_toArray, List.map_nil, ← scopesOf_forget
    (keywords.map (fun k => Text.lowerChars k.toList)), List.getElem?_map]
  generalize (scopesOf _ _ _)[p.row]? = row
  cases row with
  | none => rfl
  | some row =>
    show forget (row[p.column]?.getD none) = ((row.map forget)[p.column]?).getD none
    rw [List.getElem?_map]
    cases row[p.column]? <;> rfl

/-- Keywords do not decide what is code. -/
theorem isTypical_forget (keywords : List String) (d : Document) (p : Position) :
    Scope.isTypical ((classifier keywords d).pathAt p) =
      Scope.isTypical ((classifier [] d).pathAt p) := by
  have hcode : ∀ scope, isCode (forget scope) = isCode scope := by
    intro scope
    rcases scope with _ | scope
    · rfl
    · cases scope <;> rfl
  show Scope.isTypical (pathAt _ p) = Scope.isTypical (pathAt _ p)
  rw [isTypical_pathAt, isTypical_pathAt, ← innerAt_forget keywords, hcode]

theorem carries_operator_forget (keywords : List String) (d : Document) (p : Position) :
    Scope.carries ((classifier keywords d).pathAt p) "aseOperator" =
      Scope.carries ((classifier [] d).pathAt p) "aseOperator" := by
  have hoperator : ∀ scope, forget scope = some .operator ↔ scope = some .operator := by
    intro scope
    rcases scope with _ | scope
    · rfl
    · cases scope <;> decide
  rw [Bool.eq_iff_iff]
  show Scope.carries (pathAt _ p) _ = true ↔ Scope.carries (pathAt _ p) _ = true
  rw [(carries_pathAt _ p).1, (carries_pathAt _ p).1, ← innerAt_forget keywords, hoperator]

end Lexical

/-! ## Tables with other keywords -/

open Pattern (Found matchOf)

/-- A table with any keywords and otherwise the entries of the built-in table. -/
structure RuleTable.IsReworded (t : RuleTable) : Prop where
  keywords : ∃ words : List String, t.keywords = words.map BuiltIn.keyword
  spacers : t.spacers = BuiltIn.table.spacers
  brackets : t.brackets = BuiltIn.table.brackets
  variablePattern : t.variablePattern = BuiltIn.table.variablePattern

def RuleTable.withoutKeywords (t : RuleTable) : RuleTable := { t with keywords := [] }

def Linter.withoutKeywords (l : Linter) : Linter := { l with table := l.table.withoutKeywords }

theorem RuleTable.isReworded_of_compile {keywords : List String} {strategy : BracketStrategy}
    {limits : Limits} {t : RuleTable} (h : compile { keywords, strategy, limits } = .ok t) :
    t.IsReworded := by
  obtain ⟨-, hspacers, hbrackets, hvariable, -, -⟩ := compile_eq_ok h
  obtain ⟨-, -, -, hbuiltIn, -, -⟩ := compile_eq_ok BuiltIn.compile_table
  exact ⟨⟨keywords, (keeps_of_compile h).keywords⟩,
    Except.ok.inj (hspacers.symm.trans BuiltIn.compile_spacers),
    Except.ok.inj (hbrackets.symm.trans BuiltIn.compile_brackets),
    Except.ok.inj (hvariable.symm.trans hbuiltIn)⟩

/-- A match of a keyword starts and ends in the document, whatever the keyword. -/
theorem BuiltIn.contains_of_mem_scan {word : String} {d : Document} {m : Match}
    (hm : m ∈ (BuiltIn.keyword word).pattern.scan d) :
    d.contains m.span.start = true ∧ d.contains m.span.stop = true ∧
      m.span.start ≤ m.span.stop := by
  obtain ⟨before, inside, behind, hcut, hspans, hstands⟩ := standsIn_of_mem_scan hm
  have hfirst : d.chars.toList = before ++ (inside ++ behind) := by
    rw [hcut, List.append_assoc]
  rw [hspans.span]
  refine ⟨?_, ?_, ?_⟩
  · exact (Document.contains_cut hfirst).2 hstands.start.not_cutsLineEnd
  · exact (Document.contains_cut hcut).2 hstands.stop.not_cutsLineEnd
  · rw [Position.after_append]
    exact Position.le_after _ _

namespace RuleTable.IsReworded

variable {t : RuleTable} (h : t.IsReworded)

include h

theorem isTame_withoutKeywords : t.withoutKeywords.IsTame where
  keywords _ hk := absurd hk List.not_mem_nil
  spacers := h.spacers ▸ BuiltIn.spacer_tame
  brackets := h.brackets ▸ BuiltIn.bracket_tame
  variablePattern := h.variablePattern ▸ BuiltIn.variable_tame

/-- No family fails. -/
theorem findings_eq (f : Family) (d : Document) (classifier : Classifier) (severity : Severity) :
    f.findings ⟨d, classifier, t⟩ severity = .ok (f.verdict ⟨d, classifier, t⟩ severity) := by
  have hplain : t.withoutKeywords.IsPlainIn d := h.isTame_withoutKeywords.isPlainIn d
  have hother : ∀ g : Family, g.findings ⟨d, classifier, t.withoutKeywords⟩ severity =
      .ok (g.verdict ⟨d, classifier, t.withoutKeywords⟩ severity) :=
    fun g => g.findings_eq hplain severity
  cases f with
  | casing =>
    obtain ⟨words, hwords⟩ := h.keywords
    have hkeyword : ∀ k ∈ t.keywords, Casing.keywordFindings ⟨d, classifier, t⟩ severity k =
        .ok (.judged (Casing.verdict ⟨d, classifier, t⟩ severity k) (k.pattern.scan d)) := by
      intro k hk
      rw [hwords] at hk
      obtain ⟨word, -, rfl⟩ := List.mem_map.1 hk
      apply Findings.ofMatches_eq
      intro m hm
      obtain ⟨hstart, hstop, hle⟩ := BuiltIn.contains_of_mem_scan hm
      exact Casing.judge_of_contains hstart hstop hle severity _
    rw [Family.findings, Casing.findings, mapM_eq_ok hkeyword]
    rfl
  | spacing => exact hother .spacing
  | brackets => exact hother .brackets
  | naming => exact hother .naming

end RuleTable.IsReworded

theorem BuiltIn.sigil_of_found {text : Array Char} {f : Found}
    (hf : f ∈ table.variablePattern.found text) : text[f.start]? = some '$' := by
  rw [found_variablePattern] at hf
  obtain ⟨i, -, hi⟩ := List.mem_filterMap.1 hf
  obtain ⟨rfl, -, hvariable⟩ := foundAt?_variable.1 hi
  exact hvariable.sigil

namespace Linter

variable {l : Linter}

theorem isTypical_withoutKeywords (l : Linter) (text : String) (p : Position) :
    Scope.isTypical ((l.withoutKeywords.contextOf text).path p) =
      Scope.isTypical ((l.contextOf text).path p) :=
  (Lexical.isTypical_forget l.table.keywordTexts (.ofString text) p).symm

/-- Without keywords the text is the same and so is what is code and what is an operator. -/
theorem isRespelled_withoutKeywords (l : Linter) (text : String) :
    Context.IsRespelled { l.contextOf text with table := l.table.withoutKeywords }
      (l.withoutKeywords.contextOf text) where
  table := rfl
  text := List.forall₂_same.2 fun _ _ => .inl rfl
  typical p := l.isTypical_withoutKeywords text p
  operator p _ _ := (Lexical.carries_operator_forget l.table.keywordTexts (.ofString text) p).symm

/-- All families but casing find what they find without keywords. -/
theorem verdict_withoutKeywords (h : l.table.IsReworded) {f : Family} (hf : f ≠ .casing)
    (text : String) (severity : Severity) :
    f.verdict (l.withoutKeywords.contextOf text) severity =
      f.verdict (l.contextOf text) severity := by
  obtain ⟨hspacing, hbrackets⟩ :=
    (l.isRespelled_withoutKeywords text).verdict_eq h.spacers h.brackets severity
  cases f with
  | casing => exact absurd rfl hf
  | spacing => exact hspacing
  | brackets => exact hbrackets
  | naming =>
    have hverdict : ∀ m ∈ l.table.variablePattern.scan (.ofString text),
        Naming.verdict (l.withoutKeywords.contextOf text) severity m =
          Naming.verdict (l.contextOf text) severity m := by
      intro m hm
      rw [h.variablePattern, Pattern.scan_eq_map] at hm
      obtain ⟨found, hfound, rfl⟩ := List.mem_map.1 hm
      have hsigil := BuiltIn.sigil_of_found hfound
      rw [Naming.verdict_of_sigil l.withoutKeywords hsigil, Naming.verdict_of_sigil l hsigil,
        isTypical_withoutKeywords]
    exact congrArg (Findings.mk _) (List.filterMap_congr hverdict)

/-- The outcome of a family other than casing does not depend on the keywords. -/
theorem verdict_eq_of_withoutKeywords {l₁ l₂ : Linter} (h₁ : l₁.table.IsReworded)
    (h₂ : l₂.table.IsReworded) (hsame : l₁.withoutKeywords = l₂.withoutKeywords) {f : Family}
    (hf : f ≠ .casing) (text : String) :
    l₁.verdict (.ofString text) (l₁.lexical (.ofString text)) f =
      l₂.verdict (.ofString text) (l₂.lexical (.ofString text)) f := by
  have hless : ∀ l : Linter, l.table.IsReworded →
      l.verdict (.ofString text) (l.lexical (.ofString text)) f =
        l.withoutKeywords.verdict (.ofString text)
          (l.withoutKeywords.lexical (.ofString text)) f := by
    intro l h
    have hfound := verdict_withoutKeywords h hf text (l.severityOf f)
    have hexceeded : l.withoutKeywords.exceeded? (.ofString text) f =
        l.exceeded? (.ofString text) f := rfl
    rw [verdict, verdict, hexceeded]
    cases l.exceeded? (.ofString text) f with
    | some limit => rfl
    | none => exact congrArg Outcome.ran hfound.symm
  rw [hless l₁ h₁, hless l₂ h₂, hsame]

/-- Whether casing is skipped does not depend on the keywords, and what it reports is left out. -/
theorem casing_verdict_cases {l₁ l₂ : Linter} (h₁ : l₁.table.IsReworded)
    (h₂ : l₂.table.IsReworded) (hsame : l₁.withoutKeywords = l₂.withoutKeywords) (text : String) :
    l₁.verdict (.ofString text) (l₁.lexical (.ofString text)) .casing =
        l₂.verdict (.ofString text) (l₂.lexical (.ofString text)) .casing ∨
      ∃ found₁ found₂,
        l₁.verdict (.ofString text) (l₁.lexical (.ofString text)) .casing = .ran found₁ ∧
        l₂.verdict (.ofString text) (l₂.lexical (.ofString text)) .casing = .ran found₂ ∧
        found₁.diagnostics.filter (fun x => x.rule != Family.casing.id) =
          found₂.diagnostics.filter (fun x => x.rule != Family.casing.id) := by
  have hexceeded : l₁.exceeded? (.ofString text) .casing =
      l₂.exceeded? (.ofString text) .casing := by
    show l₁.withoutKeywords.exceeded? _ _ = l₂.withoutKeywords.exceeded? _ _
    rw [hsame]
  have hnone : ∀ l : Linter, l.table.IsReworded →
      (Family.casing.verdict (l.contextOf text) (l.severityOf .casing)).diagnostics.filter
        (fun x => x.rule != Family.casing.id) = [] := by
    intro l h
    rw [List.filter_eq_nil_iff]
    intro x hx hrule
    have hfound := h.findings_eq .casing (.ofString text) (l.lexical (.ofString text))
      (l.severityOf .casing)
    exact bne_iff_ne.1 hrule (Family.rule_severity_of_mem hfound hx).1
  rw [verdict, verdict, hexceeded]
  cases l₂.exceeded? (.ofString text) .casing with
  | some limit => exact .inl rfl
  | none => exact .inr ⟨_, _, rfl, rfl, (hnone l₁ h₁).trans (hnone l₂ h₂).symm⟩

/-- Two tables that differ in their keywords only report the same, but for casing. -/
theorem lintText_reworded {l₁ l₂ : Linter} (h₁ : l₁.table.IsReworded) (h₂ : l₂.table.IsReworded)
    (hsame : l₁.withoutKeywords = l₂.withoutKeywords) (text : String) :
    ∃ r₁ r₂, l₁.lintText text = .ok r₁ ∧ l₂.lintText text = .ok r₂ ∧
      r₁.diagnostics.filter (fun x => x.rule != Family.casing.id) =
        r₂.diagnostics.filter (fun x => x.rule != Family.casing.id) ∧
      (Family.casing ∉ l₁.families → r₁ = r₂) := by
  have hfamilies : l₂.families = l₁.families := (congrArg Linter.families hsame).symm
  refine ⟨_, _, lint_of_findings fun f => h₁.findings_eq f _ _ _,
    lint_of_findings fun f => h₂.findings_eq f _ _ _, ?_, fun hcasing => ?_⟩
  · rw [hfamilies]
    refine (reportOf_filter _ (fun f => ?_) l₁.families).1
    by_cases hf : f = .casing
    · subst hf
      exact casing_verdict_cases h₁ h₂ hsame text
    · exact .inl (verdict_eq_of_withoutKeywords h₁ h₂ hsame hf text)
  · rw [hfamilies]
    refine congrArg reportOf (List.map_congr_left fun f hf => congrArg (Prod.mk f) ?_)
    have hother : f ≠ .casing := fun heq => hcasing (heq ▸ hf)
    exact verdict_eq_of_withoutKeywords h₁ h₂ hsame hother text

end Linter

theorem Report.ofFamily_eq_filter (r : Report) {f : Family} (hf : f ≠ .casing) :
    r.ofFamily f = (r.diagnostics.filter (fun x => x.rule != Family.casing.id)).filter
      (fun x => x.rule == f.id) := by
  rw [ofFamily, List.filter_filter]
  apply List.filter_congr
  intro x _
  rw [Bool.eq_iff_iff, Bool.and_eq_true, beq_iff_eq, bne_iff_ne]
  refine ⟨fun hx => ⟨hx, fun hcasing => hf ?_⟩, fun hx => hx.1⟩
  exact Family.id_injective (hx.symm.trans hcasing)

/-- The list of keywords matters to casing only.  With two accepted lists, the table otherwise
built-in, and any choice of families, severities, strategy and limits, every text is linted without
failure, and but for the casing diagnostics the same is reported in the same order. -/
theorem keywords_matter_to_casing_only {keywords₁ keywords₂ : List String}
    {strategy : BracketStrategy} {limits : Limits} {t₁ t₂ : RuleTable}
    (h₁ : RuleTable.compile { keywords := keywords₁, strategy, limits } = .ok t₁)
    (h₂ : RuleTable.compile { keywords := keywords₂, strategy, limits } = .ok t₂)
    (families : List Family) (severities : List (Family × Severity)) (text : String) :
    ∃ r₁ r₂, Linter.lintText ⟨t₁, families, severities⟩ text = .ok r₁ ∧
      Linter.lintText ⟨t₂, families, severities⟩ text = .ok r₂ ∧
      r₁.diagnostics.filter (fun x => x.rule != Family.casing.id) =
        r₂.diagnostics.filter (fun x => x.rule != Family.casing.id) ∧
      (∀ f, f ≠ .casing → r₁.ofFamily f = r₂.ofFamily f) ∧
      (.casing ∉ families → r₁ = r₂) := by
  have hwords₁ := RuleTable.isReworded_of_compile h₁
  have hwords₂ := RuleTable.isReworded_of_compile h₂
  have hkeeps₁ := RuleTable.keeps_of_compile h₁
  have hkeeps₂ := RuleTable.keeps_of_compile h₂
  have hlimits : t₁.limits = t₂.limits := hkeeps₁.limits.trans hkeeps₂.limits.symm
  have hstrategy : t₁.strategy = t₂.strategy := hkeeps₁.strategy.trans hkeeps₂.strategy.symm
  have hsame : t₁.withoutKeywords = t₂.withoutKeywords := by
    unfold RuleTable.withoutKeywords
    rw [hwords₁.spacers, hwords₂.spacers, hwords₁.brackets, hwords₂.brackets,
      hwords₁.variablePattern, hwords₂.variablePattern, hstrategy, hlimits]
  have hlinters : (Linter.mk t₁ families severities).withoutKeywords =
      (Linter.mk t₂ families severities).withoutKeywords :=
    congrArg (fun t => Linter.mk t families severities) hsame
  obtain ⟨r₁, r₂, hlint₁, hlint₂, hkept, hwhole⟩ :=
    Linter.lintText_reworded hwords₁ hwords₂ hlinters text
  refine ⟨r₁, r₂, hlint₁, hlint₂, hkept, fun f hf => ?_, hwhole⟩
  rw [r₁.ofFamily_eq_filter hf, r₂.ofFamily_eq_filter hf, hkept]

/-- Next to an operator and behind a dollar sign, `b` is a keyword or not. -/
theorem keywords_matter_to_casing_only_neighbour :
    ∃ t₁ t₂ r₁ r₂, RuleTable.compile { keywords := ["b"] } = .ok t₁ ∧
      RuleTable.compile { keywords := [] } = .ok t₂ ∧
      Linter.lintText { table := t₁ } "b+$b" = .ok r₁ ∧
      Linter.lintText { table := t₂ } "b+$b" = .ok r₂ ∧
      ∀ f, f ≠ .casing → r₁.ofFamily f = r₂.ofFamily f := by
  have hsound := RuleTable.exists_compile_iff.1 ⟨_, BuiltIn.compile_table⟩
  have hword : ∀ keyword ∈ ["b"],
      (∃ c ∈ keyword.toList, Text.isBlank c = false) ∧ ¬ RuleTable.IsHeavy keyword := by
    intro keyword hkeyword
    obtain rfl := List.mem_singleton.1 hkeyword
    exact ⟨⟨'b', by decide, by decide⟩, fun hheavy => absurd hheavy.lt_length (by decide)⟩
  have hsound₁ : TableSpec.IsSound { keywords := ["b"] } :=
    ⟨hword, hsound.spacers, hsound.brackets, hsound.variablePattern⟩
  have hsound₂ : TableSpec.IsSound { keywords := [] } :=
    ⟨fun _ h => absurd h List.not_mem_nil, hsound.spacers, hsound.brackets, hsound.variablePattern⟩
  obtain ⟨t₁, h₁⟩ := RuleTable.exists_compile_iff.2 hsound₁
  obtain ⟨t₂, h₂⟩ := RuleTable.exists_compile_iff.2 hsound₂
  obtain ⟨r₁, r₂, hlint₁, hlint₂, -, hsame, -⟩ :=
    keywords_matter_to_casing_only h₁ h₂ Family.all [] "b+$b"
  exact ⟨t₁, t₂, r₁, r₂, h₁, h₂, hlint₁, hlint₂, hsame⟩

end ScopeLint
