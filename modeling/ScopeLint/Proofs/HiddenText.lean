import ScopeLint.Proofs.BuiltIn
import ScopeLint.Proofs.SameCode

/-!
# Hidden text

Comments, strings and inline code are hidden from the linter: two texts that agree in their code and
in the shape of the rest have the same diagnostics.
-/

namespace ScopeLint

open Pattern (borders)

/-- A verdict that passes over hidden text and reads no offsets sees the matches in code only. -/
theorem filterMap_codeMatches {β : Type} (code : Position → Bool) {verdict : Match → Option β}
    {found : List Match} (hnot : ∀ m ∈ found, code m.span.start = false → verdict m = none)
    (hoffsets : ∀ m, verdict m.withoutOffsets = verdict m) :
    found.filterMap verdict = (codeMatches code found).filterMap verdict := by
  rw [codeMatches, List.filterMap_map, List.filterMap_filter]
  apply List.filterMap_congr
  intro m hm
  cases hcode : code m.span.start with
  | false => exact hnot m hm hcode
  | true => exact (hoffsets m).symm

theorem concat_diagnostics {α : Type} {entries : List α} {part₁ part₂ : α → Findings}
    (h : ∀ a ∈ entries, (part₁ a).diagnostics = (part₂ a).diagnostics) :
    (Findings.concat (entries.map part₁)).diagnostics =
      (Findings.concat (entries.map part₂)).diagnostics := by
  simp only [Findings.concat, List.flatMap_map]
  exact List.flatMap_congr h

/-- Is a place of the document code? -/
def Context.isCode (ctx : Context) (p : Position) : Bool := Scope.isTypical (ctx.path p)

/-- Two contexts with the same table, the same scopes and the same code. -/
structure Context.SeesSame (ctx₁ ctx₂ : Context) : Prop where
  table : ctx₁.table = ctx₂.table
  path : ∀ p, ctx₁.document.contains p = true → ctx₁.path p = ctx₂.path p
  code : SameCode ctx₁.isCode ctx₁.document ctx₂.document

namespace Context.SeesSame

variable {ctx₁ ctx₂ : Context}

/-- A verdict that asks for code first, and sees the same in code, comes to the same. -/
theorem filterMap_eq {β : Type} (h : SeesSame ctx₁ ctx₂) {p : Pattern} (ht : p.node.IsTame)
    (verdict : Context → Match → Option β)
    (hnot : ∀ ctx m, Scope.isTypical (ctx.path m.span.start) = false → verdict ctx m = none)
    (hoffsets : ∀ ctx m, verdict ctx m.withoutOffsets = verdict ctx m)
    (hsame : ∀ m, m.span.IsCodeIn ctx₁.document ctx₁.isCode → verdict ctx₁ m = verdict ctx₂ m) :
    (p.scan ctx₁.document).filterMap (verdict ctx₁) =
      (p.scan ctx₂.document).filterMap (verdict ctx₂) := by
  have hnot₂ : ∀ m ∈ p.scan ctx₂.document, ctx₁.isCode m.span.start = false →
      verdict ctx₂ m = none := by
    intro m hm hcode
    have hmem := ((Pattern.isPlainIn_of_tame ht ctx₂.document m hm).span hm).start_mem
    rw [← h.code.contains_eq] at hmem
    rw [isCode, h.path _ hmem] at hcode
    exact hnot ctx₂ m hcode
  obtain ⟨hscan, hcode⟩ := h.code.scan_eq ht
  rw [filterMap_codeMatches ctx₁.isCode (fun m _ => hnot ctx₁ m) (hoffsets ctx₁),
    filterMap_codeMatches ctx₁.isCode hnot₂ (hoffsets ctx₂), ← hscan]
  exact List.filterMap_congr (fun m hm => hsame m (hcode m hm))

theorem path_start (h : SeesSame ctx₁ ctx₂) {s : Span}
    (hs : s.IsCodeIn ctx₁.document ctx₁.isCode) : ctx₁.path s.start = ctx₂.path s.start := by
  obtain ⟨row, first, last, rfl, hlt, hlast, -⟩ := hs
  apply h.path
  obtain ⟨n, hn⟩ := Document.exists_length hlast
  have hle := (Document.contains_iff_column hn last).1 hlast
  exact (Document.contains_iff_column hn first).2 (by omega)

theorem casing_eq (h : SeesSame ctx₁ ctx₂) {keyword : Keyword}
    (ht : keyword.pattern.node.IsTame) (severity : Severity) :
    (keyword.pattern.scan ctx₁.document).filterMap (Casing.verdict ctx₁ severity keyword) =
      (keyword.pattern.scan ctx₂.document).filterMap (Casing.verdict ctx₂ severity keyword) := by
  refine h.filterMap_eq ht (fun ctx => Casing.verdict ctx severity keyword) ?_
    (fun _ _ => rfl) ?_
  · intro ctx m hcode
    rw [Casing.verdict, hcode]
    split <;> rfl
  · intro m hm
    rw [Casing.verdict, Casing.verdict, h.path_start hm]

/-- Names are judged by their text and the scope of their start, which are the same in both. -/
theorem naming_eq (h : SeesSame ctx₁ ctx₂) {p : Pattern} (ht : p.node.IsTame)
    (severity : Severity) :
    (p.scan ctx₁.document).filterMap (Naming.verdict ctx₁ severity) =
      (p.scan ctx₂.document).filterMap (Naming.verdict ctx₂ severity) := by
  refine h.filterMap_eq ht (fun ctx => Naming.verdict ctx severity) ?_
    (fun _ _ => rfl) ?_
  · intro ctx m hcode
    rw [Naming.verdict, hcode]
    rfl
  · intro m hm
    rw [Naming.verdict, Naming.verdict, h.path_start hm]

theorem brackets_eq (h : SeesSame ctx₁ ctx₂) {pair : Pattern} (ht : pair.node.IsTame) :
    Brackets.codeBrackets ctx₁ pair = Brackets.codeBrackets ctx₂ pair := by
  refine h.filterMap_eq ht Brackets.codeBracket? ?_ (fun _ _ => rfl) ?_
  · intro ctx m hcode
    rw [Brackets.codeBracket?, hcode]
    rfl
  · intro m hm
    rw [Brackets.codeBracket?, Brackets.codeBracket?, h.path_start hm]

theorem spaced_eq (h : SeesSame ctx₁ ctx₂) {p : Position}
    (hp : SameOrBorder ctx₁.document ctx₂.document p) (breakScope : String) :
    Spacing.spaced ctx₁ breakScope p = Spacing.spaced ctx₂ breakScope p := by
  have hblank : ∀ a ∈ borders, (a == ' ') = false ∧ (a == '\t') = false :=
    Pattern.forall_mem_of_all (by decide)
  rw [Spacing.spaced, Spacing.spaced]
  rcases hp with hp | ⟨⟨a, ha, hchar₁⟩, b, hb, hchar₂⟩
  · rw [← hp]
    cases hc : ctx₁.document.charAt? p with
    | none => rfl
    | some c => rw [h.path p (Document.contains_of_charAt? hc)]
  · rw [hchar₁, hchar₂, h.path p (Document.contains_of_charAt? hchar₁)]
    simp only [hblank a ha, hblank b hb]

/-- The neighbours of a match in code are the same in both, or not blank in either. -/
theorem spacing_eq (h : SeesSame ctx₁ ctx₂) {spacer : Spacer} (ht : spacer.pattern.node.IsTame)
    (severity : Severity) :
    (spacer.pattern.scan ctx₁.document).filterMap (Spacing.verdict ctx₁ severity spacer) =
      (spacer.pattern.scan ctx₂.document).filterMap (Spacing.verdict ctx₂ severity spacer) := by
  refine h.filterMap_eq ht (fun ctx => Spacing.verdict ctx severity spacer) ?_
    (fun _ _ => rfl) ?_
  · intro ctx m hcode
    rw [Spacing.verdict, hcode]
    rfl
  · intro m hm
    have hpath := h.path_start hm
    obtain ⟨row, first, last, hspan, hlt, hlast, hcode⟩ := hm
    obtain ⟨n, hn⟩ := Document.exists_length hlast
    have hle := (Document.contains_iff_column hn last).1 hlast
    have hbefore : Spacing.spacedBefore ctx₁ spacer.breakScope m.span.start =
        Spacing.spacedBefore ctx₂ spacer.breakScope m.span.start := by
      rw [hspan]
      cases first with
      | zero => rfl
      | succ first =>
        exact h.spaced_eq (h.code.left_of_code hn (by omega) (hcode _ (Nat.le_refl _) hlt)) _
    have hafter : Spacing.spaced ctx₁ spacer.breakScope m.span.stop =
        Spacing.spaced ctx₂ spacer.breakScope m.span.stop := by
      rw [hspan]
      cases last with
      | zero => omega
      | succ last =>
        exact h.spaced_eq (h.code.right_of_code hn hle (hcode _ (by omega) (Nat.lt_succ_self _))) _
    rw [Spacing.verdict, Spacing.verdict, hpath, hbefore, hafter]

/-- Each family reports the same in both contexts. -/
theorem family_eq (h : SeesSame ctx₁ ctx₂) (ht : ctx₁.table.IsTame) (f : Family)
    (severity : Severity) :
    (f.verdict ctx₁ severity).diagnostics = (f.verdict ctx₂ severity).diagnostics := by
  cases f with
  | casing =>
    simp only [Family.verdict, ← h.table]
    exact concat_diagnostics (fun k hk => h.casing_eq (ht.keywords k hk) severity)
  | spacing =>
    simp only [Family.verdict, ← h.table]
    exact concat_diagnostics (fun s hs => h.spacing_eq (ht.spacers s hs) severity)
  | brackets =>
    simp only [Family.verdict, ← h.table]
    refine concat_diagnostics (fun p hp => ?_)
    rw [Brackets.pairVerdict, Brackets.pairVerdict, h.brackets_eq (ht.brackets p hp), h.table]
  | naming =>
    simp only [Family.verdict, ← h.table]
    exact h.naming_eq ht.variablePattern severity

end Context.SeesSame

namespace Linter

/-- What an outcome reports. -/
def reported : Outcome → List Diagnostic
  | .skipped _ => []
  | .ran findings => findings.diagnostics

theorem flatMap_ranIn (outcomes : List (Family × Outcome)) :
    (ranIn outcomes).flatMap (·.2.diagnostics) = outcomes.flatMap (fun entry => reported entry.2) := by
  induction outcomes with
  | nil => rfl
  | cons entry outcomes ih =>
    obtain ⟨f, outcome⟩ := entry
    cases outcome with
    | skipped limit => exact ih
    | ran findings => exact congrArg (findings.diagnostics ++ ·) ih

/-- Reports of outcomes that skip the same families, and report the same for the others as far as
`keep` goes. -/
theorem reportOf_filter (keep : Diagnostic → Bool) {outcome₁ outcome₂ : Family → Outcome}
    (h : ∀ f, outcome₁ f = outcome₂ f ∨ ∃ findings₁ findings₂, outcome₁ f = .ran findings₁ ∧
      outcome₂ f = .ran findings₂ ∧
      findings₁.diagnostics.filter keep = findings₂.diagnostics.filter keep)
    (families : List Family) :
    (reportOf (families.map (fun f => (f, outcome₁ f)))).diagnostics.filter keep =
        (reportOf (families.map (fun f => (f, outcome₂ f)))).diagnostics.filter keep ∧
      (reportOf (families.map (fun f => (f, outcome₁ f)))).disabled =
        (reportOf (families.map (fun f => (f, outcome₂ f)))).disabled := by
  have hskipped : skippedIn (families.map (fun f => (f, outcome₁ f))) =
      skippedIn (families.map (fun f => (f, outcome₂ f))) := by
    rw [skippedIn, skippedIn, List.filterMap_map, List.filterMap_map]
    apply List.filterMap_congr
    intro f _
    rcases h f with hf | ⟨findings₁, findings₂, h₁, h₂, -⟩
    · simp only [Function.comp_apply, hf]
    · simp only [Function.comp_apply, h₁, h₂]
  have hran :
      ((ranIn (families.map (fun f => (f, outcome₁ f)))).flatMap (·.2.diagnostics)).filter keep =
        ((ranIn (families.map (fun f => (f, outcome₂ f)))).flatMap (·.2.diagnostics)).filter
          keep := by
    rw [flatMap_ranIn, flatMap_ranIn, List.flatMap_map, List.flatMap_map, List.filter_flatMap,
      List.filter_flatMap]
    apply List.flatMap_congr
    intro f _
    rcases h f with hf | ⟨findings₁, findings₂, h₁, h₂, hsame⟩
    · rw [hf]
    · rw [h₁, h₂]
      exact hsame
  refine ⟨?_, hskipped⟩
  simp only [reportOf, hskipped, List.filter_append, hran]

theorem reportOf_eq {outcome₁ outcome₂ : Family → Outcome}
    (h : ∀ f, outcome₁ f = outcome₂ f ∨ ∃ findings₁ findings₂, outcome₁ f = .ran findings₁ ∧
      outcome₂ f = .ran findings₂ ∧ findings₁.diagnostics = findings₂.diagnostics)
    (families : List Family) :
    (reportOf (families.map (fun f => (f, outcome₁ f)))).diagnostics =
        (reportOf (families.map (fun f => (f, outcome₂ f)))).diagnostics ∧
      (reportOf (families.map (fun f => (f, outcome₁ f)))).disabled =
        (reportOf (families.map (fun f => (f, outcome₂ f)))).disabled := by
  have hkept : ∀ f, outcome₁ f = outcome₂ f ∨ ∃ findings₁ findings₂, outcome₁ f = .ran findings₁ ∧
      outcome₂ f = .ran findings₂ ∧ findings₁.diagnostics.filter (fun _ => true) =
        findings₂.diagnostics.filter (fun _ => true) := by
    simp only [List.filter_true]
    exact h
  have hall := reportOf_filter (fun _ => true) hkept families
  rwa [List.filter_true, List.filter_true] at hall

/-- A pass reports the same in two documents with the same code. -/
theorem lint_same {l : Linter} (ht : l.table.IsTame) {d₁ d₂ : Document} {c₁ c₂ : Classifier}
    (h : Context.SeesSame ⟨d₁, c₁, l.table⟩ ⟨d₂, c₂, l.table⟩) :
    ∃ report₁ report₂, l.lint d₁ c₁ = .ok report₁ ∧ l.lint d₂ c₂ = .ok report₂ ∧
      report₁.diagnostics = report₂.diagnostics ∧ report₁.disabled = report₂.disabled := by
  refine ⟨_, _, lint_eq (ht.isPlainIn d₁) c₁, lint_eq (ht.isPlainIn d₂) c₂,
    reportOf_eq ?_ l.families⟩
  intro f
  have hlimit : l.exceeded? d₁ f = l.exceeded? d₂ f := by
    rw [exceeded?, exceeded?, h.code.lineCount_eq]
  rw [verdict, verdict, hlimit]
  cases l.exceeded? d₂ f with
  | some limit => exact .inl rfl
  | none => exact .inr ⟨_, _, rfl, rfl, h.family_eq ht f _⟩

end Linter

/-- Comments, strings and inline code do not matter: with the built-in table, two texts of the same
shape with the same scopes and the same characters in code have the same diagnostics. -/
theorem diagnostics_ignore_hidden_text (l : Linter) (htable : RuleTable.compile {} = .ok l.table)
    (text₁ text₂ : String)
    (hlength : ∀ row, (Document.ofString text₁).lineLength? row =
      (Document.ofString text₂).lineLength? row)
    (hpath : ∀ p, (Document.ofString text₁).contains p = true →
      (l.lexical (.ofString text₁)).pathAt p = (l.lexical (.ofString text₂)).pathAt p)
    (hcode : ∀ p, (Document.ofString text₁).contains p = true →
      Scope.isTypical ((l.lexical (.ofString text₁)).pathAt p) = true →
        (Document.ofString text₁).charAt? p = (Document.ofString text₂).charAt? p) :
    ∃ report₁ report₂, l.lintText text₁ = .ok report₁ ∧ l.lintText text₂ = .ok report₂ ∧
      report₁.diagnostics = report₂.diagnostics ∧ report₁.disabled = report₂.disabled := by
  have htame : l.table.IsTame := by
    rw [BuiltIn.compile_table] at htable
    rw [← Except.ok.inj htable]
    exact BuiltIn.isTame
  have hbordered := Lexical.classifier_bordered l.table.keywordTexts
  refine Linter.lint_same htame ⟨rfl, hpath, hlength, hcode, hbordered _, ?_⟩
  refine (hbordered _).congr (fun p hp => ?_)
  have hp₁ : (Document.ofString text₁).contains p = true := by
    rwa [Document.contains, hlength, ← Document.contains]
  exact congrArg Scope.isTypical (hpath p hp₁)

/-- Strings, comments and inline code with other contents, and another line end. -/
theorem diagnostics_ignore_quoted_operators :
    ∃ report₁ report₂,
      Linter.lintText ⟨BuiltIn.table, Family.all, []⟩ "$a=\"b=c\" // (EOI\n\x60x\x60 = eoi(" =
        .ok report₁ ∧
      Linter.lintText ⟨BuiltIn.table, Family.all, []⟩ "$a=\"(a]\" // =eoi\r\n\x60\"\x60 = eoi(" =
        .ok report₂ ∧
      report₁.diagnostics = report₂.diagnostics ∧ report₁.disabled = report₂.disabled := by
  refine diagnostics_ignore_hidden_text _ BuiltIn.compile_table _ _ ?_ ?_ ?_
  · intro row
    by_cases hrow : row < 2
    · revert row hrow
      decide +kernel
    · rw [Document.lineLength?_eq_none_iff.2 (Nat.le_of_not_lt hrow),
        Document.lineLength?_eq_none_iff.2 (Nat.le_of_not_lt hrow)]
  · intro p hp
    replace hp := Document.mem_positions hp
    revert p hp
    decide +kernel
  · intro p hp
    replace hp := Document.mem_positions hp
    revert p hp
    decide +kernel

end ScopeLint
