import ScopeLint.Proofs.HiddenText

/-!
# Line ends

A carriage return before a line feed is no character of any line, but it stands in the text that
patterns are searched in.  For tame patterns it makes no difference: two documents with the same
lines have the same report, down to the number of matches, whichever of their lines end with a
carriage return.
-/

namespace ScopeLint

/-! ## The same lines -/

/-- The text with a carriage return before every line feed. -/
def Text.addReturns (cs : List Char) : List Char :=
  cs.flatMap (fun c => if c = '\n' then ['\r', '\n'] else [c])

theorem Text.addReturns_line {line : List Char} (h : '\n' ∉ line) : addReturns line = line := by
  induction line with
  | nil => rfl
  | cons c line ih =>
    obtain ⟨hc, hline⟩ : ¬ '\n' = c ∧ '\n' ∉ line := by simpa using h
    have hhead : addReturns (c :: line) = c :: addReturns line := by
      rw [addReturns, List.flatMap_cons, if_neg (fun heq => hc heq.symm)]
      rfl
    rw [hhead, ih hline]

theorem Text.addReturns_append (cs ds : List Char) :
    addReturns (cs ++ ds) = addReturns cs ++ addReturns ds := List.flatMap_append

theorem dropReturn_snoc (line : List Char) : dropReturn (line ++ ['\r']) = line := by
  rw [dropReturn, if_pos (by simp), List.dropLast_concat]

theorem dropReturn_of_notMem {line : List Char} (h : '\r' ∉ line) : dropReturn line = line := by
  rw [dropReturn, if_neg (fun hlast => h (List.mem_of_getLast? hlast))]

/-- The added carriage returns belong to line ends. -/
theorem Text.lines_addReturns {cs : List Char} (h : '\r' ∉ cs) :
    (splitAt '\n' (addReturns cs)).map dropReturn = (splitAt '\n' cs).map dropReturn := by
  induction hn : cs.length using Nat.strong_induction_on generalizing cs with
  | h n ih =>
    obtain ⟨line, hline, rfl | ⟨rest, rfl⟩⟩ := exists_line '\n' cs
    · rw [addReturns_line hline]
    · obtain ⟨hreturn, hrest⟩ : '\r' ∉ line ∧ '\r' ∉ rest := by simpa using h
      have hadded : addReturns (line ++ '\n' :: rest) =
          line ++ ['\r'] ++ '\n' :: addReturns rest := by
        rw [addReturns_append, addReturns_line hline, List.append_assoc]
        rfl
      have hfeed : '\n' ∉ line ++ ['\r'] := by simpa using hline
      have hlength : rest.length < n := by
        rw [← hn, List.length_append, List.length_cons]
        omega
      rw [hadded, splitAt_line_sep hfeed, splitAt_line_sep hline, List.map_cons, List.map_cons,
        dropReturn_snoc, dropReturn_of_notMem hreturn, ih rest.length hlength hrest rfl]

/-- The document with a carriage return in every line end that has a line feed. -/
def Document.withReturns (text : String) : Document :=
  .ofString (String.ofList (Text.addReturns text.toList))

/-- A text without carriage returns keeps its lines when they are added to its line ends. -/
theorem Document.lines_withReturns {text : String} (h : '\r' ∉ text.toList) :
    (Document.withReturns text).lines = (Document.ofString text).lines := by
  have hlines := congrArg (List.map List.toArray) (Text.lines_addReturns h)
  simp only [List.map_map] at hlines
  rw [lines_eq, lines_eq, linesOf, linesOf]
  simp only [withReturns, ofString, String.toList_ofList]
  exact congrArg List.toArray hlines

/-! ## The same reports -/

section SameLines

variable {d₁ d₂ : Document}

theorem Document.charAt?_congr (h : d₁.lines = d₂.lines) (p : Position) :
    d₁.charAt? p = d₂.charAt? p := by
  rw [charAt?, charAt?, line?, line?, h]

/-- Documents with the same lines have the same characters, code or not. -/
theorem SameCode.of_lines (h : d₁.lines = d₂.lines) : SameCode (fun _ => true) d₁ d₂ where
  length row := by
    rw [Document.lineLength?, Document.lineLength?, Document.line?, Document.line?, h]
  char p _ _ := Document.charAt?_congr h p
  bordered₁ _ _ _ _ _ _ := meets_of_eq rfl
  bordered₂ _ _ _ _ _ _ := meets_of_eq rfl

theorem codeMatches_all (found : List Match) :
    codeMatches (fun _ => true) found = found.map Match.withoutOffsets :=
  codeMatches_code (fun _ _ => rfl)

/-- The matches are the same but for their byte offsets. -/
theorem Pattern.scan_sameLines (h : d₁.lines = d₂.lines) {p : Pattern} (ht : p.node.IsTame) :
    (p.scan d₁).map Match.withoutOffsets = (p.scan d₂).map Match.withoutOffsets := by
  have hscan := ((SameCode.of_lines h).scan_eq ht).1
  rwa [codeMatches_all, codeMatches_all] at hscan

/-- What is made of matches without regard to their byte offsets. -/
theorem filterMap_sameLines {β : Type} (h : d₁.lines = d₂.lines) {p : Pattern}
    (ht : p.node.IsTame) (verdict : Match → Option β)
    (hoffsets : ∀ m, verdict m.withoutOffsets = verdict m) :
    (p.scan d₁).length = (p.scan d₂).length ∧
      (p.scan d₁).filterMap verdict = (p.scan d₂).filterMap verdict := by
  have hscan := Pattern.scan_sameLines h ht
  have hforget : ∀ found : List Match,
      found.filterMap verdict = (found.map Match.withoutOffsets).filterMap verdict := by
    intro found
    rw [List.filterMap_map]
    exact List.filterMap_congr (fun m _ => (hoffsets m).symm)
  refine ⟨?_, ?_⟩
  · have hlength := congrArg List.length hscan
    rwa [List.length_map, List.length_map] at hlength
  · rw [hforget (p.scan d₁), hforget (p.scan d₂), hscan]

theorem Findings.judged_sameLines (h : d₁.lines = d₂.lines) {p : Pattern} (ht : p.node.IsTame)
    {verdict : Match → Option Diagnostic}
    (hoffsets : ∀ m, verdict m.withoutOffsets = verdict m) :
    judged verdict (p.scan d₁) = judged verdict (p.scan d₂) := by
  obtain ⟨hlength, hfound⟩ := filterMap_sameLines h ht verdict hoffsets
  rw [judged, judged, hlength, hfound]

theorem Spacing.verdict_sameLines (h : d₁.lines = d₂.lines) (classifier : Classifier)
    (table : RuleTable) (severity : Severity) (spacer : Spacer) :
    verdict ⟨d₁, classifier, table⟩ severity spacer =
      verdict ⟨d₂, classifier, table⟩ severity spacer := by
  have hspaced : spaced ⟨d₁, classifier, table⟩ = spaced ⟨d₂, classifier, table⟩ := by
    funext breakScope p
    rw [spaced, spaced, Document.charAt?_congr h]
    rfl
  funext m
  simp only [verdict, spacedBefore, hspaced]
  rfl

theorem Brackets.pairVerdict_sameLines (h : d₁.lines = d₂.lines) (classifier : Classifier)
    (table : RuleTable) (severity : Severity) {pair : Pattern} (ht : pair.node.IsTame) :
    pairVerdict ⟨d₁, classifier, table⟩ severity pair =
      pairVerdict ⟨d₂, classifier, table⟩ severity pair := by
  obtain ⟨hlength, hbrackets⟩ :=
    filterMap_sameLines h ht (codeBracket? ⟨d₁, classifier, table⟩) (fun _ => rfl)
  have hcode : codeBrackets ⟨d₁, classifier, table⟩ pair =
      codeBrackets ⟨d₂, classifier, table⟩ pair := hbrackets
  rw [pairVerdict, pairVerdict, hcode, hlength]

/-- Each family finds the same in documents with the same lines. -/
theorem Family.verdict_sameLines (h : d₁.lines = d₂.lines) (classifier : Classifier)
    {table : RuleTable} (ht : table.IsTame) (f : Family) (severity : Severity) :
    f.verdict ⟨d₁, classifier, table⟩ severity = f.verdict ⟨d₂, classifier, table⟩ severity := by
  cases f with
  | casing =>
    refine congrArg Findings.concat (List.map_congr_left fun keyword hk => ?_)
    exact Findings.judged_sameLines h (ht.keywords keyword hk) (fun _ => rfl)
  | spacing =>
    refine congrArg Findings.concat (List.map_congr_left fun spacer hs => ?_)
    rw [Spacing.verdict_sameLines h]
    exact Findings.judged_sameLines h (ht.spacers spacer hs) (fun _ => rfl)
  | brackets =>
    refine congrArg Findings.concat (List.map_congr_left fun pair hp => ?_)
    exact Brackets.pairVerdict_sameLines h classifier table severity (ht.brackets pair hp)
  | naming => exact Findings.judged_sameLines h ht.variablePattern (fun _ => rfl)

/-- A pass depends on the lines of a document only. -/
theorem Linter.lint_sameLines {l : Linter} (ht : l.table.IsTame) (h : d₁.lines = d₂.lines)
    (classifier : Classifier) :
    ∃ report, l.lint d₁ classifier = .ok report ∧ l.lint d₂ classifier = .ok report := by
  have hverdict : l.verdict d₁ classifier = l.verdict d₂ classifier := by
    funext f
    have hlimit : l.exceeded? d₁ f = l.exceeded? d₂ f := by
      rw [exceeded?, exceeded?, Document.lineCount, Document.lineCount, h]
    rw [verdict, verdict, hlimit, Family.verdict_sameLines h classifier ht]
  refine ⟨_, lint_eq (ht.isPlainIn d₁) classifier, ?_⟩
  rw [lint_eq (ht.isPlainIn d₂) classifier, hverdict]

theorem Linter.lexical_sameLines (l : Linter) (h : d₁.lines = d₂.lines) :
    l.lexical d₁ = l.lexical d₂ := by
  rw [lexical, lexical, Lexical.classifier, Lexical.classifier, Lexical.scopes, Lexical.scopes, h]

end SameLines

/-- Line ends do not matter: with the built-in table, any strategy and any limits, a text without
carriage returns and the text with one before every line feed have the same report, with any
classifier, and the lexical classifier itself is the same for both. -/
theorem report_ignores_line_ends (l : Linter) (strategy : BracketStrategy) (limits : Limits)
    (htable : RuleTable.compile { strategy, limits } = .ok l.table) (text : String)
    (hreturn : '\r' ∉ text.toList) :
    (∀ classifier, ∃ report, l.lint (.ofString text) classifier = .ok report ∧
      l.lint (.withReturns text) classifier = .ok report) ∧
    (∀ p, (l.lexical (.ofString text)).pathAt p = (l.lexical (.withReturns text)).pathAt p) ∧
    ∃ report, l.lintText text = .ok report ∧
      l.lintText (String.ofList (Text.addReturns text.toList)) = .ok report := by
  have htame := BuiltIn.isTame_of_compile htable
  have hlines := (Document.lines_withReturns hreturn).symm
  have hlexical := l.lexical_sameLines hlines
  have hlint := Linter.lint_sameLines htame hlines
  refine ⟨hlint, fun p => by rw [hlexical], ?_⟩
  obtain ⟨report, h₁, h₂⟩ := hlint (l.lexical (.ofString text))
  refine ⟨report, h₁, ?_⟩
  rw [hlexical] at h₂
  exact h₂

/-- A string that its line end closes, a keyword and an operator next to line ends, and a bracket
that the strict strategy pairs over two rows. -/
theorem report_ignores_line_ends_strict :
    ∃ report,
      Linter.lintText ⟨{ BuiltIn.table with strategy := .strict, limits := { naming := some 2 } },
        [.casing, .spacing, .brackets, .naming], [(.spacing, .info)]⟩
          "$x=(\n EOI)\n\"+" = .ok report ∧
      Linter.lintText ⟨{ BuiltIn.table with strategy := .strict, limits := { naming := some 2 } },
        [.casing, .spacing, .brackets, .naming], [(.spacing, .info)]⟩
          "$x=(\r\n EOI)\r\n\"+" = .ok report ∧
      report.diagnostics.map (·.rule) = ["disabled-rules", "casing", "spacing"] := by
  obtain ⟨-, -, report, h₁, h₂⟩ := report_ignores_line_ends
    ⟨{ BuiltIn.table with strategy := .strict, limits := { naming := some 2 } },
      [.casing, .spacing, .brackets, .naming], [(.spacing, .info)]⟩ .strict { naming := some 2 }
    (BuiltIn.compile_variant _ _) "$x=(\n EOI)\n\"+" (by decide)
  have hrules : (Linter.lintText
      ⟨{ BuiltIn.table with strategy := .strict, limits := { naming := some 2 } },
        [.casing, .spacing, .brackets, .naming], [(.spacing, .info)]⟩
      "$x=(\n EOI)\n\"+").map (fun report => report.diagnostics.map (·.rule)) =
      .ok ["disabled-rules", "casing", "spacing"] := by
    decide +kernel
  rw [h₁] at hrules
  exact ⟨report, h₁, h₂, Except.ok.inj hrules⟩

end ScopeLint
