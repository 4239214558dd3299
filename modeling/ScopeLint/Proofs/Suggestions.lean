import ScopeLint.Proofs.Acceptance
import ScopeLint.Proofs.Extraction
import ScopeLint.Proofs.RootScope

/-!
# Suggestions of casing diagnostics

The suggestion of a diagnostic is read back from its message: it is what follows the last marker,
without outer blanks.  For a misspelled keyword the message ends with the marker and the keyword, so
the keyword comes back whole unless it has outer blanks or holds the marker itself.  A table may
list such keywords, and what is suggested for them is less than the keyword.
-/

namespace ScopeLint

/-! ## The message of a keyword -/

namespace Casing

/-- The last marker of the message is the one in front of the keyword, unless the keyword holds
one. -/
theorem afterLast_message (keyword : String) :
    Text.afterLast suggestionMarker.toList (message keyword).toList =
      some ((Text.afterLast suggestionMarker.toList keyword.toList).getD keyword.toList) := by
  obtain ⟨c, tail, hmarker, hc⟩ := suggestionMarker_toList
  have hbehind : ∀ lead marker : String, marker.toList = c :: tail →
      Text.afterLast marker.toList (lead ++ marker ++ keyword).toList =
        some ((Text.afterLast marker.toList keyword.toList).getD keyword.toList) := by
    intro lead marker hmarker
    rw [String.toList_append, String.toList_append, List.append_assoc, hmarker]
    exact Text.afterLast_marker hc _ _
  exact hbehind _ suggestionMarker hmarker

/-- Can the keyword be read back from its message: has it no outer blanks and no marker? -/
def IsCarried (keyword : String) : Prop :=
  ¬ suggestionMarker.toList <:+: keyword.toList ∧ Text.trim keyword = keyword

/-- A keyword that holds the marker makes its message suggest what the keyword itself suggests. -/
theorem suggestionIn_of_marker {keyword : String}
    (h : suggestionMarker.toList <:+: keyword.toList) :
    suggestionIn (message keyword) = suggestionIn keyword := by
  cases hlast : Text.afterLast suggestionMarker.toList keyword.toList with
  | none => exact absurd h (Text.afterLast_eq_none_iff.1 hlast)
  | some rest =>
    have hmessage := afterLast_message keyword
    rw [hlast, Option.getD_some] at hmessage
    rw [suggestionIn_eq hmessage, suggestionIn_eq hlast]

theorem suggestionIn_of_no_marker {keyword : String}
    (h : ¬ suggestionMarker.toList <:+: keyword.toList)
    (hblank : Text.trimChars keyword.toList ≠ []) :
    suggestionIn (message keyword) = some (Text.trim keyword) := by
  have hmessage := afterLast_message keyword
  rw [Text.afterLast_eq_none_iff.2 h, Option.getD_none] at hmessage
  rw [suggestionIn_eq hmessage, if_neg hblank]
  rfl

/-- The message of a keyword suggests the keyword exactly where it can be read back. -/
theorem suggestionIn_message_iff {keyword : String} (hblank : Text.trimChars keyword.toList ≠ []) :
    suggestionIn (message keyword) = some keyword ↔ IsCarried keyword := by
  by_cases h : suggestionMarker.toList <:+: keyword.toList
  · rw [suggestionIn_of_marker h]
    exact iff_of_false (suggestionIn_ne_self keyword) (fun hcarried => hcarried.1 h)
  · rw [suggestionIn_of_no_marker h hblank, Option.some_inj, IsCarried, and_iff_right h]

end Casing

/-! ## Keywords of a compiled table -/

namespace RuleTable

/-- A compiled keyword keeps its text, which is not blank. -/
theorem keyword_of_compile {spec : TableSpec} {t : RuleTable} (h : compile spec = .ok t)
    {keyword : Keyword} (hk : keyword ∈ t.keywords) :
    keyword.text ∈ spec.keywords ∧ Text.trimChars keyword.text.toList ≠ [] := by
  rw [(keeps_of_compile h).keywords] at hk
  obtain ⟨text, htext, rfl⟩ := List.mem_map.1 hk
  refine ⟨htext, fun hblank => ?_⟩
  obtain ⟨⟨c, hc, hvisible⟩, -⟩ := (exists_compile_iff.1 ⟨t, h⟩).keywords text htext
  have hall := List.all_eq_true.1 (Text.trimChars_eq_nil_iff.1 hblank) c hc
  rw [hvisible] at hall
  cases hall

end RuleTable

/-! ## Casing diagnostics of a pass -/

/-- Where a casing diagnostic of a pass comes from: a match of a keyword that is spelled
otherwise. -/
theorem Linter.casing_of_mem_lint {l : Linter} {d : Document} {classifier : Classifier}
    {report : Report} (h : l.lint d classifier = .ok report) {x : Diagnostic}
    (hx : x ∈ report.diagnostics) (hrule : x.rule = Family.casing.id) :
    ∃ keyword ∈ l.table.keywords, ∃ m ∈ keyword.pattern.scan d, m.text ≠ keyword.text ∧
      x = .ofMessage Family.casing.id (l.severityOf .casing) (Casing.message keyword.text)
        m.span := by
  obtain ⟨found, hfound, hx⟩ := findings_of_mem_lint h hx hrule
  obtain ⟨keyword, hkeyword, part, hpart, hx⟩ := Findings.exists_of_mem_concat hfound hx
  obtain ⟨m, hm, hfault, hx⟩ :=
    Findings.exists_fault (Casing.judge_eq_reportIf _ _ keyword) hpart hx
  refine ⟨keyword, hkeyword, m, hm, ?_, hx⟩
  intro heq
  rw [Casing.isFaulty, if_pos heq] at hfault
  cases hfault

/-- Every casing diagnostic of a pass with an accepted table is drawn over a text that differs from
the keyword it names.  It suggests the keyword, and the keyword then takes the place of that text,
exactly where the keyword has no outer blanks and does not hold the marker of suggestions.
Otherwise it suggests the keyword without its outer blanks, or what the keyword itself suggests. -/
theorem casing_suggests_keyword_iff {spec : TableSpec} {l : Linter} {d : Document}
    {classifier : Classifier} {report : Report} (htable : RuleTable.compile spec = .ok l.table)
    (h : l.lint d classifier = .ok report) {x : Diagnostic} (hx : x ∈ report.diagnostics)
    (hrule : x.rule = Family.casing.id) :
    ∃ keyword ∈ spec.keywords, ∃ before inside behind : List Char,
      d.chars.toList = before ++ inside ++ behind ∧
      x.span = ⟨Position.origin.after before, Position.origin.after (before ++ inside)⟩ ∧
      inside ≠ keyword.toList ∧ x.message = Casing.message keyword ∧
      (x.suggestion = some keyword ↔ Casing.IsCarried keyword) ∧
      (before ++ (x.suggestion.getD "").toList ++ behind = before ++ keyword.toList ++ behind ↔
        Casing.IsCarried keyword) ∧
      (suggestionMarker.toList <:+: keyword.toList → x.suggestion = suggestionIn keyword) ∧
      (¬ suggestionMarker.toList <:+: keyword.toList →
        x.suggestion = some (Text.trim keyword)) := by
  obtain ⟨keyword, hkeyword, m, hm, hdiffers, hx⟩ := Linter.casing_of_mem_lint h hx hrule
  obtain ⟨hlisted, hblank⟩ := RuleTable.keyword_of_compile htable hkeyword
  obtain ⟨before, inside, behind, hcut, -, -, hspan, htext⟩ := Pattern.exists_stretch hm
  have hread : x.suggestion = suggestionIn (Casing.message keyword.text) := by
    rw [hx]
    rfl
  have hsuggests := Casing.suggestionIn_message_iff hblank
  refine ⟨keyword.text, hlisted, before, inside, behind, hcut, ?_, ?_, ?_, ?_, ?_, ?_, ?_⟩
  · rw [hx, ← hspan]
    rfl
  · rintro rfl
    exact hdiffers (htext.trans String.ofList_toList)
  · rw [hx]
    rfl
  · rw [hread, hsuggests]
  · rw [List.append_left_inj, List.append_right_inj, ← hsuggests, String.toList_inj, hread]
    cases suggestionIn (Casing.message keyword.text) with
    | some suggestion => rw [Option.getD_some, Option.some_inj]
    | none =>
      refine iff_of_false (fun hempty => hblank ?_) (by simp)
      rw [← hempty]
      decide
  · intro hmarker
    rw [hread, Casing.suggestionIn_of_marker hmarker]
  · intro hmarker
    rw [hread, Casing.suggestionIn_of_no_marker hmarker hblank]

/-- The compiled form of a table with one keyword that starts with a blank. -/
def RuleTable.padded : RuleTable where
  keywords := [⟨" a", ⟨"\\b( a)\\b", BuiltIn.keywordNode [' ', 'a']⟩⟩]
  spacers := []
  brackets := []
  strategy := .heuristic
  variablePattern := BuiltIn.table.variablePattern
  limits := {}

theorem RuleTable.compile_padded :
    compile { keywords := [" a"], spacers := [], brackets := [] } = .ok padded := by
  have hlight : (BuiltIn.keywordNode [' ', 'a']).isLight = true :=
    BuiltIn.keywordNode_isLight (by decide)
  have hkeyword : compileKeyword 0 " a" =
      .ok ⟨" a", ⟨"\\b( a)\\b", BuiltIn.keywordNode [' ', 'a']⟩⟩ := by
    rw [compileKeyword, if_neg (by decide),
      show keywordSource " a" = "\\b( a)\\b" by decide +kernel,
      BuiltIn.compilePattern (by decide +kernel) hlight]
    rfl
  have hvariable : Pattern.compile .variableNames false "\\$[A-Za-z0-9]+" =
      .ok BuiltIn.table.variablePattern :=
    BuiltIn.compilePattern (by decide +kernel) BuiltIn.variable_isLight
  have hgiven : ¬ "\\$[A-Za-z0-9]+" = "" := by decide
  simp only [compile, compileAll, hkeyword, checkNonEmpty, if_neg hgiven, hvariable]
  rfl

/-- The keyword is reported with the blank in front of it, and the suggestion lacks that blank. -/
theorem casing_suggests_keyword_iff_padded :
    ∃ (l : Linter) (report : Report) (x : Diagnostic),
      RuleTable.compile { keywords := [" a"], spacers := [], brackets := [] } = .ok l.table ∧
      l.lint (.ofString "x A") (.ofRegions [Scope.root] []) = .ok report ∧
      x ∈ report.diagnostics ∧ x.rule = Family.casing.id ∧ x.message = Casing.message " a" ∧
      ¬ Casing.IsCarried " a" ∧ x.suggestion ≠ some " a" := by
  have hlint : Linter.lint ⟨.padded, [.casing], []⟩ (.ofString "x A")
      (.ofRegions [Scope.root] []) = .ok ⟨[.ofMessage Family.casing.id .warning
        (Casing.message " a") (Span.onRow 0 1 3)], [], [⟨"casing", 0, 1, 1, 1⟩]⟩ := by
    decide +kernel
  have hcarried : ¬ Casing.IsCarried " a" := fun h => absurd h.2 (by decide)
  refine ⟨⟨.padded, [.casing], []⟩, _, _, RuleTable.compile_padded, hlint,
    List.mem_singleton_self _, rfl, rfl, hcarried, ?_⟩
  obtain ⟨keyword, hlisted, -, -, -, -, -, -, -, hsuggests, -⟩ := casing_suggests_keyword_iff
    RuleTable.compile_padded hlint (List.mem_singleton_self _) rfl
  obtain rfl := List.mem_singleton.1 hlisted
  exact fun hsuggested => hcarried (hsuggests.1 hsuggested)

end ScopeLint
