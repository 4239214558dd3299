import Mathlib.Data.List.Basic
import ScopeLint.Proofs.Matching
import ScopeLint.Proofs.Verdicts
import ScopeLint.Proofs.Weight

/-!
# The built-in table

The built-in table compiles, and its patterns are simple: none of them matches the empty text or a
character at which code and other text can meet.  So a pass with this table succeeds on every
text.
-/

namespace ScopeLint

open Pattern (Node CharSet)

theorem Pattern.isPlainIn_of_tame {p : Pattern} (h : p.node.IsTame) (d : Document) :
    p.IsPlainIn d := by
  intro m hm
  rw [scan_eq_map] at hm
  obtain ⟨f, hf, rfl⟩ := List.mem_map.1 hm
  obtain ⟨-, -, hstop⟩ := (Pattern.found_chain p d.chars).bounds hf
  rw [Pattern.found_eq_search] at hf
  obtain ⟨hlt, hchars⟩ := h.of_matchAt? (Pattern.matchAt?_of_mem_search hf)
  replace hlt : f.start < f.stop := hlt
  have htext : (Pattern.matchOf d.chars f).text.toList = (d.chars.extract f.start f.stop).toList :=
    String.toList_ofList
  have hborder : ∀ c ∈ Pattern.borders, c ∉ (d.chars.extract f.start f.stop).toList := by
    intro c hc hmem
    obtain ⟨k, hk, hkc⟩ := List.mem_iff_getElem.1 hmem
    have hsize : k < f.stop - f.start := by
      have hlength := hk
      simp only [Array.length_toList, Array.size_extract] at hlength
      omega
    have hget : d.chars[f.start + k]? = some c := by
      rw [Array.getElem?_eq_getElem (by omega)]
      simpa using hkc
    refine hchars (f.start + k) (Nat.le_add_right _ _) (by simp only; omega) ?_
    intro c' hc'
    obtain rfl : c = c' := Option.some.inj (hget.symm.trans hc')
    exact hc
  rw [← htext] at hborder
  refine ⟨?_, hborder '\r' (by decide), hborder '\n' (by decide)⟩
  rw [htext]
  intro hempty
  have hlength := congrArg List.length hempty
  simp only [Array.length_toList, Array.size_extract, List.length_nil] at hlength
  omega

/-- A table whose patterns are all tame. -/
structure RuleTable.IsTame (t : RuleTable) : Prop where
  keywords : ∀ k ∈ t.keywords, k.pattern.node.IsTame
  spacers : ∀ s ∈ t.spacers, s.pattern.node.IsTame
  brackets : ∀ p ∈ t.brackets, p.node.IsTame
  variablePattern : t.variablePattern.node.IsTame

/-- A tame pattern matches no line end, so all of its matches are plain in any document. -/
theorem RuleTable.IsTame.isPlainIn {t : RuleTable} (h : t.IsTame) (d : Document) :
    t.IsPlainIn d where
  keywords k hk := Pattern.isPlainIn_of_tame (h.keywords k hk) d
  spacers s hs := Pattern.isPlainIn_of_tame (h.spacers s hs) d
  brackets p hp := Pattern.isPlainIn_of_tame (h.brackets p hp) d
  variablePattern := Pattern.isPlainIn_of_tame h.variablePattern d

namespace BuiltIn

/-- The pattern of a keyword that has no special characters. -/
def keywordNode (cs : List Char) : Node :=
  let edge := Node.assertion (.word .boundary false)
  .seq edge (.seq (.group none (.sequence (cs.map (fun c => .char (.alike c))))) edge)

/-- The compiled form of such a keyword. -/
def keyword (text : String) : Keyword :=
  ⟨text, ⟨RuleTable.keywordSource text, keywordNode text.toList⟩⟩

def pairNode (opening closing : Char) : Node :=
  .alt (.group (some openingGroup) (.char (.single opening)))
    (.group (some "close") (.char (.single closing)))

/-- The pattern of an operator that is one sign written twice. -/
def doubleNode (c : Char) : Node := .seq (.char (.single c)) (.char (.single c))

def nameSet : CharSet :=
  .union (.union (.union .empty (.range 'A' 'Z')) (.range 'a' 'z')) (.range '0' '9')

/-- The built-in table in compiled form. -/
def table : RuleTable where
  keywords := [keyword "eoi", keyword "NullObject", keyword "JSONObject"]
  spacers :=
    [⟨⟨"[\\+=]", .char (.union (.union .empty (.single '+')) (.single '='))⟩, "", "aseOperator"⟩,
      ⟨⟨"&&|\\|\\|", .alt (doubleNode '&') (doubleNode '|')⟩, "", "aseOperator"⟩]
  brackets :=
    [⟨"(?P<open>\\()|(?P<close>\\))", pairNode '(' ')'⟩,
      ⟨"(?P<open>\\[)|(?P<close>\\])", pairNode '[' ']'⟩,
      ⟨"(?P<open>\\\x7b)|(?P<close>\\\x7d)", pairNode '\x7b' '\x7d'⟩]
  strategy := .heuristic
  variablePattern := ⟨"\\$[A-Za-z0-9]+", .seq (.char (.single '$')) (.plus true (.char nameSet))⟩
  limits := {}

def letters : List Char := ['e', 'o', 'i', 'N', 'u', 'l', 'O', 'b', 'j', 'c', 't', 'J', 'S']

/-- A keyword of moderate length is light, whatever its characters. -/
theorem keywordNode_isLight {cs : List Char} (hlength : cs.length ≤ 300) :
    (keywordNode cs).isLight = true := by
  have hweight := Pattern.weight_word_le cs (by decide : Pattern.Role.alone ≠ .branch)
  simp only [keywordNode, Node.isLight, Node.weight, Pattern.Role.joint, Pattern.stateWeight,
    Node.weightLimit, decide_eq_true_eq]
  omega

theorem compilePattern {origin : Origin} {ignoreCase : Bool} {source : String} {node : Node}
    (hread : Node.read? ignoreCase source.toList = some node) (hlight : node.isLight = true) :
    Pattern.compile origin ignoreCase source = .ok ⟨source, node⟩ := by
  rw [Pattern.compile, hread]
  simp only [hlight, if_true]

theorem compileKeyword_eq (index : Nat) (text : String)
    (hblank : Text.trimChars text.toList ≠ [])
    (hread : Node.read? true (RuleTable.keywordSource text).toList =
      some (keywordNode text.toList))
    (hlength : text.toList.length ≤ 300) :
    RuleTable.compileKeyword index text = .ok (keyword text) := by
  rw [RuleTable.compileKeyword, if_neg hblank, compilePattern hread (keywordNode_isLight hlength)]
  rfl

theorem compileSpacer_eq {node : Node} (index : Nat) (source required breaking : String)
    (hne : source ≠ "") (hread : Node.read? false source.toList = some node)
    (hlight : node.isLight = true) :
    RuleTable.compileSpacer index ⟨source, required, breaking⟩ =
      .ok ⟨⟨source, node⟩, required, breaking⟩ := by
  rw [RuleTable.compileSpacer, RuleTable.checkNonEmpty, if_neg hne, compilePattern hread hlight]
  rfl

theorem compilePair_eq (index : Nat) (spec : BracketSpec) (opening closing : Char)
    (hne : spec.opening ≠ "" ∧ spec.closing ≠ "")
    (hread : Node.read? false spec.opening.toList = some (.char (.single opening)) ∧
      Node.read? false spec.closing.toList = some (.char (.single closing)) ∧
      Node.read? false (RuleTable.pairSource spec).toList = some (pairNode opening closing))
    (hlight : (Node.char (.single opening)).isLight = true ∧
      (Node.char (.single closing)).isLight = true ∧ (pairNode opening closing).isLight = true) :
    RuleTable.compilePair index spec =
      .ok ⟨RuleTable.pairSource spec, pairNode opening closing⟩ := by
  rw [RuleTable.compilePair, RuleTable.checkNonEmpty, RuleTable.checkNonEmpty, if_neg hne.1,
    if_neg hne.2, compilePattern hread.1 hlight.1, compilePattern hread.2.1 hlight.2.1,
    compilePattern hread.2.2 hlight.2.2]
  rfl

/-- The single signs of the first spacer. -/
theorem sign_isLight :
    (Node.char (.union (.union .empty (.single '+')) (.single '='))).isLight = true := by
  simp +decide [Node.isLight, Node.weight, CharSet.codes, CharSet.single, Text.Ranges.union,
    Text.Ranges.join, Text.Ranges.joinFrom, Pattern.weightOfCodes, Pattern.Role.joint,
    Node.weightLimit, Pattern.stateWeight]

theorem variable_isLight :
    (Node.seq (.char (.single '$')) (.plus true (.char nameSet))).isLight = true := by
  simp +decide [Node.isLight, Node.weight, nameSet, CharSet.codes, CharSet.single,
    Text.Ranges.union, Text.Ranges.join, Text.Ranges.joinFrom, Pattern.weightOfCodes,
    Pattern.Role.joint, Node.weightLimit, Pattern.stateWeight]

theorem compile_keywords :
    RuleTable.compileAll RuleTable.compileKeyword 0 ["eoi", "NullObject", "JSONObject"] =
      .ok table.keywords := by
  have h₀ := compileKeyword_eq 0 "eoi" (by decide) (by decide +kernel) (by decide)
  have h₁ := compileKeyword_eq 1 "NullObject" (by decide) (by decide +kernel) (by decide)
  have h₂ := compileKeyword_eq 2 "JSONObject" (by decide) (by decide +kernel) (by decide)
  simp only [RuleTable.compileAll, h₀, h₁, h₂]
  rfl

theorem compile_spacers :
    RuleTable.compileAll RuleTable.compileSpacer 0
      [⟨"[\\+=]", "", "aseOperator"⟩, ⟨"&&|\\|\\|", "", "aseOperator"⟩] = .ok table.spacers := by
  have h₀ := compileSpacer_eq 0 "[\\+=]" "" "aseOperator" (by decide)
    (show Node.read? false "[\\+=]".toList =
      some (.char (.union (.union .empty (.single '+')) (.single '='))) by decide +kernel)
    sign_isLight
  have h₁ := compileSpacer_eq 1 "&&|\\|\\|" "" "aseOperator" (by decide)
    (show Node.read? false "&&|\\|\\|".toList =
      some (.alt (doubleNode '&') (doubleNode '|')) by decide +kernel) (by decide +kernel)
  simp only [RuleTable.compileAll, h₀, h₁]
  rfl

theorem compile_brackets :
    RuleTable.compileAll RuleTable.compilePair 0
      [⟨"\\(", "\\)"⟩, ⟨"\\[", "\\]"⟩, ⟨"\\\x7b", "\\\x7d"⟩] = .ok table.brackets := by
  have h₀ := compilePair_eq 0 ⟨"\\(", "\\)"⟩ '(' ')' (by decide) (by decide +kernel)
    (by decide +kernel)
  have h₁ := compilePair_eq 1 ⟨"\\[", "\\]"⟩ '[' ']' (by decide) (by decide +kernel)
    (by decide +kernel)
  have h₂ := compilePair_eq 2 ⟨"\\\x7b", "\\\x7d"⟩ '\x7b' '\x7d' (by decide) (by decide +kernel)
    (by decide +kernel)
  simp only [RuleTable.compileAll, h₀, h₁, h₂]
  rfl

/-- The table of the defaults is compiled into the built-in one, whatever the strategy and the
limits. -/
theorem compile_variant (strategy : BracketStrategy) (limits : Limits) :
    RuleTable.compile { strategy, limits } = .ok { table with strategy, limits } := by
  have hvariable : Pattern.compile .variableNames false "\\$[A-Za-z0-9]+" =
      .ok table.variablePattern := compilePattern (by decide +kernel) variable_isLight
  have hgiven : ¬ "\\$[A-Za-z0-9]+" = "" := by decide
  rw [RuleTable.compile, compile_keywords, compile_spacers, compile_brackets,
    RuleTable.checkNonEmpty, if_neg hgiven, hvariable]
  rfl

theorem compile_table : RuleTable.compile {} = .ok table := compile_variant .heuristic {}

/-! ## What its patterns match -/

theorem sequence_simple {nodes : List Node} (h : ∀ node ∈ nodes, node.Simple) :
    (Node.sequence nodes).Simple := by
  induction nodes with
  | nil => exact .empty
  | cons a nodes ih =>
    cases nodes with
    | nil => exact h a List.mem_cons_self
    | cons b nodes =>
      exact .seq (h a List.mem_cons_self) (ih (fun node hn => h node (List.mem_cons_of_mem _ hn)))

theorem keywordNode_simple (cs : List Char) : (keywordNode cs).Simple := by
  have hletters : ∀ node ∈ cs.map (fun c => Node.char (.alike c)), node.Simple := by
    intro node hn
    obtain ⟨c, -, rfl⟩ := List.mem_map.1 hn
    exact .char _
  exact .seq (.word _ _) (.seq (.group none (sequence_simple hletters)) (.word _ _))

theorem pairNode_simple (opening closing : Char) : (pairNode opening closing).Simple :=
  .alt (.group _ (.char _)) (.group _ (.char _))

theorem doubleNode_simple (c : Char) : (doubleNode c).Simple := .seq (.char _) (.char _)

theorem keyword_tame : ∀ k ∈ table.keywords, k.pattern.node.IsTame := by
  have hcheck : ∀ text ∈ ["eoi", "NullObject", "JSONObject"],
      (keywordNode text.toList).AvoidsBorders ∧
        (keywordNode text.toList).isNullable = false := by decide +kernel
  intro k hk
  obtain ⟨text, htext, rfl⟩ : ∃ text ∈ ["eoi", "NullObject", "JSONObject"], keyword text = k := by
    simpa [table, eq_comm] using hk
  exact ⟨keywordNode_simple _, (hcheck text htext).1, (hcheck text htext).2⟩

theorem spacer_tame : ∀ s ∈ table.spacers, s.pattern.node.IsTame := by
  intro s hs
  simp only [table, List.mem_cons, List.not_mem_nil, or_false] at hs
  rcases hs with rfl | rfl
  · exact ⟨.char _, by decide, by decide⟩
  · exact ⟨.alt (doubleNode_simple _) (doubleNode_simple _), by decide, by decide⟩

theorem bracket_tame : ∀ p ∈ table.brackets, p.node.IsTame := by
  intro p hp
  simp only [table, List.mem_cons, List.not_mem_nil, or_false] at hp
  rcases hp with rfl | rfl | rfl
  · exact ⟨pairNode_simple _ _, by decide, by decide⟩
  · exact ⟨pairNode_simple _ _, by decide, by decide⟩
  · exact ⟨pairNode_simple _ _, by decide, by decide⟩

theorem variable_tame : table.variablePattern.node.IsTame :=
  ⟨.seq (.char _) (.rounds _), by decide, by decide⟩

/-- No pattern of the built-in table matches the empty text or a border. -/
theorem isTame : table.IsTame := ⟨keyword_tame, spacer_tame, bracket_tame, variable_tame⟩

/-- The same holds of the table with another strategy and other limits. -/
theorem isTame_of_compile {strategy : BracketStrategy} {limits : Limits} {t : RuleTable}
    (h : RuleTable.compile { strategy, limits } = .ok t) : t.IsTame := by
  rw [compile_variant] at h
  cases h
  exact ⟨isTame.keywords, isTame.spacers, isTame.brackets, isTame.variablePattern⟩

end BuiltIn

/-- A pass succeeds where all matches of its table hold at least one character and none that ends
a line, whatever the classifier and the choice of families, severities and limits.  The matches
of the built-in table are of that kind in every text. -/
theorem lint_succeeds :
    (∀ (l : Linter) (d : Document) (classifier : Classifier), l.table.IsPlainIn d →
      ∃ report, l.lint d classifier = .ok report) ∧
    RuleTable.compile {} = .ok BuiltIn.table ∧
    (∀ d, BuiltIn.table.IsPlainIn d) ∧
    (∀ l : Linter, l.table = BuiltIn.table → ∀ text,
      (∀ classifier, ∃ report, l.lint (.ofString text) classifier = .ok report) ∧
      ∃ report, l.lintText text = .ok report) := by
  have hlint : ∀ (l : Linter) (d : Document) (classifier : Classifier), l.table.IsPlainIn d →
      ∃ report, l.lint d classifier = .ok report :=
    fun l d classifier h => ⟨_, Linter.lint_eq h classifier⟩
  refine ⟨hlint, BuiltIn.compile_table, BuiltIn.isTame.isPlainIn, ?_⟩
  intro l hl text
  have hplain : l.table.IsPlainIn (.ofString text) := by
    rw [hl]
    exact BuiltIn.isTame.isPlainIn _
  exact ⟨fun classifier => hlint l _ classifier hplain, hlint l _ _ hplain⟩

/-- All families of the built-in table find something here, next to each kind of line end. -/
theorem lint_succeeds_line_ends :
    (∃ report, Linter.lint ⟨BuiltIn.table, Family.all, []⟩ (.ofString "EOI\r\n=$a(\r")
      ⟨fun _ => [Scope.root]⟩ = .ok report) ∧
    ∃ report, Linter.lintText ⟨BuiltIn.table, Family.all, []⟩ "EOI\r\n=$a(\r" = .ok report :=
  ⟨lint_succeeds.1 _ _ _ (BuiltIn.isTame.isPlainIn _), (lint_succeeds.2.2.2 _ rfl _).2⟩

end ScopeLint
