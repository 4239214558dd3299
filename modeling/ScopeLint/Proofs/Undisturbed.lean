import ScopeLint.Proofs.CasingFixes
import ScopeLint.Proofs.Variables

/-!
# Operators and brackets of a respelled text

Once some letters of a text are spelled otherwise, as casing fixes do, operators and brackets are
found where they were, in code where they were in code, and between the same neighbours.  So the
diagnostics of both families stay as they are.
-/

namespace ScopeLint

open Pattern (Node CharSet Found matchOf)

/-! ## What scopes tell of their characters -/

namespace Lexical

/-- Operators are the signs of operators in code; constants and numbers are made of characters of
names. -/
structure Tells (s : Option Inner) (c : Char) : Prop where
  operator : s = some .operator ↔ isCode s = true ∧ isOperatorChar c = true
  name : s = some .constant ∨ s = some .number → isNameChar c = true

theorem isNameChar_of_isOperatorChar {c : Char} (h : isOperatorChar c = true) :
    isNameChar c = false := by
  have hall : ∀ c ∈ ['+', '-', '*', '/', '=', '<', '>', '!', '&', '|', '%', '^', '~'],
      isNameChar c = false := Pattern.forall_mem_of_all (by decide +kernel)
  exact hall c (List.contains_iff_mem.1 h)

theorem isNameChar_of_isDigit {c : Char} (h : c.isDigit = true) : isNameChar c = true := by
  have hascii : c.isAlphanum = true := by rw [Char.isAlphanum, h, Bool.or_true]
  exact Text.forall_ascii (P := fun c => c.isDigit = true → isNameChar c = true)
    (by decide +kernel) (Text.toNat_lt_of_isAlphanum hascii) h

theorem tells_of_hidden {s : Option Inner} (h : isCode s = false) (c : Char) : Tells s c where
  operator := by
    rw [h]
    refine ⟨?_, fun hcode => absurd hcode.1 Bool.false_ne_true⟩
    rintro rfl
    cases h
  name := by rintro (rfl | rfl) <;> cases h

theorem tells_of_name {s : Option Inner} {c : Char} (hs : s ≠ some .operator)
    (hc : isNameChar c = true) : Tells s c where
  operator := by
    refine ⟨fun heq => absurd heq hs, fun hcode => ?_⟩
    rw [isNameChar_of_isOperatorChar hcode.2] at hc
    cases hc
  name _ := hc

theorem tells_of_sign {s : Option Inner} {c : Char}
    (hs : s ≠ some .operator ∧ s ≠ some .constant ∧ s ≠ some .number)
    (hc : ¬ isOperatorChar c = true) : Tells s c where
  operator := ⟨fun heq => absurd heq hs.1, fun hcode => absurd hcode.2 hc⟩
  name h := h.elim (fun heq => absurd heq hs.2.1) (fun heq => absurd heq hs.2.2)

/-- What is held of code is made of characters of names, and no operator. -/
def HoldsName (cs : List Char) : Mode → Prop
  | .inside _ => True
  | .held s left _ => isCode s = true →
    s ≠ some .operator ∧ ∀ c ∈ cs.take (left + 1), isNameChar c = true

theorem holdsName_hidden {s : Option Inner} (h : isCode s = false) (cs : List Char) (count : Nat)
    (next : Region) : HoldsName cs (hold s count next) := by
  cases count with
  | zero => trivial
  | succ left => exact fun hcode => absurd (hcode.symm.trans h) (by decide)

theorem holdsName_name {s : Option Inner} (hs : s ≠ some .operator) (rest : List Char)
    (next : Region) : HoldsName rest (hold s (nameLength rest) next) := by
  have htake : rest.takeWhile isNameChar = rest.take (nameLength rest) :=
    List.prefix_iff_eq_take.1 (List.takeWhile_prefix _)
  cases hcount : nameLength rest with
  | zero => trivial
  | succ left =>
    refine fun _ => ⟨hs, fun c hc => ?_⟩
    rw [← hcount, ← htake] at hc
    exact List.all_eq_true.1 List.all_takeWhile c hc

theorem wordScope_ne_operator (keywords : List (List Char)) (word : List Char) :
    wordScope keywords word ≠ some .operator := by
  rw [wordScope]
  split <;> decide

/-- In code the signs of operators are operators and no other character is, and a constant or a
number begins with a character of names. -/
theorem codeStep_tells (keywords : List (List Char)) (c : Char) (rest : List Char) :
    Tells (codeStep keywords c rest).1 c ∧ HoldsName rest (codeStep keywords c rest).2 := by
  rw [codeStep]
  split
  · exact ⟨tells_of_hidden rfl c, holdsName_hidden rfl rest _ _⟩
  split
  · exact ⟨tells_of_hidden rfl c, fun hcode => absurd hcode Bool.false_ne_true⟩
  split
  · exact ⟨tells_of_hidden rfl c, trivial⟩
  split
  · exact ⟨tells_of_hidden rfl c, holdsName_hidden rfl rest _ _⟩
  split
  · exact ⟨tells_of_hidden rfl c, holdsName_hidden rfl rest _ _⟩
  split
  case isTrue hsigil =>
    have hplain : ¬ isOperatorChar c = true := by
      rw [hsigil.1]
      decide
    have htells : Tells (some .variable) c := tells_of_sign (by decide) hplain
    exact ⟨htells, holdsName_name (by decide) rest _⟩
  split
  case isTrue hoperator =>
    refine ⟨⟨⟨fun _ => ⟨rfl, hoperator⟩, fun _ => rfl⟩, fun h => ?_⟩, trivial⟩
    rcases h with h | h <;> cases h
  case isFalse hoperator =>
    split
    case isTrue hdigit =>
      have hnumber : some Inner.number ≠ some .operator := by decide
      exact ⟨tells_of_name hnumber (isNameChar_of_isDigit hdigit), holdsName_name hnumber rest _⟩
    split
    case isTrue hname =>
      exact ⟨tells_of_name (wordScope_ne_operator _ _) hname,
        holdsName_name (wordScope_ne_operator _ _) rest _⟩
    · exact ⟨tells_of_sign (by decide) hoperator, trivial⟩

/-- The same holds of any mode that holds names only as far as they go. -/
theorem step_tells (keywords : List (List Char)) {mode : Mode} {c : Char} {rest : List Char}
    (h : HoldsName (c :: rest) mode) :
    Tells (step keywords mode c rest).1 c ∧ HoldsName rest (step keywords mode c rest).2 := by
  cases mode with
  | held s left next =>
    rw [step]
    by_cases hcode : isCode s = true
    · obtain ⟨hs, hnames⟩ := h hcode
      refine ⟨tells_of_name hs (hnames c List.mem_cons_self), ?_⟩
      cases left with
      | zero => trivial
      | succ left => exact fun _ => ⟨hs, fun d hd => hnames d (List.mem_cons_of_mem c hd)⟩
    · rw [Bool.not_eq_true] at hcode
      exact ⟨tells_of_hidden hcode c, holdsName_hidden hcode rest _ _⟩
  | inside region =>
    cases region with
    | code => exact codeStep_tells keywords c rest
    | blockComment =>
      rw [step]
      split
      · exact ⟨tells_of_hidden rfl c, fun hcode => absurd hcode Bool.false_ne_true⟩
      · exact ⟨tells_of_hidden rfl c, trivial⟩
    | inlineCode => exact ⟨tells_of_hidden rfl c, trivial⟩

/-- So the scope of a character tells, all along a line, whether it is the sign of an operator. -/
theorem scopesFrom_tells (keywords : List (List Char)) {mode : Mode} {cs : List Char}
    (h : HoldsName cs mode) {i : Nat} {s : Option Inner} {c : Char}
    (hs : (scopesFrom keywords mode cs).1[i]? = some s) (hc : cs[i]? = some c) : Tells s c := by
  induction cs generalizing mode i with
  | nil => cases hc
  | cons d rest ih =>
    obtain ⟨htells, hnext⟩ := step_tells keywords h
    cases i with
    | zero =>
      obtain rfl : d = c := Option.some.inj hc
      obtain rfl := Option.some.inj hs
      exact htells
    | succ i => exact ih hnext hs hc

theorem innerAt_tells (keywords : List String) {d : Document} {p : Position} {c : Char}
    (h : d.charAt? p = some c) : Tells (innerAt (scopes keywords d) p) c := by
  rw [Document.charAt?] at h
  cases hline : d.line? p.row with
  | none => rw [hline] at h; cases h
  | some line =>
    rw [hline] at h
    obtain ⟨region, hinner⟩ := innerAt_row keywords hline
    generalize keywords.map (fun k => Text.lowerChars k.toList) = words at hinner
    have hc : line.toList[p.column]? = some c := by rwa [Array.getElem?_toList]
    have hlt : p.column < (scopesFrom words (.inside region) line.toList).1.length := by
      rw [scopesFrom_length]
      exact (List.getElem?_eq_some_iff.1 hc).1
    have hs := List.getElem?_eq_getElem hlt
    have hat : innerAt (scopes keywords d) p =
        (scopesFrom words (.inside region) line.toList).1[p.column] := by
      rw [hinner p.column, hs]
      rfl
    have hholds : HoldsName line.toList (.inside region) := trivial
    rw [hat]
    exact scopesFrom_tells words hholds hs hc

end Lexical

/-! ## Operators and brackets -/

namespace Pattern.Node

/-- A pattern without conditions that matches no letter. -/
structure AvoidsLetters (node : Node) : Prop where
  conditions : node.conditions = []
  avoids : ∀ c, Lexical.isPlainLetter c = true → node.avoids c = true

theorem confuses_of_avoids {c d : Char} {node : Node} (hc : node.avoids c = true)
    (hd : node.avoids d = true) : node.confuses c d = true := by
  induction node with
  | empty | assertion _ => rfl
  | char set =>
    have hc' : set.has c = false := by simpa [avoids] using hc
    have hd' : set.has d = false := by simpa [avoids] using hd
    rw [confuses, hc', hd']
    rfl
  | seq a b iha ihb | alt a b iha ihb =>
    obtain ⟨hca, hcb⟩ := Bool.and_eq_true_iff.1 hc
    obtain ⟨hda, hdb⟩ := Bool.and_eq_true_iff.1 hd
    exact Bool.and_eq_true_iff.2 ⟨iha hca hda, ihb hcb hdb⟩
  | group _ a ih | star _ a ih | plus _ a ih | exactly _ a ih | upTo _ _ a ih => exact ih hc hd

theorem confuses_self (c : Char) (node : Node) : node.confuses c c = true := by
  induction node with
  | empty | assertion _ => rfl
  | char set => exact beq_self_eq_true _
  | seq a b iha ihb | alt a b iha ihb => exact Bool.and_eq_true_iff.2 ⟨iha, ihb⟩
  | group _ a ih | star _ a ih | plus _ a ih | exactly _ a ih | upTo _ _ a ih => exact ih

end Pattern.Node

namespace BuiltIn

theorem single_letter {x c : Char} (hx : Lexical.isPlainLetter x = false)
    (hc : Lexical.isPlainLetter c = true) : (CharSet.single x).has c = false := by
  rw [← Bool.not_eq_true, single_has]
  rintro rfl
  rw [hx] at hc
  cases hc

theorem spacer_avoidsLetters : ∀ s ∈ table.spacers, s.pattern.node.AvoidsLetters := by
  intro s hs
  simp only [table, List.mem_cons, List.not_mem_nil, or_false] at hs
  rcases hs with rfl | rfl
  · refine ⟨rfl, fun c hc => ?_⟩
    simp [Node.avoids, CharSet.has, single_letter (x := '+') (by decide) hc,
      single_letter (x := '=') (by decide) hc]
  · refine ⟨rfl, fun c hc => ?_⟩
    simp [doubleNode, Node.avoids, single_letter (x := '&') (by decide) hc,
      single_letter (x := '|') (by decide) hc]

theorem pairNode_avoidsLetters {opening closing : Char}
    (ho : Lexical.isPlainLetter opening = false) (hc : Lexical.isPlainLetter closing = false) :
    (pairNode opening closing).AvoidsLetters where
  conditions := rfl
  avoids c hletter := by
    simp [pairNode, Node.avoids, single_letter ho hletter, single_letter hc hletter]

theorem bracket_avoidsLetters : ∀ p ∈ table.brackets, p.node.AvoidsLetters := by
  intro p hp
  simp only [table, List.mem_cons, List.not_mem_nil, or_false] at hp
  rcases hp with rfl | rfl | rfl <;> exact pairNode_avoidsLetters (by decide) (by decide)

end BuiltIn

theorem RespelledText.some_iff {text₁ text₂ : Array Char}
    (h : RespelledText text₁.toList text₂.toList) {x : Char} (hx : Lexical.isPlainLetter x = false)
    {i : Nat} : text₁[i]? = some x ↔ text₂[i]? = some x := by
  rw [← Array.getElem?_toList, ← Array.getElem?_toList]
  rcases h.getElem? i with ⟨h₁, h₂⟩ | ⟨c, d, hc, hd, hcd⟩
  · rw [h₁, h₂]
  · rw [hc, hd]
    exact Option.some_inj.trans ((hcd.eq_iff hx).trans Option.some_inj.symm)

/-- A pattern that matches no letter is found at the same places of both texts. -/
theorem RespelledText.found_eq_of_avoids {text₁ text₂ : Array Char}
    (h : RespelledText text₁.toList text₂.toList) {p : Pattern} (hs : p.node.Simple)
    (hp : p.node.AvoidsLetters) : p.found text₁ = p.found text₂ := by
  have hindistinct : Pattern.Indistinct p.node text₁ text₂ := by
    refine ⟨h.size_eq, fun i c d hc hd => ?_, fun i a ha => ?_⟩
    · rcases (h.of_some hc hd).plain with rfl | ⟨hplain, hplain'⟩
      · exact Node.confuses_self c p.node
      · exact Node.confuses_of_avoids (hp.avoids c hplain) (hp.avoids d hplain')
    · rw [hp.conditions] at ha
      cases ha
  exact hindistinct.found_eq hs

/-- Two documents have characters at the same positions, each a respelling of the other. -/
theorem Document.charAt?_respelled {d₁ d₂ : Document}
    (h : RespelledText d₁.chars.toList d₂.chars.toList) (p : Position) :
    d₁.charAt? p = none ∧ d₂.charAt? p = none ∨
      ∃ c d, d₁.charAt? p = some c ∧ d₂.charAt? p = some d ∧ Respelled c d := by
  have hlines := Document.lines_respelled h
  rw [charAt?_eq, charAt?_eq]
  generalize d₁.lines.toList.map (·.toList) = lines₁ at hlines
  generalize d₂.lines.toList.map (·.toList) = lines₂ at hlines
  generalize p.row = row
  induction hlines generalizing row with
  | nil => exact .inl ⟨rfl, rfl⟩
  | cons hline _ ih =>
    cases row with
    | zero => exact hline.getElem? p.column
    | succ row => exact ih row

namespace Lexical

theorem carries_pathAt (table : Array (Array (Option Inner))) (p : Position) :
    (Scope.carries (pathAt table p) "aseOperator" = true ↔ innerAt table p = some .operator) ∧
      (Scope.carries (pathAt table p) Scope.constant = true ↔
        innerAt table p = some .constant ∨ innerAt table p = some .number) := by
  have hname : ∀ scope : Inner,
      (Scope.carries [Scope.root, scope.name] "aseOperator" = true ↔ some scope = some .operator) ∧
        (Scope.carries [Scope.root, scope.name] Scope.constant = true ↔
          some scope = some .constant ∨ some scope = some .number) := by
    intro scope
    cases scope <;> decide
  rw [pathAt]
  cases innerAt table p with
  | none => decide
  | some scope => exact hname scope

/-- A dollar sign is never part of a constant. -/
theorem not_constant_of_sigil (keywords : List String) {d : Document} {p : Position}
    (h : d.charAt? p = some '$') :
    Scope.carries ((classifier keywords d).pathAt p) Scope.constant = false := by
  rw [← Bool.not_eq_true]
  intro hconstant
  have hname := (innerAt_tells keywords h).name ((carries_pathAt _ p).2.1 hconstant)
  exact absurd hname (by decide +kernel)

/-- Operators stand at the same places of both texts. -/
theorem carries_operator_respelled (keywords : List String) {d₁ d₂ : Document}
    (h : RespelledText d₁.chars.toList d₂.chars.toList) {p : Position} {c : Char}
    (hc : d₁.charAt? p = some c) :
    Scope.carries ((classifier keywords d₂).pathAt p) "aseOperator" =
      Scope.carries ((classifier keywords d₁).pathAt p) "aseOperator" := by
  rcases Document.charAt?_respelled h p with ⟨hnone, -⟩ | ⟨c', d, hc', hd, hcd⟩
  · rw [hnone] at hc
    cases hc
  · obtain rfl := Option.some.inj (hc.symm.trans hc')
    have hsign : isOperatorChar d = isOperatorChar c := by
      have hletter : ∀ x, isPlainLetter x = true → isOperatorChar x = false := by
        intro x hx
        simp only [isPlainLetter, Bool.and_eq_true, Bool.not_eq_true'] at hx
        exact hx.1.2
      rcases hcd.plain with rfl | ⟨hplain, hplain'⟩
      · rfl
      · rw [hletter c hplain, hletter d hplain']
    have hcode := Document.isTypical_respelled keywords h p
    simp only [classifier, ofScopes, isTypical_pathAt] at hcode
    rw [Bool.eq_iff_iff]
    simp only [classifier, ofScopes, (carries_pathAt _ p).1, (innerAt_tells keywords hc).operator,
      (innerAt_tells keywords hd).operator, hsign, hcode]

end Lexical

/-- Two texts, each a respelling of the other, with code and operators at the same places. -/
structure Context.IsRespelled (ctx ctx' : Context) : Prop where
  table : ctx'.table = ctx.table
  text : RespelledText ctx.document.chars.toList ctx'.document.chars.toList
  typical : ∀ p, Scope.isTypical (ctx'.path p) = Scope.isTypical (ctx.path p)
  operator : ∀ p c, ctx.document.charAt? p = some c →
    Scope.carries (ctx'.path p) "aseOperator" = Scope.carries (ctx.path p) "aseOperator"

theorem Linter.isRespelled (l : Linter) {text text' : String}
    (h : RespelledText (Document.ofString text).chars.toList
      (Document.ofString text').chars.toList) :
    (l.contextOf text).IsRespelled (l.contextOf text') where
  table := rfl
  text := h
  typical p := (Document.isTypical_respelled l.table.keywordTexts h p).symm
  operator _ _ hc := Lexical.carries_operator_respelled l.table.keywordTexts h hc

namespace Context.IsRespelled

variable {ctx ctx' : Context} (h : ctx.IsRespelled ctx')

include h

theorem spaced_eq (p : Position) :
    Spacing.spaced ctx' "aseOperator" p = Spacing.spaced ctx "aseOperator" p := by
  rw [Spacing.spaced, Spacing.spaced]
  rcases Document.charAt?_respelled h.text p with ⟨h₁, h₂⟩ | ⟨c, d, hc, hd, hcd⟩
  · rw [h₁, h₂]
  · have hblank : ∀ x, Lexical.isPlainLetter x = false → (d == x) = (c == x) := by
      intro x hx
      rw [Bool.eq_iff_iff, beq_iff_eq, beq_iff_eq, hcd.eq_iff hx]
    rw [hc, hd]
    simp only [hblank ' ' (by decide), hblank '\t' (by decide), h.operator p c hc]

/-- Whether a neighbour is a blank or an operator does not depend on spelling, so an operator is
judged alike in both texts. -/
theorem spacing_eq (severity : Severity) {spacer : Spacer}
    (hspacer : spacer.requiredScope = "" ∧ spacer.breakScope = "aseOperator") (f : Found) :
    Spacing.verdict ctx' severity spacer (matchOf ctx'.document.chars f) =
      Spacing.verdict ctx severity spacer (matchOf ctx.document.chars f) := by
  have hbefore : ∀ p, Spacing.spacedBefore ctx' "aseOperator" p =
      Spacing.spacedBefore ctx "aseOperator" p := by
    intro p
    rw [Spacing.spacedBefore, Spacing.spacedBefore]
    cases p.column with
    | zero => rfl
    | succ column => exact h.spaced_eq _
  simp only [Spacing.verdict, hspacer.1, hspacer.2, ← h.text.span_eq f, h.typical, hbefore,
    h.spaced_eq, beq_self_eq_true, Bool.true_or]

theorem bracket_eq (f : Found) :
    Brackets.codeBracket? ctx' (matchOf ctx'.document.chars f) =
      Brackets.codeBracket? ctx (matchOf ctx.document.chars f) := by
  rw [Brackets.codeBracket?, Brackets.codeBracket?, ← h.text.span_eq f, h.typical]
  rfl

/-- The operators and brackets of the built-in table are judged alike in both texts. -/
theorem verdict_eq (hspacers : ctx.table.spacers = BuiltIn.table.spacers)
    (hbrackets : ctx.table.brackets = BuiltIn.table.brackets) (severity : Severity) :
    Family.spacing.verdict ctx' severity = Family.spacing.verdict ctx severity ∧
      Family.brackets.verdict ctx' severity = Family.brackets.verdict ctx severity := by
  constructor
  · rw [Family.verdict, Family.verdict, h.table, hspacers]
    refine congrArg Findings.concat (List.map_congr_left fun spacer hs => ?_)
    have hscopes : spacer.requiredScope = "" ∧ spacer.breakScope = "aseOperator" := by
      have hall : ∀ s ∈ BuiltIn.table.spacers,
          s.requiredScope = "" ∧ s.breakScope = "aseOperator" := by
        decide
      exact hall spacer hs
    have hfound := h.text.found_eq_of_avoids (BuiltIn.spacer_tame spacer hs).simple
      (BuiltIn.spacer_avoidsLetters spacer hs)
    simp only [Findings.judged, Pattern.scan_eq_map, List.length_map, List.filterMap_map, hfound,
      Function.comp_def, h.spacing_eq severity hscopes]
  · rw [Family.verdict, Family.verdict, h.table, hbrackets]
    refine congrArg Findings.concat (List.map_congr_left fun pair hp => ?_)
    have hfound := h.text.found_eq_of_avoids (BuiltIn.bracket_tame pair hp).simple
      (BuiltIn.bracket_avoidsLetters pair hp)
    simp only [Brackets.pairVerdict, Brackets.codeBrackets, Pattern.scan_eq_map, List.length_map,
      List.filterMap_map, hfound, Function.comp_def, h.bracket_eq, h.table]

end Context.IsRespelled

end ScopeLint
