import ScopeLint.Proofs.Undisturbed

/-!
# Names under casing fixes

A fix touches a name only where a keyword stands right behind the dollar sign, since a keyword
starts at the edge of a word.  There the name is the keyword as written in the table once the fix is
applied, and none of these is Hungarian.  All other names are judged as before.  Operators and
brackets being undisturbed, this says what casing fixes do to the other families.
-/

namespace ScopeLint

open Pattern (Found matchOf)

/-! ## Places of fixes -/

/-- The position one column further. -/
def Position.next (p : Position) : Position := ⟨p.row, p.column + 1⟩

/-- What stands right before a position that is not the first of its row. -/
theorem Position.exists_before {cs : List Char} {i : Nat} {p : Position} (hi : i ≤ cs.length)
    (h : origin.after (cs.take i) = p.next) :
    ∃ k c, i = k + 1 ∧ cs[k]? = some c ∧ c ≠ '\n' ∧ origin.after (cs.take k) = p := by
  cases i with
  | zero => exact absurd (congrArg column h) (Nat.succ_ne_zero p.column).symm
  | succ k =>
    have hstep := step_ofIndex hi
    rw [ofIndex, ofIndex, h, step] at hstep
    split at hstep
    · exact absurd (congrArg column hstep) (Nat.succ_ne_zero p.column).symm
    case isFalse hc =>
      refine ⟨k, cs[k], rfl, List.getElem?_eq_getElem hi, hc, ?_⟩
      obtain ⟨hrow, hcolumn⟩ := Position.mk.inj hstep
      exact congrArg₂ Position.mk hrow (Nat.succ.inj hcolumn)

/-- Does no fix start one column behind the start of the diagnostic? -/
def Diagnostic.isClearOf (x : Diagnostic) (fixes : List Diagnostic) : Bool :=
  fixes.all (fun y => y.span.start != x.span.start.next)

theorem filterMap_range_single {α : Type} {g : Nat → Option α} {n i : Nat} {a : α} (hi : i < n)
    (ha : g i = some a) (hother : ∀ j, j ≠ i → g j = none) :
    (List.range n).filterMap g = [a] := by
  induction n with
  | zero => cases hi
  | succ n ih =>
    rw [List.range_succ, List.filterMap_append]
    by_cases hlast : i = n
    · subst hlast
      have hbefore : (List.range i).filterMap g = [] :=
        List.filterMap_eq_nil_iff.2 fun j hj => hother j (Nat.ne_of_lt (List.mem_range.1 hj))
      rw [hbefore, List.filterMap_cons_some ha]
      rfl
    · rw [ih (by omega), List.filterMap_cons_none (hother n (Ne.symm hlast))]
      rfl

namespace Casing

open BuiltIn (words keyword VariableAt)

variable {ctx : Context} {severity : Severity} {text : Array Char} {k : Nat}

theorem letter_of_found {w : String} (hw : w ∈ words) {f : Found}
    (hf : f ∈ (keyword w).pattern.found text) :
    ∃ c, text[f.start]? = some c ∧ Lexical.isPlainLetter c = true := by
  have hword := BuiltIn.isWord_of_mem hw
  have hlength : 0 < w.toList.length := List.length_pos_iff.2 hword.ne_nil
  obtain ⟨c, hc, halike⟩ :=
    (BuiltIn.spelledAt_of_found hword hf).2.alike 0 _ (List.getElem?_eq_getElem hlength)
  exact ⟨c, hc, (BuiltIn.plain_of_mem (hword.letters _ (List.getElem_mem hlength))
    (Text.mem_foldClass halike)).2⟩

/-- Does a fix start at the index? -/
def StartsAt (ctx : Context) (severity : Severity) (i : Nat) : Prop :=
  ∃ w ∈ words, ∃ f ∈ (keyword w).pattern.found ctx.document.chars, f.start = i ∧
    (verdict ctx severity (keyword w) (matchOf ctx.document.chars f)).isSome = true

/-- Word characters behind a dollar sign are touched by a fix right behind it only: a keyword
starts behind a character of no word. -/
theorem kept_behind_sigil (htext : text.toList = fixedChars ctx severity)
    (hsigil : ctx.document.chars[k]? = some '$') {stop : Nat}
    (hwords : ∀ m, k < m → m < stop →
      Pattern.Assertion.isWord false ctx.document.chars[m]? = true)
    (hclear : ¬ StartsAt ctx severity (k + 1)) {m : Nat} (hle : k ≤ m) (hstop : m ≤ stop) :
    text[m]? = ctx.document.chars[m]? := by
  have hreads := (replaceable ctx severity).readsAs m
  rw [← Array.getElem?_toList, htext, ← Array.getElem?_toList]
  refine hreads.outside fun x hx hcontains => ?_
  obtain ⟨w, hw, f, hf, hverdict⟩ := mem_fixes.1 hx
  have hword := BuiltIn.isWord_of_mem hw
  have hspelled := (BuiltIn.spelledAt_of_found hword hf).2
  obtain ⟨hfirst, hlast⟩ := (fixAt_of_verdict hw hf hverdict).contains_iff.1 hcontains
  have hbehind : k < f.start := by
    by_contra hlt
    have hsign := hspelled.isWord hword (Nat.le_of_not_lt hlt) (by omega)
    rw [hsigil] at hsign
    exact absurd hsign (by decide +kernel)
  have hne : f.start ≠ k + 1 := fun heq =>
    hclear ⟨w, hw, f, hf, heq, by rw [hverdict]; rfl⟩
  have hedge := hspelled.before
  rw [show f.start = f.start - 1 + 1 by omega] at hedge
  rw [show Pattern.Assertion.before? ctx.document.chars (f.start - 1 + 1) =
    ctx.document.chars[f.start - 1]? from rfl, hwords _ (by omega) (by omega)] at hedge
  cases hedge

/-- Without a fix behind the dollar sign, the same variable starts there, if any. -/
theorem variableAt_iff (htext : text.toList = fixedChars ctx severity)
    (hclear : ¬ StartsAt ctx severity (k + 1)) {stop : Nat} :
    VariableAt text k stop ↔ VariableAt ctx.document.chars k stop := by
  have hrespelled : RespelledText ctx.document.chars.toList text.toList :=
    htext ▸ respelled ctx severity
  constructor
  · intro h
    have hsigil := (hrespelled.some_iff (by decide)).2 h.sigil
    have hwords : ∀ m, k < m → m < stop →
        Pattern.Assertion.isWord false ctx.document.chars[m]? = true :=
      fun m hm hlt => (hrespelled.isWord_eq m).trans (h.isWord hm hlt)
    exact h.congr fun m hle hstop => (kept_behind_sigil htext hsigil hwords hclear hle hstop).symm
  · intro h
    exact h.congr fun m hle hstop =>
      kept_behind_sigil htext h.sigil (fun _ hm hlt => h.isWord hm hlt) hclear hle hstop

/-- With a fix behind the dollar sign, the keyword is the name. -/
theorem variableAt_fixed (htext : text.toList = fixedChars ctx severity) {w : String}
    (hw : w ∈ words) {f : Found} (hf : f ∈ (keyword w).pattern.found ctx.document.chars)
    (hstart : f.start = k + 1) (hsigil : ctx.document.chars[k]? = some '$')
    (hword : (text.extract f.start f.stop).toList = w.toList) :
    VariableAt text k f.stop := by
  have hrespelled : RespelledText ctx.document.chars.toList text.toList :=
    htext ▸ respelled ctx severity
  obtain ⟨hstop, hspelled⟩ := BuiltIn.spelledAt_of_found (BuiltIn.isWord_of_mem hw) hf
  have hlength : 0 < w.toList.length :=
    List.length_pos_iff.2 (BuiltIn.isWord_of_mem hw).ne_nil
  refine ⟨(hrespelled.some_iff (by decide)).1 hsigil, by omega, fun m hm hlt => ?_,
    fun c hc => ?_⟩
  · have hletter := getElem?_extract text f.start f.stop (m - f.start)
    rw [hword, if_pos (by omega), Nat.add_sub_cancel' (by omega),
      List.getElem?_eq_getElem (by omega)] at hletter
    have hnames : ∀ w ∈ words, w.toList.all BuiltIn.nameSet.has = true := by decide
    refine ⟨_, by rw [← Array.getElem?_toList, ← hletter], ?_⟩
    exact List.all_eq_true.1 (hnames w hw) _ (List.getElem_mem _)
  · rw [← Bool.not_eq_true]
    intro hname
    have hbehind := hspelled.behind
    rw [← hstop, hrespelled.isWord_eq, hc] at hbehind
    rw [show Pattern.Assertion.isWord false (some c) = true from
      BuiltIn.isWordChar_of_nameSet hname] at hbehind
    cases hbehind

end Casing

theorem Linter.respelled_fixed (l : Linter) {text fixed : String} {severity : Severity}
    (hchars : (Document.ofString fixed).chars.toList =
      Casing.fixedChars (l.contextOf text) severity) :
    RespelledText (Document.ofString text).chars.toList (Document.ofString fixed).chars.toList :=
  hchars ▸ Casing.respelled (l.contextOf text) severity

namespace Naming

open BuiltIn (words keyword)

theorem charAt?_sigil {d : Document} {i : Nat} (h : d.chars[i]? = some '$') :
    d.charAt? (Position.origin.after (d.chars.toList.take i)) = some '$' :=
  Document.charAt?_after h (by decide) (fun heq => absurd heq (by decide))

theorem after_sigil {chars : Array Char} {i : Nat} (h : chars[i]? = some '$') :
    Position.origin.after (chars.toList.take (i + 1)) =
      (Position.origin.after (chars.toList.take i)).next := by
  rw [← Array.getElem?_toList] at h
  obtain ⟨hlt, hchar⟩ := List.getElem?_eq_some_iff.1 h
  have hstep := Position.step_ofIndex hlt
  rw [hchar] at hstep
  exact hstep.symm

/-- A dollar sign is no constant, so a variable in code is judged by its name alone. -/
theorem verdict_of_sigil (l : Linter) {text : String} {f : Found}
    (h : (Document.ofString text).chars[f.start]? = some '$') (severity : Severity) :
    verdict (l.contextOf text) severity (matchOf (Document.ofString text).chars f) =
      if Scope.isTypical ((l.contextOf text).path
          (matchOf (Document.ofString text).chars f).span.start) &&
          !isHungarian ((matchOf (Document.ofString text).chars f).text.toList.drop 1) then
        some (.ofMessage Family.naming.id severity message
          (matchOf (Document.ofString text).chars f).span)
      else none := by
  have hconstant : Scope.carries ((l.contextOf text).path
      (matchOf (Document.ofString text).chars f).span.start) Scope.constant = false :=
    Lexical.not_constant_of_sigil _ (charAt?_sigil h)
  simp only [verdict, hconstant, Bool.not_false, Bool.and_true]

/-- A variable that the fixes leave alone is judged as before. -/
theorem diagnosticAt_kept (l : Linter) {text fixed : String} {severity : Severity}
    (hchars : (Document.ofString fixed).chars.toList =
      Casing.fixedChars (l.contextOf text) severity) {k : Nat}
    (hclear : ¬ Casing.StartsAt (l.contextOf text) severity (k + 1)) (severity' : Severity) :
    diagnosticAt (l.contextOf fixed) severity' k = diagnosticAt (l.contextOf text) severity' k := by
  have hrespelled := l.respelled_fixed hchars
  have hctx := l.isRespelled hrespelled
  have hfound : BuiltIn.variableNode.foundAt? (Document.ofString fixed).chars k =
      BuiltIn.variableNode.foundAt? (Document.ofString text).chars k := by
    apply Option.ext
    intro f
    rw [BuiltIn.foundAt?_variable, BuiltIn.foundAt?_variable, Casing.variableAt_iff hchars hclear]
    rfl
  change (BuiltIn.variableNode.foundAt? (Document.ofString fixed).chars k).bind _ =
    (BuiltIn.variableNode.foundAt? (Document.ofString text).chars k).bind _
  rw [hfound]
  refine Option.bind_congr fun f hf => ?_
  obtain ⟨rfl, -, hvariable⟩ := BuiltIn.foundAt?_variable.1 hf
  have htext : (matchOf (Document.ofString fixed).chars f).text =
      (matchOf (Document.ofString text).chars f).text := by
    refine congrArg String.ofList (List.ext_getElem? fun j => ?_)
    rw [Casing.getElem?_extract, Casing.getElem?_extract]
    split
    case isTrue hj =>
      rw [Array.getElem?_toList, Array.getElem?_toList]
      exact Casing.kept_behind_sigil hchars hvariable.sigil
        (fun _ hm hlt => hvariable.isWord hm hlt) hclear (Nat.le_add_right _ _) (by omega)
    case isFalse => rfl
  have hsigil := (hrespelled.some_iff (by decide)).1 hvariable.sigil
  change verdict (l.contextOf fixed) severity' (matchOf (Document.ofString fixed).chars f) =
    verdict (l.contextOf text) severity' (matchOf (Document.ofString text).chars f)
  rw [verdict_of_sigil l hsigil, verdict_of_sigil l hvariable.sigil, htext,
    ← hrespelled.span_eq f, hctx.typical]

theorem drop_extract (text : Array Char) (start stop : Nat) :
    (text.extract start stop).toList.drop 1 = (text.extract (start + 1) stop).toList := by
  rw [Array.toList_extract, Array.toList_extract, List.extract, List.extract, List.drop_take,
    List.drop_drop, Nat.sub_add_eq]

/-- A dollar sign before a letter in code is in code. -/
theorem typical_of_next (l : Linter) {text : String} {k : Nat} {c : Char}
    (hsigil : (Document.ofString text).chars[k]? = some '$')
    (hnext : (Document.ofString text).chars[k + 1]? = some c)
    (hletter : Lexical.isPlainLetter c = true)
    (htypical : Scope.isTypical ((l.contextOf text).path
      (Position.origin.after ((Document.ofString text).chars.toList.take (k + 1)))) = true) :
    Scope.isTypical ((l.contextOf text).path
      (Position.origin.after ((Document.ofString text).chars.toList.take k))) = true := by
  have hne : ∀ x, Lexical.isPlainLetter x = false → c ≠ x := by
    rintro x hx rfl
    rw [hx] at hletter
    cases hletter
  have ha := charAt?_sigil hsigil
  have hb := Document.charAt?_after hnext (hne _ (by decide))
    (fun heq => absurd heq (hne _ (by decide)))
  rw [after_sigil hsigil] at hb htypical
  generalize Position.origin.after ((Document.ofString text).chars.toList.take k) = p at *
  obtain ⟨-, hmeets⟩ : Meets (Scope.isTypical ((l.contextOf text).path p), '$')
      (Scope.isTypical ((l.contextOf text).path p.next), c) :=
    Lexical.classifier_bordered l.table.keywordTexts (.ofString text) _ _ _ _ ha hb
  by_contra hhidden
  have hborder : '$' ∈ Pattern.borders := hmeets (Bool.eq_false_iff.2 hhidden) htypical
  exact absurd hborder (by decide)

/-- A keyword that has been put right behind a dollar sign is a name to report. -/
theorem diagnosticAt_fixed (l : Linter) {text fixed : String} {severity : Severity}
    (hchars : (Document.ofString fixed).chars.toList =
      Casing.fixedChars (l.contextOf text) severity) {k : Nat} {w : String} (hw : w ∈ words)
    {f : Found} (hf : f ∈ (keyword w).pattern.found (Document.ofString text).chars)
    (hstart : f.start = k + 1) (hsigil : (Document.ofString text).chars[k]? = some '$')
    (htypical : Scope.isTypical ((l.contextOf text).path
      (matchOf (Document.ofString text).chars f).span.start) = true) (severity' : Severity) :
    diagnosticAt (l.contextOf fixed) severity' k =
      some (.ofMessage Family.naming.id severity' message
        ⟨Position.origin.after ((Document.ofString text).chars.toList.take k),
          (matchOf (Document.ofString text).chars f).span.stop⟩) := by
  have hrespelled := l.respelled_fixed hchars
  have hword : ((Document.ofString fixed).chars.extract f.start f.stop).toList = w.toList := by
    rw [← Casing.text_eq_keyword hchars hw hf htypical]
    exact String.toList_ofList.symm
  have hvariable := Casing.variableAt_fixed hchars hw hf hstart hsigil hword
  have hfound : BuiltIn.variableNode.foundAt? (Document.ofString fixed).chars k =
      some ⟨k, f.stop, []⟩ :=
    BuiltIn.foundAt?_variable.2 ⟨rfl, rfl, hvariable⟩
  have hname : (matchOf (Document.ofString fixed).chars ⟨k, f.stop, []⟩).text.toList.drop 1 =
      w.toList := by
    rw [← hword, hstart, ← drop_extract]
    exact congrArg (List.drop 1) String.toList_ofList
  have hcode : Scope.isTypical ((l.contextOf fixed).path
      (matchOf (Document.ofString fixed).chars ⟨k, f.stop, []⟩).span.start) = true := by
    obtain ⟨c, hc, hletter⟩ := Casing.letter_of_found hw hf
    rw [hstart] at hc
    rw [show (matchOf (Document.ofString text).chars f).span.start =
      Position.origin.after ((Document.ofString text).chars.toList.take f.start) from rfl,
      hstart] at htypical
    rw [← hrespelled.span_eq, (l.isRespelled hrespelled).typical]
    exact typical_of_next l hsigil hc hletter htypical
  have hplain : ∀ w ∈ words, isHungarian w.toList = false := by decide +kernel
  change (BuiltIn.variableNode.foundAt? (Document.ofString fixed).chars k).bind _ = _
  rw [hfound, Option.bind_some]
  change verdict (l.contextOf fixed) severity' (matchOf (Document.ofString fixed).chars _) = _
  rw [verdict_of_sigil l hvariable.sigil, hcode, hname, hplain w hw, ← hrespelled.span_eq]
  rfl

section Fixed

variable (l : Linter) {text fixed : String} {severity : Severity}
  (hchars : (Document.ofString fixed).chars.toList = Casing.fixedChars (l.contextOf text) severity)

include hchars

/-- A name of the fixed text is at a dollar sign of the text. -/
theorem of_diagnosticAt_fixed {severity' : Severity} {k : Nat} {x : Diagnostic}
    (h : diagnosticAt (l.contextOf fixed) severity' k = some x) :
    (Document.ofString text).chars[k]? = some '$' ∧
      x.span.start = Position.origin.after ((Document.ofString text).chars.toList.take k) := by
  have hrespelled := l.respelled_fixed hchars
  obtain ⟨hsigil, hstart⟩ := of_diagnosticAt h
  exact ⟨(hrespelled.some_iff (by decide)).2 hsigil,
    hstart.trans ((hrespelled.take k).after_eq _).symm⟩

theorem filter_clear (severity' : Severity) (n : Nat) :
    ((List.range n).filterMap (diagnosticAt (l.contextOf fixed) severity')).filter
        (·.isClearOf (Casing.fixes (l.contextOf text) severity)) =
      ((List.range n).filterMap (diagnosticAt (l.contextOf text) severity')).filter
        (·.isClearOf (Casing.fixes (l.contextOf text) severity)) := by
  rw [List.filter_filterMap, List.filter_filterMap]
  refine List.filterMap_congr fun k _ => ?_
  by_cases hstarts : Casing.StartsAt (l.contextOf text) severity (k + 1)
  · have hnone : ∀ o : Option Diagnostic,
        (∀ x, o = some x → (Document.ofString text).chars[k]? = some '$' ∧
          x.span.start = Position.origin.after ((Document.ofString text).chars.toList.take k)) →
        o.filter (·.isClearOf (Casing.fixes (l.contextOf text) severity)) = none := by
      intro o ho
      rw [Option.filter_eq_none_iff]
      intro x hx
      obtain ⟨hsigil, hstart⟩ := ho x hx
      obtain ⟨w, hw, f, hf, hbehind, hsome⟩ := hstarts
      obtain ⟨y, hy⟩ := Option.isSome_iff_exists.1 hsome
      have hclear : y.span.start = x.span.start.next := by
        rw [(Casing.fixAt_of_verdict hw hf hy).span_eq, hstart, ← after_sigil hsigil, hbehind]
        rfl
      rw [Bool.not_eq_true, Diagnostic.isClearOf, List.all_eq_false]
      exact ⟨y, Casing.mem_fixes.2 ⟨w, hw, f, hf, hy⟩, by rw [hclear, bne_self_eq_false]; decide⟩
    rw [hnone (diagnosticAt (l.contextOf fixed) severity' k)
        (fun _ => of_diagnosticAt_fixed l hchars),
      hnone (diagnosticAt (l.contextOf text) severity' k) (fun _ => of_diagnosticAt)]
  · rw [diagnosticAt_kept l hchars hstarts]

/-- Right before a fix the fixed text has a name to report where a dollar sign stands. -/
theorem filter_before {y : Diagnostic} (hy : y ∈ Casing.fixes (l.contextOf text) severity)
    {p : Position} (hp : y.span.start = p.next) (severity' : Severity) :
    ((List.range ((Document.ofString fixed).chars.size + 1)).filterMap
        (diagnosticAt (l.contextOf fixed) severity')).filter (fun x => x.span.start == p) =
      if (Document.ofString text).charAt? p = some '$' then
        [.ofMessage Family.naming.id severity' message ⟨p, y.span.stop⟩] else [] := by
  have hrespelled := l.respelled_fixed hchars
  obtain ⟨w, hw, f, hf, hverdict⟩ := Casing.mem_fixes.1 hy
  obtain ⟨-, htypical, rfl⟩ := Casing.verdict_eq_some.1 hverdict
  obtain ⟨e, he, hletter⟩ := Casing.letter_of_found hw hf
  have hfits : f.start ≤ (Document.ofString text).chars.toList.length :=
    (Casing.fixAt_of_verdict hw hf hverdict).start_le
  obtain ⟨k, c, hstart, hc, hne, hplace⟩ := Position.exists_before hfits hp
  rw [Array.getElem?_toList] at hc
  have hat : (Document.ofString text).charAt? p = some c := by
    rw [← hplace]
    refine Document.charAt?_after hc hne fun _ => ⟨e, hstart ▸ he, ?_⟩
    rintro rfl
    exact absurd hletter (by decide)
  rw [hat]
  split
  case isTrue hsigil =>
    obtain rfl := Option.some.inj hsigil
    have hk : k < (Document.ofString text).chars.size := (Array.getElem?_eq_some_iff.1 hc).1
    have hnamed := diagnosticAt_fixed l hchars hw hf hstart hc htypical severity'
    rw [hplace] at hnamed
    rw [List.filter_filterMap]
    refine filterMap_range_single (i := k) (by rw [← hrespelled.size_eq]; omega) ?_ ?_
    · rw [hnamed, Option.filter_some]
      exact if_pos (beq_self_eq_true p)
    · intro j hj
      rw [Option.filter_eq_none_iff]
      intro x hx hstarts
      obtain ⟨hsigil, hposition⟩ := of_diagnosticAt_fixed l hchars hx
      have hj' : j < (Document.ofString text).chars.size := (Array.getElem?_eq_some_iff.1 hsigil).1
      rw [beq_iff_eq.1 hstarts, ← hplace] at hposition
      rw [← Array.length_toList] at hk hj'
      exact hj (Position.ofIndex_inj hk.le hj'.le hposition).symm
  case isFalse hother =>
    rw [List.filter_eq_nil_iff]
    intro x hx hstarts
    obtain ⟨j, -, hj⟩ := List.mem_filterMap.1 hx
    obtain ⟨hsigil, hposition⟩ := of_diagnosticAt_fixed l hchars hj
    have hdollar := charAt?_sigil hsigil
    rw [← hposition, beq_iff_eq.1 hstarts, hat] at hdollar
    exact hother hdollar

end Fixed

end Naming

/-! ## The fixed text -/

theorem BuiltIn.entries_of_compile {strategy : BracketStrategy} {limits : Limits} {t : RuleTable}
    (h : RuleTable.compile { strategy, limits } = .ok t) :
    t.spacers = table.spacers ∧ t.brackets = table.brackets ∧
      t.variablePattern = table.variablePattern := by
  rw [compile_variant] at h
  cases h
  exact ⟨rfl, rfl, rfl⟩

namespace Linter

variable {l : Linter} {text : String} {report : Report}

/-- Other spellings leave the number of lines as it is, and so the families that run. -/
theorem active_respelled (l : Linter) {d₁ d₂ : Document}
    (h : RespelledText d₁.chars.toList d₂.chars.toList) : l.active d₂ = l.active d₁ := by
  refine List.filter_congr fun f _ => ?_
  rw [exceeded?, exceeded?, Document.lineCount_respelled h]

/-- The naming diagnostics of a report, index by index, or none where the family does not run. -/
theorem ofFamily_naming (hnames : l.table.variablePattern = BuiltIn.table.variablePattern)
    (hfamilies : l.families.Nodup) (hplain : l.table.IsPlainIn (.ofString text))
    (hlint : l.lintText text = .ok report) :
    report.ofFamily .naming = if Family.naming ∈ l.active (.ofString text) then
      (List.range ((Document.ofString text).chars.size + 1)).filterMap
        (Naming.diagnosticAt (l.contextOf text) (l.severityOf .naming)) else [] := by
  rw [ofFamily_lint hfamilies hplain hlint, Naming.diagnostics_eq hnames]
  rfl

/-- Either the casing family reports nothing and the text stays as it is, or it has run. -/
theorem fixed_cases (hkeywords : l.table.keywords = BuiltIn.words.map BuiltIn.keyword)
    (hfamilies : l.families.Nodup) (hplain : l.table.IsPlainIn (.ofString text))
    (hlint : l.lintText text = .ok report) {fixed : String}
    (hfixed : fixed = replaceAll (report.ofFamily .casing) text) :
    report.ofFamily .casing = [] ∧ fixed = text ∨
      report.ofFamily .casing = Casing.fixes (l.contextOf text) (l.severityOf .casing) ∧
        (Document.ofString fixed).chars.toList =
          Casing.fixedChars (l.contextOf text) (l.severityOf .casing) := by
  have hfound := ofFamily_casing hkeywords hfamilies hplain hlint
  split at hfound
  · refine .inr ⟨hfound, ?_⟩
    rw [hfixed, hfound, replaceAll]
    exact String.toList_ofList
  · refine .inl ⟨hfound, ?_⟩
    rw [hfixed, hfound, replaceAll, replaceFrom_nil, String.ofList_toList]

end Linter

/-- Casing fixes disturb names only: with the built-in table, any strategy and any limits, the
spacing and bracket diagnostics of the text with all casing fixes applied are those of the text, and
so are, in their order, the diagnostics of names that start nowhere right before a fix.  Right
before a fix, the fixed text has one where there is a dollar sign, and it ends where the fix ends:
a keyword in the spelling of the table is no Hungarian name. -/
theorem casing_fixes_disturb_names_only (l : Linter) (strategy : BracketStrategy)
    (limits : Limits) (htable : RuleTable.compile { strategy, limits } = .ok l.table)
    (hfamilies : l.families.Nodup) (text : String) :
    ∃ report fixed report', l.lintText text = .ok report ∧
      fixed = replaceAll (report.ofFamily .casing) text ∧ l.lintText fixed = .ok report' ∧
      report'.ofFamily .spacing = report.ofFamily .spacing ∧
      report'.ofFamily .brackets = report.ofFamily .brackets ∧
      (report'.ofFamily .naming).filter (·.isClearOf (report.ofFamily .casing)) =
        (report.ofFamily .naming).filter (·.isClearOf (report.ofFamily .casing)) ∧
      ∀ y ∈ report.ofFamily .casing, ∀ p, y.span.start = p.next →
        (report'.ofFamily .naming).filter (fun x => x.span.start == p) =
          if Family.naming ∈ l.active (.ofString text) ∧
              (Document.ofString text).charAt? p = some '$' then
            [.ofMessage Family.naming.id (l.severityOf .naming) Naming.message ⟨p, y.span.stop⟩]
          else [] := by
  obtain ⟨hspacers, hbrackets, hnames⟩ := BuiltIn.entries_of_compile htable
  have hplain := (BuiltIn.isTame_of_compile htable).isPlainIn
  have hlint : ∀ text, ∃ report, l.lintText text = .ok report :=
    fun text => ⟨_, Linter.lint_eq (hplain (.ofString text)) _⟩
  obtain ⟨report, hreport⟩ := hlint text
  obtain ⟨fixed, hfixed⟩ : ∃ fixed, fixed = replaceAll (report.ofFamily .casing) text := ⟨_, rfl⟩
  obtain ⟨report', hreport'⟩ := hlint fixed
  refine ⟨report, fixed, report', hreport, hfixed, hreport', ?_⟩
  rcases Linter.fixed_cases (BuiltIn.keywords_of_compile htable) hfamilies (hplain _) hreport hfixed
    with ⟨hnone, rfl⟩ | ⟨hfound, hchars⟩
  · obtain rfl := Except.ok.inj (hreport.symm.trans hreport')
    exact ⟨rfl, rfl, rfl, fun y hy => absurd (hnone ▸ hy) List.not_mem_nil⟩
  · have hrespelled := l.respelled_fixed hchars
    have hactive := l.active_respelled hrespelled
    have hverdict := (l.isRespelled hrespelled).verdict_eq hspacers hbrackets
    have hnaming := Linter.ofFamily_naming hnames hfamilies (hplain _) hreport
    have hnaming' := Linter.ofFamily_naming hnames hfamilies (hplain _) hreport'
    have hother : ∀ f : Family, f.verdict (l.contextOf fixed) (l.severityOf f) =
        f.verdict (l.contextOf text) (l.severityOf f) → report'.ofFamily f = report.ofFamily f := by
      intro f hf
      rw [Linter.ofFamily_lint hfamilies (hplain _) hreport,
        Linter.ofFamily_lint hfamilies (hplain _) hreport', hactive]
      exact if_congr Iff.rfl (congrArg Findings.diagnostics hf) rfl
    rw [hactive, ← hrespelled.size_eq] at hnaming'
    refine ⟨hother _ (hverdict _).1, hother _ (hverdict _).2, ?_, fun y hy p hp => ?_⟩
    · rw [hnaming, hnaming', hfound]
      split
      · exact Naming.filter_clear l hchars _ _
      · rfl
    · rw [hfound] at hy
      rw [hnaming', ite_and]
      split
      · rw [hrespelled.size_eq]
        exact Naming.filter_before l hchars hy hp _
      · rfl

/-- Of four names one is fixed that was Hungarian and one that was not; the others are as they
were, and so are the sign without a space and the open bracket. -/
theorem casing_fixes_disturb_names_only_four :
    ∃ report report', Linter.standard.lintText "$eOI=($x $EOI\n$sEOI" = .ok report ∧
      replaceAll (report.ofFamily .casing) "$eOI=($x $EOI\n$sEOI" = "$eoi=($x $eoi\n$sEOI" ∧
      Linter.standard.lintText "$eoi=($x $eoi\n$sEOI" = .ok report' ∧
      (report.ofFamily .spacing).length = 1 ∧ (report.ofFamily .brackets).length = 1 ∧
      report'.ofFamily .spacing = report.ofFamily .spacing ∧
      report'.ofFamily .brackets = report.ofFamily .brackets ∧
      (report'.ofFamily .naming).filter (·.isClearOf (report.ofFamily .casing)) =
        (report.ofFamily .naming).filter (·.isClearOf (report.ofFamily .casing)) ∧
      (report'.ofFamily .naming).filter (fun x => x.span.start == ⟨0, 0⟩) =
        [.ofMessage Family.naming.id .warning Naming.message (Span.onRow 0 0 4)] := by
  obtain ⟨report, fixed, report', hreport, hfixed, hreport', hspacing, hbrackets, hclear, hbefore⟩ :=
    casing_fixes_disturb_names_only Linter.standard .heuristic {} BuiltIn.compile_table (by decide)
      "$eOI=($x $EOI\n$sEOI"
  have hrun : (Linter.standard.lintText "$eOI=($x $EOI\n$sEOI").map (fun report =>
      (replaceAll (report.ofFamily .casing) "$eOI=($x $EOI\n$sEOI",
        (report.ofFamily .spacing).length, (report.ofFamily .brackets).length,
        (report.ofFamily .casing).map (·.span))) =
      .ok ("$eoi=($x $eoi\n$sEOI", 1, 1, [Span.onRow 0 1 4, Span.onRow 0 10 13]) := by
    decide +kernel
  rw [hreport] at hrun
  obtain ⟨hreplaced, hspaces, hopen, hspans⟩ :
      _ = _ ∧ _ = _ ∧ _ = _ ∧ _ = _ := by
    simpa only [Except.map, Except.ok.injEq, Prod.mk.injEq] using hrun
  obtain rfl : fixed = "$eoi=($x $eoi\n$sEOI" := hfixed.trans hreplaced
  obtain ⟨y, hy, hspan⟩ : ∃ y ∈ report.ofFamily .casing, y.span = Span.onRow 0 1 4 :=
    List.mem_map.1 (hspans ▸ List.mem_cons_self)
  have hfirst := hbefore y hy ⟨0, 0⟩ (by rw [hspan]; rfl)
  rw [if_pos (by decide +kernel), hspan] at hfirst
  exact ⟨report, report', hreport, hreplaced, hreport', hspaces, hopen, hspacing, hbrackets, hclear,
    hfirst⟩

/-- A Hungarian name is none any more once the keyword in it is put right. -/
theorem casing_fix_breaks_name :
    (Linter.standard.lintText "$eOI").map (fun report =>
        (replaceAll (report.ofFamily .casing) "$eOI", report.ofFamily .naming)) =
      .ok ("$eoi", []) ∧
    (Linter.standard.lintText "$eoi").map (·.ofFamily .naming) =
      .ok [.ofMessage Family.naming.id .warning Naming.message (Span.onRow 0 0 4)] := by
  decide +kernel

end ScopeLint
