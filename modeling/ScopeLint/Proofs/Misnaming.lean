import ScopeLint.Proofs.Acceptance
import ScopeLint.Proofs.Capitals
import ScopeLint.Proofs.FixedNames

/-!
# Which names are reported

A variable is a dollar sign with a run of ASCII letters and digits behind it.  The name is the whole
run, and capitals are told letter by letter, so a name is Hungarian exactly when it holds a capital
and does not begin with one.  A dollar sign is no character of names: in code it is never part of a
word or a number, and no variable runs over the start of another.  So the reported names are read
off the text, dollar sign by dollar sign.
-/

namespace ScopeLint

open Pattern (matchOf)
open BuiltIn (VariableAt nameSet_has)

/-! ## Hungarian names -/

theorem Text.isCapital_alphanum {c : Char} (h : c.isAlphanum = true) : isCapital c = c.isUpper :=
  forall_ascii (P := fun c => isCapital c = c.isUpper) (by decide +kernel) (toNat_lt_of_isAlphanum h)

namespace Naming

/-- Of a name of letters and digits only the capitals A to Z count. -/
theorem isHungarian_eq {name : List Char} (h : ∀ c ∈ name, c.isAlphanum = true) :
    isHungarian name = (!name.head?.any Char.isUpper && name.any Char.isUpper) := by
  have hany : name.any Text.isCapital = name.any Char.isUpper := by
    rw [Bool.eq_iff_iff, List.any_eq_true, List.any_eq_true]
    exact exists_congr fun c => and_congr_right fun hc => by rw [Text.isCapital_alphanum (h c hc)]
  rw [isHungarian_eq_capitals, hany]
  cases name with
  | nil => rfl
  | cons c rest =>
    rw [List.head?_cons, Option.any_some, Option.any_some,
      Text.isCapital_alphanum (h c List.mem_cons_self)]

/-! ## Names behind dollar signs -/

/-- The letters and digits behind an index, as far as they go. -/
def nameBehind (cs : List Char) (k : Nat) : List Char := (cs.drop (k + 1)).takeWhile Char.isAlphanum

theorem isAlphanum_of_mem {cs : List Char} {k : Nat} {c : Char} (h : c ∈ nameBehind cs k) :
    c.isAlphanum = true :=
  List.all_eq_true.1 List.all_takeWhile c h

theorem nameBehind_eq_take (cs : List Char) (k : Nat) :
    nameBehind cs k = (cs.drop (k + 1)).take (nameBehind cs k).length :=
  List.prefix_iff_eq_take.1 (List.takeWhile_prefix _)

/-- Behind the name stands what is no part of it. -/
theorem getElem?_behind {text : Array Char} {k j : Nat} (h : k < j) :
    text[j]? = (nameBehind text.toList k ++
      (text.toList.drop (k + 1)).dropWhile Char.isAlphanum)[j - (k + 1)]? := by
  rw [nameBehind, List.takeWhile_append_dropWhile, List.getElem?_drop,
    Nat.add_sub_cancel' (Nat.succ_le_of_lt h), Array.getElem?_toList]

theorem not_isAlphanum_behind {text : Array Char} {k : Nat} {c : Char}
    (h : text[k + 1 + (nameBehind text.toList k).length]? = some c) : c.isAlphanum = false := by
  have hhead := List.head?_dropWhile_not Char.isAlphanum (text.toList.drop (k + 1))
  have hlt : k < k + 1 + (nameBehind text.toList k).length := by omega
  rw [getElem?_behind hlt, Nat.add_sub_cancel_left,
    List.getElem?_append_right (Nat.le_refl _), Nat.sub_self, ← List.head?_eq_getElem?] at h
  rw [h] at hhead
  exact hhead

theorem variableAt_nameBehind {text : Array Char} {k : Nat} (hsigil : text[k]? = some '$')
    (hname : nameBehind text.toList k ≠ []) :
    VariableAt text k (k + 1 + (nameBehind text.toList k).length) := by
  have hpos := List.length_pos_iff.2 hname
  refine ⟨hsigil, by omega, fun j hj hlt => ?_, fun c hc => ?_⟩
  · have hk : j - (k + 1) < (nameBehind text.toList k).length := by omega
    refine ⟨(nameBehind text.toList k)[j - (k + 1)], ?_, ?_⟩
    · rw [getElem?_behind hj, List.getElem?_append_left hk, List.getElem?_eq_getElem hk]
    · rw [nameSet_has]
      exact isAlphanum_of_mem (List.getElem_mem hk)
  · rw [nameSet_has]
    exact not_isAlphanum_behind hc

theorem nameBehind_ne_nil {text : Array Char} {k stop : Nat} (h : VariableAt text k stop) :
    nameBehind text.toList k ≠ [] := by
  intro hempty
  obtain ⟨c, hc, hhas⟩ := h.name (k + 1) (Nat.lt_succ_self k) h.lt
  have hnone : c.isAlphanum = false := by
    apply not_isAlphanum_behind
    rw [hempty]
    exact hc
  rw [nameSet_has, hnone] at hhas
  cases hhas

end Naming

/-- The place in code of a dollar sign whose name begins with a capital or holds none. -/
def Linter.IsMisnamedAt (l : Linter) (text : String) (k : Nat) : Prop :=
  text.toList[k]? = some '$' ∧
    Scope.isTypical ((l.lexical (.ofString text)).pathAt (.ofIndex text.toList k)) = true ∧
    Naming.nameBehind text.toList k ≠ [] ∧
    ((Naming.nameBehind text.toList k).head?.any Char.isUpper = true ∨
      (Naming.nameBehind text.toList k).any Char.isUpper = false)

instance (l : Linter) (text : String) (k : Nat) : Decidable (l.IsMisnamedAt text k) :=
  inferInstanceAs (Decidable (_ ∧ _ ∧ _ ∧ _))

namespace Naming

/-- The span of a dollar sign and the name behind it. -/
def spanAt (cs : List Char) (k : Nat) : Span :=
  ⟨.ofIndex cs k, .ofIndex cs (k + 1 + (nameBehind cs k).length)⟩

theorem text_matchOf (text : Array Char) (k : Nat) :
    (matchOf text ⟨k, k + 1 + (nameBehind text.toList k).length, []⟩).text.toList.drop 1 =
      nameBehind text.toList k := by
  have htext : (matchOf text ⟨k, k + 1 + (nameBehind text.toList k).length, []⟩).text.toList =
      (text.extract k (k + 1 + (nameBehind text.toList k).length)).toList := String.toList_ofList
  rw [htext, drop_extract, Array.toList_extract, List.extract, Nat.add_sub_cancel_left,
    ← nameBehind_eq_take]

/-- What is reported at an index can be read off the text behind it. -/
theorem diagnosticAt_eq (l : Linter) (text : String) (severity : Severity) (k : Nat) :
    diagnosticAt (l.contextOf text) severity k =
      if l.IsMisnamedAt text k then
        some (.ofMessage Family.naming.id severity message (spanAt text.toList k))
      else none := by
  have hget : (Document.ofString text).chars[k]? = text.toList[k]? := List.getElem?_toArray
  show (BuiltIn.variableNode.foundAt? (Document.ofString text).chars k).bind _ = _
  by_cases hvariable : text.toList[k]? = some '$' ∧ nameBehind text.toList k ≠ []
  · obtain ⟨hsigil, hname⟩ := hvariable
    rw [← hget] at hsigil
    have hfound : BuiltIn.variableNode.foundAt? (Document.ofString text).chars k =
        some ⟨k, k + 1 + (nameBehind text.toList k).length, []⟩ :=
      BuiltIn.foundAt?_variable.2 ⟨rfl, rfl, variableAt_nameBehind hsigil hname⟩
    have hreported : (Scope.isTypical ((l.lexical (.ofString text)).pathAt
          (.ofIndex text.toList k)) && !isHungarian (nameBehind text.toList k)) = true ↔
        l.IsMisnamedAt text k := by
      rw [isHungarian_eq (fun c hc => isAlphanum_of_mem hc)]
      simp [Linter.IsMisnamedAt, ← hget, hsigil, hname]
    have hread : (matchOf (Document.ofString text).chars
        ⟨k, k + 1 + (nameBehind text.toList k).length, []⟩).text.toList.drop 1 =
          nameBehind text.toList k := text_matchOf (Document.ofString text).chars k
    rw [hfound, Option.bind_some]
    show verdict (l.contextOf text) severity (matchOf (Document.ofString text).chars _) = _
    rw [verdict_of_sigil l hsigil, hread]
    simp only [← hreported]
    rfl
  · have hfound : BuiltIn.variableNode.foundAt? (Document.ofString text).chars k = none := by
      rw [Option.eq_none_iff_forall_ne_some]
      intro f hf
      obtain ⟨-, -, hat⟩ := BuiltIn.foundAt?_variable.1 hf
      exact hvariable ⟨hget ▸ hat.sigil, nameBehind_ne_nil hat⟩
    rw [hfound, if_neg (fun h => hvariable ⟨h.1, h.2.2.1⟩)]
    rfl

theorem cut_at_sigil {cs : List Char} {k : Nat} (h : cs[k]? = some '$') :
    cs = cs.take k ++ '$' :: nameBehind cs k ++ (cs.drop (k + 1)).dropWhile Char.isAlphanum := by
  obtain ⟨hk, hchar⟩ := List.getElem?_eq_some_iff.1 h
  have hdrop : cs.drop k = '$' :: cs.drop (k + 1) := by
    rw [List.drop_eq_getElem_cons hk, hchar]
  rw [List.append_assoc, List.cons_append, nameBehind, List.takeWhile_append_dropWhile, ← hdrop,
    List.take_append_drop]

/-- The span covers the dollar sign and the name. -/
theorem textIn_spanAt {d : Document} {k : Nat} (hsigil : d.chars.toList[k]? = some '$')
    (hname : nameBehind d.chars.toList k ≠ []) :
    d.textIn (spanAt d.chars.toList k) =
      .ok (some (String.ofList ('$' :: nameBehind d.chars.toList k))) := by
  have hcut := cut_at_sigil hsigil
  have hlength : (d.chars.toList.take k ++ '$' :: nameBehind d.chars.toList k).length =
      k + 1 + (nameBehind d.chars.toList k).length := by
    have hk := (List.getElem?_eq_some_iff.1 hsigil).1
    rw [List.length_append, List.length_take, List.length_cons]
    omega
  have hstop : d.chars.toList.take (k + 1 + (nameBehind d.chars.toList k).length) =
      d.chars.toList.take k ++ '$' :: nameBehind d.chars.toList k :=
    (congrArg (List.take _) hcut).trans (List.take_left' hlength)
  unfold spanAt Position.ofIndex
  rw [hstop]
  apply Document.textIn_cut hcut
  · rintro ⟨-, hbehind | hbehind⟩
    · cases hbehind
    · exact absurd (Option.some.inj hbehind) (by decide)
  · rintro ⟨hlast, -⟩
    have hreturn : '\r' ∈ nameBehind d.chars.toList k := by
      rw [List.append_cons, List.getLast?_append_of_ne_nil _ hname] at hlast
      exact List.mem_of_getLast? hlast
    exact absurd (isAlphanum_of_mem hreturn) (by decide)

end Naming

/-- Names are reported exactly.  With the built-in table, the naming diagnostics of a text stand one
for one and in order for the dollar signs in code with a letter or digit behind them, where the run
of letters and digits begins with a capital or holds none.  Each covers the dollar sign and that
run. -/
theorem names_reported_exactly (l : Linter) (htable : RuleTable.compile {} = .ok l.table)
    (hfamilies : l.families.Nodup) (hnaming : .naming ∈ l.families) (text : String) :
    ∃ report, l.lintText text = .ok report ∧
      report.ofFamily .naming =
        ((List.range text.length).filter (fun k => l.IsMisnamedAt text k)).map (fun k =>
          .ofMessage Family.naming.id (l.severityOf .naming) Naming.message
            (Naming.spanAt text.toList k)) ∧
      ∀ k, l.IsMisnamedAt text k →
        (Document.ofString text).textIn (Naming.spanAt text.toList k) =
          .ok (some (String.ofList ('$' :: Naming.nameBehind text.toList k))) := by
  have hplain : l.table.IsPlainIn (.ofString text) :=
    (BuiltIn.isTame_of_compile htable).isPlainIn _
  obtain ⟨-, -, hnames⟩ := BuiltIn.entries_of_compile htable
  have hactive : Family.naming ∈ l.active (.ofString text) := by
    refine Linter.mem_active.2 ⟨hnaming, ?_⟩
    rw [Linter.exceeded?, (RuleTable.keeps_of_compile htable).limits]
    rfl
  refine ⟨_, Linter.lint_eq hplain _, ?_, fun k h => Naming.textIn_spanAt h.1 h.2.2.1⟩
  have hat : Naming.diagnosticAt (l.contextOf text) (l.severityOf .naming) = fun k =>
      if l.IsMisnamedAt text k then some (Diagnostic.ofMessage Family.naming.id
        (l.severityOf .naming) Naming.message (Naming.spanAt text.toList k)) else none :=
    funext fun k => Naming.diagnosticAt_eq l text _ k
  have hend : ¬ l.IsMisnamedAt text text.length := by
    rintro ⟨hsigil, -⟩
    rw [← String.length_toList, List.getElem?_length] at hsigil
    cases hsigil
  have hsize : (Document.ofString text).chars.size = text.length := String.length_toList
  have hrange : (List.range (text.length + 1)).filter (fun k => l.IsMisnamedAt text k) =
      (List.range text.length).filter (fun k => l.IsMisnamedAt text k) := by
    rw [List.range_succ, List.filter_append, List.filter_singleton, decide_eq_false hend,
      cond_false, List.append_nil]
  rw [Linter.ofFamily_naming hnames hfamilies hplain (Linter.lint_eq hplain _), if_pos hactive,
    hat, hsize, ← hrange, ← List.filterMap_eq_map, List.filterMap_filter]
  simp only [Function.comp_apply, decide_eq_true_eq]

/-- A capital at the start and no capital at all are reported, behind another variable as well. -/
theorem names_reported_exactly_twice :
    ∃ report, Linter.lintText { table := BuiltIn.table } "$Ab$x1+$aB" = .ok report ∧
      (report.ofFamily .naming).map (·.span) =
        [⟨⟨0, 0⟩, ⟨0, 3⟩⟩, ⟨⟨0, 3⟩, ⟨0, 6⟩⟩] := by
  obtain ⟨report, hlint, hnames, -⟩ := names_reported_exactly { table := BuiltIn.table }
    BuiltIn.compile_table (by decide) (by decide) "$Ab$x1+$aB"
  refine ⟨report, hlint, ?_⟩
  have hplaces : (List.range "$Ab$x1+$aB".length).filter (fun k =>
      Linter.IsMisnamedAt { table := BuiltIn.table } "$Ab$x1+$aB" k) = [0, 3] := by
    decide +kernel
  rw [hnames, hplaces]
  decide +kernel

end ScopeLint
