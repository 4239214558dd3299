import ScopeLint.Proofs.BuiltIn

/-!
# Variables

The variable pattern of the built-in table matches at each dollar sign with a name behind it, and
takes all of the name.  No name holds a dollar sign, so matches do not get in each other's way: what
is found in a text is told index by index, without regard to the matches before.
-/

namespace ScopeLint

/-! ## Letters and digits -/

namespace Text

theorem forall_ascii {P : Char → Prop} (h : ∀ n < 128, P (Char.ofNat n)) {c : Char}
    (hc : c.toNat < 128) : P c := by
  have hchar := h c.toNat hc
  rwa [Char.ofNat_toNat] at hchar

theorem toNat_lt_of_isAlphanum {c : Char} (h : c.isAlphanum = true) : c.toNat < 128 := by
  rcases Bool.or_eq_true_iff.1 h with hletter | hdigit
  · rcases Bool.or_eq_true_iff.1 hletter with hupper | hlower
    · exact Nat.lt_of_le_of_lt (of_decide_eq_true hupper).2 (by decide)
    · exact Nat.lt_of_le_of_lt (of_decide_eq_true (Bool.and_eq_true_iff.1 hlower).2) (by decide)
  · exact Nat.lt_of_le_of_lt (of_decide_eq_true (Bool.and_eq_true_iff.1 hdigit).2) (by decide)

end Text

/-! ## Matches that do not get in each other's way -/

namespace Pattern

variable {node : Node} {text : Array Char}

/-- The match from an index, if there is one. -/
def Node.foundAt? (node : Node) (text : Array Char) (i : Nat) : Option Found :=
  (node.matchAt? text (outlooks node text) i).map (fun a => ⟨i, a.stop, a.groups⟩)

/-- Is there no empty match, and no match from within another? -/
def Node.IsDisjoint (node : Node) (text : Array Char) : Prop :=
  ∀ i f, node.foundAt? text i = some f →
    i < f.stop ∧ ∀ k, i < k → k < f.stop → node.foundAt? text k = none

/-- Where no match starts within another, a search finds what there is at each index: the indices
within a match have none of their own. -/
theorem search_eq_filterMap (h : node.IsDisjoint text) (i : Nat) (fresh : Bool) :
    search node text i fresh =
      (List.range' i (text.size + 1 - i)).filterMap (node.foundAt? text) := by
  induction hn : text.size + 1 - i using Nat.strong_induction_on generalizing i fresh with
  | h n ih =>
    subst hn
    by_cases hi : text.size < i
    · rw [search_beyond fresh hi, show text.size + 1 - i = 0 by omega]
      rfl
    · rw [show text.size + 1 - i = text.size - i + 1 by omega, List.range'_succ]
      cases hmatch : node.matchAt? text (outlooks node text) i with
      | none =>
        have hnone : node.foundAt? text i = none := by rw [Node.foundAt?, hmatch]; rfl
        rw [search_none fresh hmatch, List.filterMap_cons_none hnone,
          ih (text.size + 1 - (i + 1)) (by omega) (i + 1) true rfl,
          show text.size + 1 - (i + 1) = text.size - i by omega]
      | some a =>
        have hsome : node.foundAt? text i = some ⟨i, a.stop, a.groups⟩ := by
          rw [Node.foundAt?, hmatch]
          rfl
        obtain ⟨hlt, hinside⟩ := h i _ hsome
        replace hlt : i < a.stop := hlt
        have hstop := (matchAt?_within hmatch).2.2
        have hskipped : (List.range' (i + 1) (a.stop - (i + 1))).filterMap (node.foundAt? text) =
            [] := by
          rw [List.filterMap_eq_nil_iff]
          intro k hk
          rw [List.mem_range'_1] at hk
          exact hinside k (by omega) (by simp only; omega)
        have hrange : List.range' (i + 1) (text.size - i) =
            List.range' (i + 1) (a.stop - (i + 1)) ++
              List.range' a.stop (text.size + 1 - a.stop) := by
          have happend := @List.range'_append_1 (i + 1) (a.stop - (i + 1))
            (text.size + 1 - a.stop)
          rw [show i + 1 + (a.stop - (i + 1)) = a.stop by omega] at happend
          rw [happend]
          congr 1
          omega
        rw [search_some fresh hmatch hlt, List.filterMap_cons_some hsome, hrange,
          List.filterMap_append, hskipped, List.nil_append,
          ih (text.size + 1 - a.stop) (by omega) a.stop false rfl]

theorem found_eq_filterMap {p : Pattern} (h : p.node.IsDisjoint text) :
    p.found text = (List.range (text.size + 1)).filterMap (p.node.foundAt? text) := by
  rw [found_eq_search, search_eq_filterMap h, List.range_eq_range']
  rfl

end Pattern

/-! ## The matches of the variable pattern -/

namespace BuiltIn

open Pattern (Node CharSet Found)

variable {text : Array Char} {start stop : Nat}

def variableNode : Node := .seq (.char (.single '$')) (.plus true (.char nameSet))

/-- A dollar sign with a name behind it, which goes on up to `stop` and no further. -/
structure VariableAt (text : Array Char) (start stop : Nat) : Prop where
  sigil : text[start]? = some '$'
  lt : start + 1 < stop
  name : ∀ k, start < k → k < stop → ∃ c, text[k]? = some c ∧ nameSet.has c = true
  ends : ∀ c, text[stop]? = some c → nameSet.has c = false

theorem VariableAt.stop_le {stop' : Nat} (h : VariableAt text start stop)
    (h' : VariableAt text start stop') : stop ≤ stop' := by
  by_contra hlt
  obtain ⟨c, hc, hname⟩ := h.name stop' (by have := h'.lt; omega) (by omega)
  rw [h'.ends c hc] at hname
  cases hname

theorem VariableAt.unique {stop' : Nat} (h : VariableAt text start stop)
    (h' : VariableAt text start stop') : stop = stop' :=
  Nat.le_antisymm (h.stop_le h') (h'.stop_le h)

theorem single_has {x c : Char} : (CharSet.single x).has c = true ↔ c = x := by
  rw [CharSet.single, CharSet.has, Bool.and_eq_true, decide_eq_true_eq, decide_eq_true_eq]
  exact ⟨fun h => Char.le_antisymm h.2 h.1, fun h => h ▸ ⟨Char.le_refl _, Char.le_refl _⟩⟩

theorem nameSet_has (c : Char) : nameSet.has c = c.isAlphanum := by
  have hupper : (CharSet.range 'A' 'Z').has c = c.isUpper := (Bool.decide_and _ _).symm
  have hlower : (CharSet.range 'a' 'z').has c = c.isLower := rfl
  have hdigit : (CharSet.range '0' '9').has c = c.isDigit := rfl
  show (((false || (CharSet.range 'A' 'Z').has c) || (CharSet.range 'a' 'z').has c) ||
    (CharSet.range '0' '9').has c) = ((c.isUpper || c.isLower) || c.isDigit)
  rw [hupper, hlower, hdigit, Bool.false_or]

/-- The characters of names are word characters. -/
theorem isWordChar_of_nameSet {c : Char} (h : nameSet.has c = true) :
    Text.isWordChar c = true := by
  rw [nameSet_has] at h
  exact Text.forall_ascii (P := fun c => c.isAlphanum = true → Text.isWordChar c = true)
    (by decide +kernel) (Text.toNat_lt_of_isAlphanum h) h

/-- The marks of the name are those of its characters. -/
theorem second_isHere (text : Array Char) (i : Nat) :
    (Pattern.view variableNode text i).second.isHere = true ↔
      ∃ c, text[i]? = some c ∧ nameSet.has c = true := by
  have hreads := (Node.reads_view variableNode text).seq_second.rounds
  exact hreads.isHere_iff.trans (and_iff_left rfl)

/-- The marks of the dollar sign are those with a character of names behind it. -/
theorem first_isHere (text : Array Char) (i : Nat) :
    (Pattern.view variableNode text i).first.isHere = true ↔
      text[i]? = some '$' ∧ ∃ c, text[i + 1]? = some c ∧ nameSet.has c = true := by
  have hreads := (Node.reads_view variableNode text).seq_first (.rounds nameSet)
  rw [hreads.isHere_iff, ← second_isHere]
  refine and_congr_left' ?_
  simp only [single_has]
  exact ⟨fun ⟨c, hc, heq⟩ => heq ▸ hc, fun hc => ⟨'$', hc, rfl⟩⟩

theorem matchAt?_of_first {i : Nat}
    (h : (Pattern.view variableNode text i).first.isHere = true) :
    ∃ j, variableNode.matchAt? text (Pattern.outlooks variableNode text) i = some ⟨j, []⟩ ∧
      VariableAt text i j := by
  obtain ⟨hsigil, hnext⟩ := (first_isHere text i).1 h
  have hsimple : variableNode.Simple := .seq (.char _) (.rounds _)
  have hi : i ≤ text.size := Nat.le_of_lt (Array.getElem?_eq_some_iff.1 hsigil).1
  have hmark := (second_isHere text (i + 1)).2 hnext
  obtain ⟨j, hwalk, hlt, hlast, hmarks⟩ :=
    Node.walk_rounds (Node.reads_view variableNode text).seq_second hmark
  refine ⟨j, ?_, hsigil, hlt, fun k hk hkj => ?_, fun c hc => ?_⟩
  · have hcan : variableNode.can (Pattern.Assertion.holds text i)
        (Pattern.view variableNode text i) true = true := h
    have hfirst : (Node.char (.single '$')).walk text
        (fun j => (Pattern.view variableNode text j).first)
        (fun j => (Node.plus true (.char nameSet)).can (Pattern.Assertion.holds text j)
          (Pattern.view variableNode text j).second true) i = ⟨i + 1, []⟩ := by
      rw [Node.walk, if_pos h]
    have hboth : variableNode.walk text (Pattern.view variableNode text) (fun _ => true) i =
        ⟨j, []⟩ := by
      rw [variableNode, Node.walk, ← variableNode, hfirst, hwalk]
      rfl
    rw [Pattern.matchAt?_eq_walk hsimple hi, if_pos hcan, hboth]
  · exact (second_isHere text k).1 (hmarks k hk hkj)
  · rw [← Bool.not_eq_true]
    intro hname
    rw [(second_isHere text j).2 ⟨c, hc, hname⟩] at hlast
    cases hlast

theorem VariableAt.first (h : VariableAt text start stop) :
    (Pattern.view variableNode text start).first.isHere = true :=
  (first_isHere text start).2 ⟨h.sigil, h.name (start + 1) (Nat.lt_succ_self _) h.lt⟩

/-- The match from an index is the variable that starts there. -/
theorem foundAt?_variable {i : Nat} {f : Found} :
    variableNode.foundAt? text i = some f ↔
      f.start = i ∧ f.groups = [] ∧ VariableAt text i f.stop := by
  constructor
  · intro h
    obtain ⟨a, ha, rfl⟩ := Option.map_eq_some_iff.1 h
    have hsimple : variableNode.Simple := .seq (.char _) (.rounds _)
    have hcan := ha
    rw [Pattern.matchAt?_eq_walk hsimple (Pattern.matchAt?_within ha).1] at hcan
    split at hcan
    case isTrue hfirst =>
      obtain ⟨j, hj, hvariable⟩ := matchAt?_of_first hfirst
      obtain rfl := Option.some.inj (ha.symm.trans hj)
      exact ⟨rfl, rfl, hvariable⟩
    case isFalse => cases hcan
  · rintro ⟨rfl, hgroups, hvariable⟩
    obtain ⟨j, hj, hvariable'⟩ := matchAt?_of_first hvariable.first
    obtain rfl := hvariable.unique hvariable'
    rw [Node.foundAt?, hj, ← hgroups]
    rfl

/-- No variable starts within another one, because a dollar sign is no character of names. -/
theorem variableNode_isDisjoint (text : Array Char) : variableNode.IsDisjoint text := by
  intro i f hf
  obtain ⟨-, -, hvariable⟩ := foundAt?_variable.1 hf
  refine ⟨Nat.lt_of_succ_lt hvariable.lt, fun k hk hkf => ?_⟩
  rw [Option.eq_none_iff_forall_ne_some]
  intro g hg
  obtain ⟨-, -, hinside⟩ := foundAt?_variable.1 hg
  obtain ⟨c, hc, hname⟩ := hvariable.name k hk hkf
  rw [hinside.sigil] at hc
  obtain rfl := Option.some.inj hc
  exact absurd hname (by decide)

theorem found_variablePattern (text : Array Char) : table.variablePattern.found text =
    (List.range (text.size + 1)).filterMap (variableNode.foundAt? text) :=
  Pattern.found_eq_filterMap (variableNode_isDisjoint text)

theorem VariableAt.isWord (h : VariableAt text start stop) {m : Nat} (hm : start < m)
    (hlt : m < stop) : Pattern.Assertion.isWord false text[m]? = true := by
  obtain ⟨c, hc, hname⟩ := h.name m hm hlt
  rw [hc]
  exact isWordChar_of_nameSet hname

theorem VariableAt.congr {text' : Array Char} (h : VariableAt text start stop)
    (hsame : ∀ k, start ≤ k → k ≤ stop → text'[k]? = text[k]?) :
    VariableAt text' start stop where
  sigil := by
    rw [hsame start (Nat.le_refl _) (by have := h.lt; omega)]
    exact h.sigil
  lt := h.lt
  name k hk hlt := by
    rw [hsame k (Nat.le_of_lt hk) (Nat.le_of_lt hlt)]
    exact h.name k hk hlt
  ends c hc := by
    rw [hsame stop (by have := h.lt; omega) (Nat.le_refl _)] at hc
    exact h.ends c hc

end BuiltIn

/-! ## Names, index by index -/

namespace Naming

open Pattern (matchOf)

/-- What is reported of the variable that starts at an index, if there is one. -/
def diagnosticAt (ctx : Context) (severity : Severity) (i : Nat) : Option Diagnostic :=
  (BuiltIn.variableNode.foundAt? ctx.document.chars i).bind
    (fun f => verdict ctx severity (matchOf ctx.document.chars f))

theorem diagnostics_eq {ctx : Context}
    (h : ctx.table.variablePattern = BuiltIn.table.variablePattern) (severity : Severity) :
    (Family.naming.verdict ctx severity).diagnostics =
      (List.range (ctx.document.chars.size + 1)).filterMap (diagnosticAt ctx severity) := by
  rw [Family.verdict, Findings.judged, h, Pattern.scan_eq_map, BuiltIn.found_variablePattern,
    List.filterMap_map, List.filterMap_filterMap]
  rfl

/-- A diagnostic of a name starts at its dollar sign. -/
theorem of_diagnosticAt {ctx : Context} {severity : Severity} {i : Nat} {x : Diagnostic}
    (h : diagnosticAt ctx severity i = some x) :
    ctx.document.chars[i]? = some '$' ∧
      x.span.start = Position.origin.after (ctx.document.chars.toList.take i) := by
  obtain ⟨f, hf, hx⟩ := Option.bind_eq_some_iff.1 h
  obtain ⟨rfl, -, hvariable⟩ := BuiltIn.foundAt?_variable.1 hf
  refine ⟨hvariable.sigil, ?_⟩
  rw [verdict] at hx
  split at hx
  · cases hx
    rfl
  · cases hx

end Naming

end ScopeLint
