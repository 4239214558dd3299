import ScopeLint.Proofs.Acceptance
import ScopeLint.Proofs.Alternatives
import ScopeLint.Proofs.KeywordMatches
import ScopeLint.Proofs.Splicing

/-!
# Pairs of brackets in one pattern

The two sides of a pair are put into one pattern by their texts alone, each in a group with a name.
It is shown that this pattern does what the two sides do alone: a match of it is the match of the
opening side wherever that has one, and the match of the closing side elsewhere, and the one group
that took part tells which.
-/

namespace ScopeLint.Pattern

/-! ## The groups of a match -/

theorem Arrival.mem_join {a : Arrival} {name x : String} :
    x ∈ (a.join name).groups ↔ x = name ∨ x ∈ a.groups := by
  unfold join
  split
  case isTrue h =>
    have hname : name ∈ a.groups := by simpa using h
    exact ⟨.inr, fun h => h.elim (fun h => h ▸ hname) id⟩
  case isFalse => exact List.mem_cons

theorem Arrival.mem_closed {a : Arrival} {name : Option String} {x : String} :
    x ∈ (a.closed name).groups ↔ name = some x ∨ x ∈ a.groups := by
  cases name with
  | none => simp [closed]
  | some name => simp [closed, mem_join, eq_comm]

theorem Arrival.mem_followed {here next : Arrival} {x : String} :
    x ∈ (here.followed next).groups ↔ x ∈ here.groups ∨ x ∈ next.groups := by
  have hfold : ∀ (names : List String) (a : Arrival),
      x ∈ (names.foldl Arrival.join a).groups ↔ x ∈ a.groups ∨ x ∈ names := by
    intro names
    induction names with
    | nil => simp
    | cons name names ih =>
      intro a
      rw [List.foldl_cons, ih, mem_join, List.mem_cons, or_assoc, or_left_comm]
  exact hfold next.groups ⟨next.stop, here.groups⟩

/-- On this way the group takes no part. -/
def Way.Avoids (x : String) (w : Way) : Prop :=
  w.Leads (fun here => x ∉ here.groups) (fun _ a => x ∉ a.groups)

section
variable {text : Array Char} {x : String}

/-- A way through a pattern without the group avoids it, if what follows does. -/
theorem Node.seek_avoids {node : Node} (h : x ∉ node.names) {view : Nat → Marks} (id : Nat)
    {next : Way} (hnext : next.Avoids x) : (node.seek text view id next).Avoids x := by
  induction node generalizing view id next with
  | empty => exact hnext
  | char set =>
    intro here made a hhere ha
    simp only [seek] at ha
    split at ha
    · exact hnext ⟨here.stop + 1, here.groups⟩ .empty a hhere ha
    · cases ha
  | assertion a =>
    intro here made b hhere hb
    simp only [seek] at hb
    split at hb
    · exact hnext here made b hhere hb
    · cases hb
  | seq a b iha ihb =>
    rw [names, List.mem_append, not_or] at h
    exact iha h.1 id (ihb h.2 _ hnext)
  | alt a b iha ihb =>
    rw [names, List.mem_append, not_or] at h
    exact ((iha h.1 _ hnext).either true (ihb h.2 _ hnext)).once id
  | group name a ih =>
    rw [names, List.mem_append, not_or, Option.mem_toList] at h
    refine ih h.2 id ?_
    intro here made b hhere hb
    exact hnext (here.closed name) made b
      (fun hx => (Arrival.mem_closed.1 hx).elim h.1 hhere) hb
  | plus greedy a ih =>
    have hround : ∀ w, Way.Avoids x w → (a.seek text view (id + 1) w).Avoids x :=
      fun w hw => ih h (id + 1) hw
    exact hround _ (Way.leads_again id greedy hround hnext _)
  | star greedy a ih =>
    have hround : ∀ w, Way.Avoids x w → (a.seek text view (id + 2) w).Avoids x :=
      fun w hw => ih h (id + 2) hw
    rw [seek]
    split
    · exact ((hround _ (Way.leads_again _ greedy hround hnext _)).either greedy hnext).once id
    · exact Way.leads_again id greedy hround hnext _
  | exactly count a ih =>
    exact Way.leads_copies _ (fun k id w hw => ih h id hw) hnext 0 id count
  | upTo greedy count a ih =>
    exact Way.leads_optionals greedy _ (fun k id w hw => ih h id hw) hnext 0 id count

theorem Node.arrive_avoids {node : Node} (h : x ∉ node.names) (view : Nat → Marks)
    (rest : Nat → Bool) (i : Nat) : x ∉ (node.arrive text view rest i).groups := by
  have hgoal : Way.Avoids x
      (fun here made => if rest here.stop then .arrived here else .stuck made) := by
    intro here made a hhere ha
    simp only at ha
    split at ha
    · cases ha
      exact hhere
    · cases ha
  rw [arrive]
  split
  case h_1 a ha => exact seek_avoids h 0 hgoal ⟨i, []⟩ .empty a List.not_mem_nil ha
  case h_2 => exact List.not_mem_nil

theorem roundsWhile_avoids (more : Nat → Bool) {round : Nat → Arrival}
    (hround : ∀ j, x ∉ (round j).groups) (fuel : Nat) {here : Arrival} (hhere : x ∉ here.groups) :
    x ∉ (roundsWhile more round fuel here).groups := by
  induction fuel generalizing here with
  | zero => exact hhere
  | succ fuel ih =>
    rw [roundsWhile]
    split
    · exact ih fun hx => (Arrival.mem_followed.1 hx).elim hhere (hround _)
    · exact hhere

theorem copiesWhile_avoids (more : Nat → Nat → Bool) {copy : Nat → Nat → Arrival}
    (hcopy : ∀ k j, x ∉ (copy k j).groups) (k left : Nat) {here : Arrival}
    (hhere : x ∉ here.groups) : x ∉ (copiesWhile more copy k left here).groups := by
  induction left generalizing k here with
  | zero => exact hhere
  | succ left ih =>
    rw [copiesWhile]
    split
    · exact ih _ fun hx => (Arrival.mem_followed.1 hx).elim hhere (hcopy _ _)
    · exact hhere

/-- A group that the pattern does not have takes no part in a match. -/
theorem Node.walk_avoids {node : Node} (h : x ∉ node.names) (view : Nat → Marks)
    (rest : Nat → Bool) (i : Nat) : x ∉ (node.walk text view rest i).groups := by
  induction node generalizing view rest i with
  | empty | assertion => exact List.not_mem_nil
  | char set =>
    rw [walk]
    split <;> exact List.not_mem_nil
  | seq a b iha ihb =>
    rw [names, List.mem_append, not_or] at h
    exact fun hx => (Arrival.mem_followed.1 hx).elim (iha h.1 _ _ _) (ihb h.2 _ _ _)
  | alt a b iha ihb =>
    rw [names, List.mem_append, not_or] at h
    rw [walk]
    split
    · exact iha h.1 _ _ _
    · exact ihb h.2 _ _ _
  | group name a ih =>
    rw [names, List.mem_append, not_or, Option.mem_toList] at h
    exact fun hx => (Arrival.mem_closed.1 hx).elim h.1 (ih h.2 _ _ _)
  | star greedy a ih =>
    rw [walk]
    split
    · exact arrive_avoids h _ _ _
    · exact roundsWhile_avoids _ (fun j => ih h _ _ j) _ List.not_mem_nil
  | plus greedy a ih =>
    rw [walk]
    split
    · exact arrive_avoids h _ _ _
    · exact roundsWhile_avoids _ (fun j => ih h _ _ j) _ (ih h _ _ i)
  | exactly count a ih =>
    exact copiesWhile_avoids _ (fun k j => ih h _ _ j) 0 count List.not_mem_nil
  | upTo greedy count a ih =>
    exact copiesWhile_avoids _ (fun k j => ih h _ _ j) 0 count List.not_mem_nil

theorem matchAt?_avoids {node : Node} (h : x ∉ node.names) {i : Nat} {a : Arrival}
    (ha : node.matchAt? text (outlooks node text) i = some a) : x ∉ a.groups := by
  rw [matchAt?_eq_ite node (matchAt?_within ha).1] at ha
  obtain ⟨-, ha⟩ := Option.ite_none_right_eq_some.1 ha
  cases ha
  exact Node.walk_avoids h _ _ _

end

/-- The preferred match that starts at an index, wherever matches before it end. -/
def anchored (p : Pattern) (text : Array Char) (i : Nat) : Option Arrival :=
  p.node.matchAt? text (outlooks p.node text) i

/-- The pattern matches what one of two patterns matches, in a group of its own. -/
structure IsEither (p : Pattern) (one other : Pattern) (first second : String) : Prop where
  names_ne : first ≠ second
  node_eq : p.node = .alt (.group first one.node) (.group second other.node)
  one_avoids : second ∉ one.node.names
  other_avoids : first ∉ other.node.names

namespace IsEither

variable {p one other : Pattern} {first second : String}

/-- At an index the one pattern is tried first and the other one after it, each in its group. -/
theorem anchored_eq (h : IsEither p one other first second) (text : Array Char) (i : Nat) :
    p.anchored text i = ((one.anchored text i).map (·.closed first)).or
      ((other.anchored text i).map (·.closed second)) := by
  unfold anchored
  rw [h.node_eq, matchAt?_alt, matchAt?_group, matchAt?_group]

/-- One of the two groups took part in a match, and its pattern has this match alone. -/
theorem side_of_anchored (h : IsEither p one other first second) {text : Array Char} {i : Nat}
    {a : Arrival} (ha : p.anchored text i = some a) :
    (first ∈ a.groups ∧ second ∉ a.groups ∧
      (one.anchored text i).map Arrival.stop = some a.stop) ∨
    (first ∉ a.groups ∧ second ∈ a.groups ∧ one.anchored text i = none ∧
      (other.anchored text i).map Arrival.stop = some a.stop) := by
  rw [h.anchored_eq, Option.or_eq_some_iff] at ha
  rcases ha with hone | ⟨hnone, hother⟩
  · obtain ⟨b, hb, rfl⟩ := Option.map_eq_some_iff.1 hone
    refine .inl ⟨Arrival.mem_closed.2 (.inl rfl), fun hx => ?_, ?_⟩
    · rcases Arrival.mem_closed.1 hx with hname | hx
      · exact h.names_ne (Option.some.inj hname)
      · exact matchAt?_avoids h.one_avoids hb hx
    · rw [hb, Option.map_some, Arrival.closed_stop]
  · obtain ⟨b, hb, rfl⟩ := Option.map_eq_some_iff.1 hother
    refine .inr ⟨fun hx => ?_, Arrival.mem_closed.2 (.inl rfl), Option.map_eq_none_iff.1 hnone, ?_⟩
    · rcases Arrival.mem_closed.1 hx with hname | hx
      · exact h.names_ne (Option.some.inj hname).symm
      · exact matchAt?_avoids h.other_avoids hb hx
    · rw [hb, Option.map_some, Arrival.closed_stop]

end IsEither

end ScopeLint.Pattern

namespace ScopeLint.RuleTable

theorem getElem?_of_compileAll {α β : Type} {compile : Nat → α → Except LintError β}
    {index : Nat} {entries : List α} {compiled : List β}
    (h : compileAll compile index entries = .ok compiled) {k : Nat} {a : α}
    (hk : entries[k]? = some a) :
    ∃ b, compile (index + k) a = .ok b ∧ compiled[k]? = some b := by
  induction entries generalizing index compiled k with
  | nil => cases hk
  | cons entry rest ih =>
    obtain ⟨first, hfirst, h⟩ := bind_eq_ok.1 h
    obtain ⟨others, hothers, h⟩ := bind_eq_ok.1 h
    cases h
    cases k with
    | zero =>
      cases hk
      exact ⟨first, hfirst, rfl⟩
    | succ k =>
      obtain ⟨b, hb, hcompiled⟩ := ih hothers hk
      exact ⟨b, by rwa [Nat.add_right_comm, Nat.add_assoc] at hb, hcompiled⟩

theorem exists_of_discard {origin : Origin} {source : String}
    (h : discard (Pattern.compile origin false source) = .ok ()) :
    ∃ p, Pattern.compile origin false source = .ok p := by
  cases hcompile : Pattern.compile origin false source with
  | error e =>
    rw [hcompile] at h
    cases h
  | ok p => exact ⟨p, rfl⟩

/-- Of an accepted pair both sides compile alone. -/
theorem sides_of_compilePair {index : Nat} {pair : BracketSpec} {both : Pattern}
    (h : compilePair index pair = .ok both) :
    ∃ opening closing,
      Pattern.compile (.bracketPair index) false pair.opening = .ok opening ∧
      Pattern.compile (.bracketPair index) false pair.closing = .ok closing ∧
      Pattern.compile (.bracketPair index) false (pairSource pair) = .ok both := by
  obtain ⟨-, -, h⟩ := bind_eq_ok.1 h
  obtain ⟨-, -, h⟩ := bind_eq_ok.1 h
  obtain ⟨_, hopening, h⟩ := bind_eq_ok.1 h
  obtain ⟨_, hclosing, h⟩ := bind_eq_ok.1 h
  obtain ⟨opening, hopening⟩ := exists_of_discard hopening
  obtain ⟨closing, hclosing⟩ := exists_of_discard hclosing
  exact ⟨opening, closing, hopening, hclosing, h⟩

theorem read?_of_compile {origin : Origin} {ignoreCase : Bool} {source : String} {p : Pattern}
    (h : Pattern.compile origin ignoreCase source = .ok p) :
    Pattern.Node.read? ignoreCase source.toList = some p.node := by
  unfold Pattern.compile at h
  split at h
  case h_1 node hread =>
    split at h
    · cases h
      exact hread
    · cases h
  case h_2 => cases h

open Pattern (IsName endsSpaced eitherText IsEither)

theorem toList_pairSource (pair : BracketSpec) :
    (pairSource pair).toList =
      eitherText ['o', 'p', 'e', 'n'] ['c', 'l', 'o', 's', 'e'] pair.opening.toList
        pair.closing.toList := by
  have hsource : ∀ front middle back : String,
      front.toList = ['(', '?', 'P', '<', 'o', 'p', 'e', 'n', '>'] →
      middle.toList = [')', '|', '(', '?', 'P', '<', 'c', 'l', 'o', 's', 'e', '>'] →
      back.toList = [')'] →
      (front ++ pair.opening ++ middle ++ pair.closing ++ back).toList =
        eitherText ['o', 'p', 'e', 'n'] ['c', 'l', 'o', 's', 'e'] pair.opening.toList
          pair.closing.toList := by
    intro front middle back hfront hmiddle hback
    simp only [String.toList_append, hfront, hmiddle, hback, eitherText, List.append_assoc,
      List.cons_append, List.nil_append]
  exact hsource _ _ _ (by decide) (by decide) (by decide)

theorem isName_open : IsName ['o', 'p', 'e', 'n'] :=
  ⟨'o', _, rfl, by decide, by decide +kernel⟩

theorem isName_close : IsName ['c', 'l', 'o', 's', 'e'] :=
  ⟨'c', _, rfl, by decide, by decide +kernel⟩

/-- The pattern of an accepted pair matches what one of its sides matches, in the group of that
side, as long as neither side passes over blanks and comments at its end. -/
theorem isEither_of_compilePair {index : Nat} {pair : BracketSpec} {opening closing both : Pattern}
    (hopening : Pattern.compile (.bracketPair index) false pair.opening = .ok opening)
    (hclosing : Pattern.compile (.bracketPair index) false pair.closing = .ok closing)
    (hboth : Pattern.compile (.bracketPair index) false (pairSource pair) = .ok both)
    (hopen : endsSpaced pair.opening.toList = false)
    (hclose : endsSpaced pair.closing.toList = false) :
    both.IsEither opening closing "open" "close" := by
  have hread := read?_of_compile hboth
  rw [toList_pairSource] at hread
  obtain ⟨hnode, ha, hb⟩ := Pattern.read?_eitherText isName_open isName_close
    (read?_of_compile hopening) (read?_of_compile hclosing) hopen hclose hread
  exact ⟨by decide, hnode, ha.2, hb.1⟩

end ScopeLint.RuleTable

namespace ScopeLint

theorem Match.hasGroup_iff {m : Match} {name : String} :
    m.hasGroup name = true ↔ name ∈ m.groups := List.contains_iff_mem

theorem Match.hasGroup_eq_false_iff {m : Match} {name : String} :
    m.hasGroup name = false ↔ name ∉ m.groups := by
  rw [← hasGroup_iff, Bool.not_eq_true]

/-- A pair of brackets that is accepted, with sides that do not pass over blanks and comments at
their ends, does what its sides do alone.  Each side is a pattern by itself, and at each index of a
text the pattern of the pair matches what the opening side matches there, or else what the closing
side matches there, with no group more than the one that names the side.  So every match of it has
exactly one of the two groups.  With the group of the opening side it ends where the match of that
side ends; otherwise the opening side does not match there, and it ends where the match of the
closing side ends. -/
theorem pair_matches_side {spec : TableSpec} {t : RuleTable} (h : RuleTable.compile spec = .ok t)
    {index : Nat} {pair : BracketSpec} (hpair : spec.brackets[index]? = some pair)
    (hopen : Pattern.endsSpaced pair.opening.toList = false)
    (hclose : Pattern.endsSpaced pair.closing.toList = false) :
    ∃ opening closing both : Pattern,
      Pattern.compile (.bracketPair index) false pair.opening = .ok opening ∧
      Pattern.compile (.bracketPair index) false pair.closing = .ok closing ∧
      t.brackets[index]? = some both ∧ both.source = RuleTable.pairSource pair ∧
      (∀ text i, both.anchored text i = ((opening.anchored text i).map (·.closed "open")).or
        ((closing.anchored text i).map (·.closed "close"))) ∧
      ∀ (d : Document), ∀ m ∈ both.scan d, (m.hasGroup "open" = !m.hasGroup "close") ∧
        ∃ before inside behind, d.chars.toList = before ++ inside ++ behind ∧
          m.Spans before inside ∧
          if m.hasGroup "open" then
            (opening.anchored d.chars before.length).map (·.stop) = some (before ++ inside).length
          else
            opening.anchored d.chars before.length = none ∧
            (closing.anchored d.chars before.length).map (·.stop) =
              some (before ++ inside).length := by
  obtain ⟨-, -, hbrackets, -⟩ := RuleTable.compile_eq_ok h
  obtain ⟨both, hcompile, hboth⟩ := RuleTable.getElem?_of_compileAll hbrackets hpair
  rw [Nat.zero_add] at hcompile
  obtain ⟨opening, closing, hopening, hclosing, hsource⟩ := RuleTable.sides_of_compilePair hcompile
  have heither := RuleTable.isEither_of_compilePair hopening hclosing hsource hopen hclose
  refine ⟨opening, closing, both, hopening, hclosing, hboth, RuleTable.source_of_compile hsource,
    heither.anchored_eq, fun d m hm => ?_⟩
  rw [Pattern.scan_eq_map] at hm
  obtain ⟨f, hf, rfl⟩ := List.mem_map.1 hm
  obtain ⟨before, inside, behind, hcut, hstart, hstop, hspans⟩ := Pattern.exists_stretch_of_found hf
  rw [Pattern.found_eq_search] at hf
  have hmatch : both.anchored d.chars before.length =
      some ⟨(before ++ inside).length, f.groups⟩ := by
    rw [← hstart, ← hstop]
    exact Pattern.matchAt?_of_mem_search hf
  obtain ⟨hfirst, hlast, hspan, htext⟩ := hspans
  rcases heither.side_of_anchored hmatch with ⟨hin, hout, hside⟩ | ⟨hout, hin, hnone, hside⟩
  · have hopened : (Pattern.matchOf d.chars f).hasGroup "open" = true := Match.hasGroup_iff.2 hin
    have hclosed : (Pattern.matchOf d.chars f).hasGroup "close" = false :=
      Match.hasGroup_eq_false_iff.2 hout
    refine ⟨by rw [hopened, hclosed]; rfl, before, inside, behind, hcut,
      ⟨hfirst, hlast, hspan, htext⟩, ?_⟩
    rw [if_pos hopened]
    exact hside
  · have hopened : (Pattern.matchOf d.chars f).hasGroup "open" = false :=
      Match.hasGroup_eq_false_iff.2 hout
    have hclosed : (Pattern.matchOf d.chars f).hasGroup "close" = true := Match.hasGroup_iff.2 hin
    refine ⟨by rw [hopened, hclosed]; rfl, before, inside, behind, hcut,
      ⟨hfirst, hlast, hspan, htext⟩, ?_⟩
    rw [hopened, if_neg Bool.false_ne_true]
    exact ⟨hnone, hside⟩

/-- Where comments are passed over at the end of the opening side, the closing side can end up in
one, and its group is lost. -/
example : Pattern.Node.read? false (RuleTable.pairSource ⟨"(?x)a#", "(?x)#\n"⟩).toList =
    some (.group (some "open") (.char (.letter .asWritten 'a'))) := by
  decide +kernel

/-- A table with one pair, whose sides have alternatives, flags and groups of their own. -/
def TableSpec.nested : TableSpec where
  keywords := []
  spacers := []
  brackets := [⟨"ab|(?U)c+(?x: d # e\n)", "(?P<x>f)+|gh|\\p{Pf}"⟩]
  variablePattern := "v"

theorem TableSpec.isSound_nested : nested.IsSound where
  keywords _ h := absurd h List.not_mem_nil
  spacers _ h := absurd h List.not_mem_nil
  brackets pair h := by
    obtain rfl := List.mem_singleton.1 h
    exact ⟨by decide, by decide +kernel, by decide +kernel, by decide +kernel⟩
  variablePattern := ⟨by decide, by decide +kernel⟩

/-- The flag of the opening side does not change the greed of the closing side, which is found as it
is alone. -/
theorem pair_matches_side_nested :
    Pattern.endsSpaced "ab|(?U)c+(?x: d # e\n)".toList = false ∧
    Pattern.endsSpaced "(?P<x>f)+|gh|\\p{Pf}".toList = false ∧
    ∃ t opening closing both, RuleTable.compile .nested = .ok t ∧
      Pattern.compile (.bracketPair 0) false "ab|(?U)c+(?x: d # e\n)" = .ok opening ∧
      Pattern.compile (.bracketPair 0) false "(?P<x>f)+|gh|\\p{Pf}" = .ok closing ∧
      t.brackets[0]? = some both ∧
      both.anchored #['f', 'f'] 0 = some ⟨2, ["close", "x"]⟩ ∧
      ∀ (d : Document), ∀ m ∈ both.scan d, m.hasGroup "open" = !m.hasGroup "close" := by
  have hopen : Pattern.endsSpaced "ab|(?U)c+(?x: d # e\n)".toList = false := by decide +kernel
  have hclose : Pattern.endsSpaced "(?P<x>f)+|gh|\\p{Pf}".toList = false := by decide +kernel
  obtain ⟨t, h⟩ := RuleTable.exists_compile_iff.2 TableSpec.isSound_nested
  obtain ⟨opening, closing, both, hopening, hclosing, hboth, -, hanchored, hside⟩ :=
    pair_matches_side h (show TableSpec.nested.brackets[0]? = some _ from rfl) hopen hclose
  refine ⟨hopen, hclose, t, opening, closing, both, h, hopening, hclosing, hboth, ?_,
    fun d m hm => (hside d m hm).1⟩
  have hnone : (Pattern.Node.read? false "ab|(?U)c+(?x: d # e\n)".toList).map (fun node =>
      node.matchAt? #['f', 'f'] (Pattern.outlooks node #['f', 'f']) 0) = some none := by
    decide +kernel
  have hsome : (Pattern.Node.read? false "(?P<x>f)+|gh|\\p{Pf}".toList).map (fun node =>
      node.matchAt? #['f', 'f'] (Pattern.outlooks node #['f', 'f']) 0) =
        some (some ⟨2, ["x"]⟩) := by
    decide +kernel
  rw [RuleTable.read?_of_compile hopening] at hnone
  rw [RuleTable.read?_of_compile hclosing] at hsome
  rw [hanchored, show opening.anchored _ 0 = none from Option.some.inj hnone,
    show closing.anchored _ 0 = some ⟨2, ["x"]⟩ from Option.some.inj hsome]
  rfl

end ScopeLint
