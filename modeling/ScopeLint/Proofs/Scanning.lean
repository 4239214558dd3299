import Mathlib.Data.List.Basic
import ScopeLint.Pattern
import ScopeLint.Proofs.Coordinates

/-!
# Scanning stays in the text

Every mark on a character of a pattern belongs to an index of the text, so no way through a pattern
leaves the text.  From this the matches of a scan are stretches of the text, one behind the other,
and their offsets and positions are those of the cuts at both ends.  Nothing is said here of what
the stretches hold.
-/

namespace ScopeLint.Pattern

/-- The marks at an index, as scanning sees them. -/
def view (node : Node) (text : Array Char) (i : Nat) : Marks :=
  ((outlooks node text)[i]?.map Outlook.steps).getD .none

/-- The marks at an index follow from the marks that may have been matched just before the next. -/
def stepsFrom (node : Node) (text : Array Char) (i : Nat) (after : Marks) : Marks :=
  match text[i]? with
  | some c => node.take c after
  | none => .none

theorem outlooksBelow_succ (node : Node) (text : Array Char) (i : Nat) (after : Marks)
    (done : List Outlook) :
    outlooksBelow node text (i + 1) after done =
      let steps := stepsFrom node text i after
      let swept := node.sweep (Assertion.holds text i) steps true
      outlooksBelow node text i swept.2 (⟨swept.1, steps⟩ :: done) := rfl

theorem outlooksBelow_append (node : Node) (text : Array Char) (n : Nat) (after : Marks)
    (done : List Outlook) :
    ∃ front, front.length = n ∧ outlooksBelow node text n after done = front ++ done := by
  induction n generalizing after done with
  | zero => exact ⟨[], rfl, rfl⟩
  | succ i ih =>
    rw [outlooksBelow_succ]
    obtain ⟨front, hlength, hfront⟩ := ih _ _
    exact ⟨front ++ [_], by simp [hlength], by rw [hfront, List.append_cons]⟩

/-- What the outlook at an index says, given the marks behind it. -/
structure Outlook.Follows (o : Outlook) (node : Node) (text : Array Char) (i : Nat)
    (after : Marks) : Prop where
  steps_eq : o.steps = stepsFrom node text i after
  opens_eq : o.opens = (node.sweep (Assertion.holds text i) o.steps true).1

/-- Outlooks are made from the end of the text backwards, each from the marks behind its index. -/
theorem outlooksBelow_follows (node : Node) (text : Array Char) (n : Nat) (after : Marks)
    (done : List Outlook) (i : Nat) (hi : i < n) :
    ∃ o, (outlooksBelow node text n after done)[i]? = some o ∧
      ((i + 1 = n ∧ o.Follows node text i after) ∨
        ∃ next, (outlooksBelow node text n after done)[i + 1]? = some next ∧
          o.Follows node text i (node.sweep (Assertion.holds text (i + 1)) next.steps true).2) := by
  induction n generalizing after done with
  | zero => omega
  | succ n ih =>
    rw [outlooksBelow_succ]
    set steps := stepsFrom node text n after
    set swept := node.sweep (Assertion.holds text n) steps true
    obtain ⟨front, hlength, hfront⟩ :=
      outlooksBelow_append node text n swept.2 (⟨swept.1, steps⟩ :: done)
    have hlast : (outlooksBelow node text n swept.2 (⟨swept.1, steps⟩ :: done))[n]? =
        some ⟨swept.1, steps⟩ := by
      rw [hfront, List.getElem?_append_right (by omega)]
      simp [hlength]
    by_cases hlt : i < n
    · obtain ⟨o, ho, ⟨rfl, hfollows⟩ | hnext⟩ := ih swept.2 (⟨swept.1, steps⟩ :: done) hlt
      · exact ⟨o, ho, .inr ⟨_, hlast, hfollows⟩⟩
      · exact ⟨o, ho, .inr hnext⟩
    · obtain rfl : i = n := by omega
      exact ⟨_, hlast, .inl ⟨rfl, rfl, rfl⟩⟩

theorem outlooks_size (node : Node) (text : Array Char) :
    (outlooks node text).size = text.size + 1 := by
  obtain ⟨front, hlength, hfront⟩ := outlooksBelow_append node text (text.size + 1) .none []
  simp [outlooks, hfront, hlength]

theorem view_beyond {node : Node} {text : Array Char} {i : Nat} (h : text.size ≤ i) :
    view node text i = .none := by
  by_cases hi : i = text.size
  · subst hi
    obtain ⟨o, ho, ⟨-, hsteps, -⟩ | ⟨next, hnext, -⟩⟩ :=
      outlooksBelow_follows node text (text.size + 1) .none [] text.size (by omega)
    · simp [view, outlooks, ho, hsteps, stepsFrom]
    · obtain ⟨front, hlength, hfront⟩ := outlooksBelow_append node text (text.size + 1) .none []
      simp [hfront, hlength] at hnext
  · have hnone : (outlooks node text)[i]? = none := by
      rw [Array.getElem?_eq_none_iff, outlooks_size]
      omega
    simp [view, hnone]

/-- The marks at an index of the text are those of its character that may be matched before the
next index. -/
theorem view_eq {node : Node} {text : Array Char} {i : Nat} {c : Char} (h : text[i]? = some c) :
    view node text i = node.take c
      (node.sweep (Assertion.holds text (i + 1)) (view node text (i + 1)) true).2 := by
  have hi : i < text.size := (Array.getElem?_eq_some_iff.1 h).1
  obtain ⟨o, ho, ⟨hlast, -⟩ | ⟨next, hnext, hsteps, -⟩⟩ :=
    outlooksBelow_follows node text (text.size + 1) .none [] i (by omega)
  · omega
  · simp [view, outlooks, ho, hnext, hsteps, stepsFrom, h]

/-- An outlook tells whether a match can start at its index. -/
theorem opens_eq {node : Node} {text : Array Char} {i : Nat} {o : Outlook}
    (h : (outlooks node text)[i]? = some o) :
    o.opens = (node.sweep (Assertion.holds text i) (view node text i) true).1 := by
  have hi : i < text.size + 1 := by
    have hlt := (Array.getElem?_eq_some_iff.1 h).1
    rwa [outlooks_size] at hlt
  have hview : view node text i = o.steps := by simp [view, h]
  have hlist : (outlooksBelow node text (text.size + 1) .none [])[i]? = some o := by
    simpa [outlooks] using h
  rw [hview]
  obtain ⟨o', ho', hfollows⟩ :=
    outlooksBelow_follows node text (text.size + 1) .none [] i hi
  obtain rfl : o = o' := Option.some.inj (hlist.symm.trans ho')
  rcases hfollows with ⟨-, hfollows⟩ | ⟨next, -, hfollows⟩
  · exact hfollows.opens_eq
  · exact hfollows.opens_eq

/-! ## Ways end in the text -/

@[simp] theorem Arrival.join_stop (a : Arrival) (name : String) : (a.join name).stop = a.stop := by
  rw [join]
  split <;> rfl

@[simp] theorem Arrival.closed_stop (a : Arrival) (name : Option String) :
    (a.closed name).stop = a.stop := by
  cases name with
  | none => rfl
  | some name => exact a.join_stop name

theorem Arrival.foldl_join_stop (names : List String) (a : Arrival) :
    (names.foldl Arrival.join a).stop = a.stop := by
  induction names generalizing a with
  | nil => rfl
  | cons name names ih => rw [List.foldl_cons, ih, join_stop]

@[simp] theorem Arrival.followed_stop (here next : Arrival) :
    (here.followed next).stop = next.stop := by
  rw [followed, foldl_join_stop]

/-- Marks that belong to indices of the text only. -/
def Fits (text : Array Char) (view : Nat → Marks) : Prop := ∀ i, text.size ≤ i → view i = .none

namespace Fits

variable {text : Array Char} {view : Nat → Marks}

theorem first (h : Fits text view) : Fits text (fun i => (view i).first) := by
  intro i hi
  simp [h i hi, Marks.first]

theorem second (h : Fits text view) : Fits text (fun i => (view i).second) := by
  intro i hi
  simp [h i hi, Marks.second]

theorem copy (h : Fits text view) (k : Nat) : Fits text (fun i => (view i).copy k) := by
  intro i hi
  simp [h i hi, Marks.copy]

theorem lt_of_isHere (h : Fits text view) {i : Nat} (hi : (view i).isHere = true) :
    i < text.size := by
  by_contra hle
  rw [h i (by omega)] at hi
  cases hi

end Fits

/-- An arrival that lies between an index and the end of the text. -/
def Within (text : Array Char) (i : Nat) (a : Arrival) : Prop := i ≤ a.stop ∧ a.stop ≤ text.size

/-- Wherever a way arrives from a place where `P` holds, the two are related by `R`. -/
def Way.Leads (P : Arrival → Prop) (R : Arrival → Arrival → Prop) (w : Way) : Prop :=
  ∀ here made a, P here → w here made = .arrived a → R here a

/-- A way that ends in the text and never before its start. -/
def Way.Safe (text : Array Char) (w : Way) : Prop :=
  w.Leads (fun here => here.stop ≤ text.size) (fun here a => Within text here.stop a)

namespace Way

variable {P : Arrival → Prop} {R : Arrival → Arrival → Prop}

theorem leads_dead : Leads P R dead := by
  intro here made a _ h
  cases h

theorem Leads.orElse {one other : Way} (h₁ : Leads P R one) (h₂ : Leads P R other) :
    Leads P R (one.orElse other) := by
  intro here made a hhere h
  rw [Way.orElse] at h
  cases hone : one here made with
  | stuck made' => exact h₂ here made' a hhere (by simpa [hone] using h)
  | arrived b =>
    obtain rfl : b = a := by simpa [hone] using h
    exact h₁ here made b hhere hone

theorem Leads.either {more less : Way} (greedy : Bool) (h₁ : Leads P R more)
    (h₂ : Leads P R less) : Leads P R (either greedy more less) := by
  cases greedy with
  | false => exact h₂.orElse h₁
  | true => exact h₁.orElse h₂

theorem Leads.once {w : Way} (id : Nat) (h : Leads P R w) : Leads P R (once id w) := by
  intro here made a hhere ha
  rw [Way.once] at ha
  split at ha
  · cases ha
  · exact h here _ a hhere ha

/-- Rounds that keep what a way leads to keep it however often they are made. -/
theorem leads_again (id : Nat) (greedy : Bool) {round : Way → Way} {next : Way}
    (hround : ∀ w, Leads P R w → Leads P R (round w)) (hnext : Leads P R next) (fuel : Nat) :
    Leads P R (again id greedy round next fuel) := by
  induction fuel with
  | zero => exact leads_dead
  | succ fuel ih => exact ((hround _ ih).either greedy hnext).once id

theorem leads_copies {round : Nat → Nat → Way → Way} (width : Nat) {next : Way}
    (hround : ∀ k id w, Leads P R w → Leads P R (round k id w)) (hnext : Leads P R next)
    (k id left : Nat) : Leads P R (copies round width next k id left) := by
  induction left generalizing k id with
  | zero => exact hnext
  | succ left ih => exact hround k id _ (ih _ _)

theorem leads_optionals (greedy : Bool) {round : Nat → Nat → Way → Way} (width : Nat) {next : Way}
    (hround : ∀ k id w, Leads P R w → Leads P R (round k id w)) (hnext : Leads P R next)
    (k id left : Nat) : Leads P R (optionals greedy round width next k id left) := by
  induction left generalizing k id with
  | zero => exact hnext
  | succ left ih => exact ((hround k _ _ (ih _ _)).either greedy hnext).once id

end Way

namespace Node

variable {text : Array Char}

/-- Seeking keeps a way safe, whatever it goes on to. -/
theorem seek_safe (node : Node) {view : Nat → Marks} (hview : Fits text view) (id : Nat)
    {next : Way} (hnext : next.Safe text) : (node.seek text view id next).Safe text := by
  induction node generalizing view id next with
  | empty => exact hnext
  | char set =>
    intro here made a hhere ha
    simp only [seek] at ha
    split at ha
    case isTrue hmark =>
      have hlt := hview.lt_of_isHere hmark
      have hstop := hnext ⟨here.stop + 1, here.groups⟩ .empty a hlt ha
      exact ⟨by have h := hstop.1; simp only at h; omega, hstop.2⟩
    case isFalse => cases ha
  | assertion a =>
    intro here made b hhere hb
    simp only [seek] at hb
    split at hb
    · exact hnext here made b hhere hb
    · cases hb
  | seq a b iha ihb => exact iha hview.first id (ihb hview.second _ hnext)
  | alt a b iha ihb =>
    exact ((iha hview.first _ hnext).either true (ihb hview.second _ hnext)).once id
  | group name a ih =>
    refine ih hview id ?_
    intro here made b hhere hb
    have hstop : Within text (here.closed name).stop b :=
      hnext (here.closed name) made b (by simpa using hhere) hb
    rwa [Arrival.closed_stop] at hstop
  | plus greedy a ih =>
    have hround : ∀ w, Way.Safe text w → (a.seek text view (id + 1) w).Safe text :=
      fun w hw => ih hview (id + 1) hw
    exact hround _ (Way.leads_again id greedy hround hnext _)
  | star greedy a ih =>
    have hround : ∀ w, Way.Safe text w → (a.seek text view (id + 2) w).Safe text :=
      fun w hw => ih hview (id + 2) hw
    rw [seek]
    split
    · exact ((hround _ (Way.leads_again _ greedy hround hnext _)).either greedy hnext).once id
    · exact Way.leads_again id greedy hround hnext _
  | exactly count a ih =>
    exact Way.leads_copies _ (fun k id w hw => ih (hview.copy k) id hw) hnext 0 id count
  | upTo greedy count a ih =>
    exact Way.leads_optionals greedy _ (fun k id w hw => ih (hview.copy k) id hw) hnext 0 id count

/-- A walk through any pattern ends in the text, and not before its start. -/
theorem arrive_within (node : Node) {view : Nat → Marks} (hview : Fits text view)
    (rest : Nat → Bool) {i : Nat} (hi : i ≤ text.size) :
    Within text i (node.arrive text view rest i) := by
  have hgoal : Way.Safe text
      (fun here made => if rest here.stop then .arrived here else .stuck made) := by
    intro here made a hhere ha
    simp only at ha
    split at ha
    · cases ha
      exact ⟨Nat.le_refl _, hhere⟩
    · cases ha
  rw [arrive]
  split
  case h_1 a ha => exact node.seek_safe hview 0 hgoal ⟨i, []⟩ .empty a hi ha
  case h_2 => exact ⟨Nat.le_refl i, hi⟩

end Node

theorem roundsWhile_within {text : Array Char} (more : Nat → Bool) {round : Nat → Arrival}
    (hround : ∀ j, j ≤ text.size → Within text j (round j)) (fuel : Nat) (here : Arrival)
    (hhere : here.stop ≤ text.size) : Within text here.stop (roundsWhile more round fuel here) := by
  induction fuel generalizing here with
  | zero => exact ⟨Nat.le_refl _, hhere⟩
  | succ fuel ih =>
    rw [roundsWhile]
    split
    · have hstep := hround here.stop hhere
      have hrest := ih (here.followed (round here.stop)) (by simpa using hstep.2)
      rw [Arrival.followed_stop] at hrest
      exact ⟨Nat.le_trans hstep.1 hrest.1, hrest.2⟩
    · exact ⟨Nat.le_refl _, hhere⟩

theorem copiesWhile_within {text : Array Char} (more : Nat → Nat → Bool)
    {copy : Nat → Nat → Arrival} (hcopy : ∀ k j, j ≤ text.size → Within text j (copy k j))
    (k left : Nat) (here : Arrival) (hhere : here.stop ≤ text.size) :
    Within text here.stop (copiesWhile more copy k left here) := by
  induction left generalizing k here with
  | zero => exact ⟨Nat.le_refl _, hhere⟩
  | succ left ih =>
    rw [copiesWhile]
    split
    · have hstep := hcopy k here.stop hhere
      have hrest := ih (k + 1) (here.followed (copy k here.stop)) (by simpa using hstep.2)
      rw [Arrival.followed_stop] at hrest
      exact ⟨Nat.le_trans hstep.1 hrest.1, hrest.2⟩
    · exact ⟨Nat.le_refl _, hhere⟩

/-- A walk ends in the text and not before its start. -/
theorem Node.walk_within {text : Array Char} (node : Node) {view : Nat → Marks}
    (hview : Fits text view) (rest : Nat → Bool) {i : Nat} (hi : i ≤ text.size) :
    Within text i (node.walk text view rest i) := by
  induction node generalizing view rest i with
  | empty => exact ⟨Nat.le_refl i, hi⟩
  | char set =>
    rw [walk]
    split
    case isTrue hmark => exact ⟨Nat.le_succ i, hview.lt_of_isHere hmark⟩
    case isFalse => exact ⟨Nat.le_refl i, hi⟩
  | assertion a => exact ⟨Nat.le_refl i, hi⟩
  | seq a b iha ihb =>
    rw [walk]
    have hfirst := iha hview.first
      (fun j => b.can (Assertion.holds text j) (view j).second (rest j)) hi
    have hsecond := ihb hview.second rest hfirst.2
    exact ⟨by simpa using Nat.le_trans hfirst.1 hsecond.1, by simpa using hsecond.2⟩
  | alt a b iha ihb =>
    rw [walk]
    split
    · exact iha hview.first rest hi
    · exact ihb hview.second rest hi
  | group name a ih =>
    have h := ih hview rest hi
    exact ⟨by simpa [walk] using h.1, by simpa [walk] using h.2⟩
  | star greedy a ih =>
    rw [walk]
    split
    · exact arrive_within _ hview rest hi
    · exact roundsWhile_within _ (fun j hj => ih hview _ hj) _ ⟨i, []⟩ hi
  | plus greedy a ih =>
    rw [walk]
    split
    · exact arrive_within _ hview rest hi
    · have hfirst := ih hview
        (fun j => rest j || a.can (Assertion.holds text j) (view j) false) hi
      have hrest := roundsWhile_within
        (fun j => if greedy then a.can (Assertion.holds text j) (view j) false else !rest j)
        (fun j hj => ih hview
          (fun j => rest j || a.can (Assertion.holds text j) (view j) false) hj)
        (text.size + 1) _ hfirst.2
      exact ⟨Nat.le_trans hfirst.1 hrest.1, hrest.2⟩
  | exactly count a ih =>
    exact copiesWhile_within _ (fun k j hj => ih (hview.copy k) _ hj) 0 count ⟨i, []⟩ hi
  | upTo greedy count a ih =>
    exact copiesWhile_within _ (fun k j hj => ih (hview.copy k) _ hj) 0 count ⟨i, []⟩ hi

/-! ## The matches of a scan -/

theorem matchAt?_within {node : Node} {text : Array Char} {i : Nat} {a : Arrival}
    (h : node.matchAt? text (outlooks node text) i = some a) :
    i ≤ text.size ∧ Within text i a := by
  rw [Node.matchAt?] at h
  split at h
  case h_1 o ho =>
    have hi : i ≤ text.size := by
      have hlt := (Array.getElem?_eq_some_iff.1 ho).1
      rw [outlooks_size] at hlt
      omega
    split at h
    · cases h
      exact ⟨hi, node.walk_within (fun j hj => view_beyond hj) _ hi⟩
    · cases h
  case h_2 => cases h

section Search

variable (node : Node) (text : Array Char)

theorem foundFrom_append (ahead : Array Outlook) (fuel i : Nat) (fresh : Bool)
    (done : List Found) :
    foundFrom node text ahead fuel i fresh done =
      done.reverse ++ foundFrom node text ahead fuel i fresh [] := by
  induction fuel generalizing i fresh done with
  | zero => simp [foundFrom]
  | succ fuel ih =>
    rw [foundFrom, foundFrom]
    split
    · simp
    · split
      · exact ih _ _ _
      · split
        · rw [ih, ih _ _ [_]]
          simp
        · split
          · rw [ih, ih _ _ [_]]
            simp
          · exact ih _ _ _

/-- The matches from an index on, searched with just enough fuel. -/
def search (i : Nat) (fresh : Bool) : List Found :=
  foundFrom node text (outlooks node text) (text.size + 1 - i) i fresh []

variable {node text}

/-- Every step moves on, so two amounts of fuel that are both enough give the same matches. -/
theorem foundFrom_eq_search {fuel i : Nat} (fresh : Bool) (hfuel : text.size + 1 - i ≤ fuel) :
    foundFrom node text (outlooks node text) fuel i fresh [] = search node text i fresh := by
  have hany : ∀ n m i fresh, text.size + 1 - i ≤ n → text.size + 1 - i ≤ m →
      foundFrom node text (outlooks node text) n i fresh [] =
        foundFrom node text (outlooks node text) m i fresh [] := by
    intro n
    induction n with
    | zero =>
      intro m i fresh hn _
      cases m with
      | zero => rfl
      | succ m => rw [foundFrom, foundFrom, if_pos (by omega)]
    | succ n ih =>
      intro m i fresh hn hm
      cases m with
      | zero => rw [foundFrom, foundFrom, if_pos (by omega)]
      | succ m =>
        rw [foundFrom, foundFrom]
        split
        · rfl
        · split
          · exact ih m _ _ (by omega) (by omega)
          · split
            · rw [foundFrom_append, foundFrom_append _ _ _ m, ih m _ _ (by omega) (by omega)]
            · split
              · rw [foundFrom_append, foundFrom_append _ _ _ m, ih m _ _ (by omega) (by omega)]
              · exact ih m _ _ (by omega) (by omega)
  exact hany _ _ i fresh hfuel (Nat.le_refl _)

theorem search_beyond {i : Nat} (fresh : Bool) (hi : text.size < i) :
    search node text i fresh = [] := by
  rw [search, show text.size + 1 - i = 0 by omega]
  rfl

theorem search_none {i : Nat} (fresh : Bool)
    (h : node.matchAt? text (outlooks node text) i = none) :
    search node text i fresh = search node text (i + 1) true := by
  by_cases hi : i ≤ text.size
  · rw [search, show text.size + 1 - i = text.size - i + 1 by omega, foundFrom,
      if_neg (by omega), h]
    exact foundFrom_eq_search true (by omega)
  · rw [search_beyond _ (by omega), search_beyond _ (by omega)]

/-- Behind a match that holds a character the search goes on where the match ends. -/
theorem search_some {i : Nat} {a : Arrival} (fresh : Bool)
    (h : node.matchAt? text (outlooks node text) i = some a) (hlt : i < a.stop) :
    search node text i fresh = ⟨i, a.stop, a.groups⟩ :: search node text a.stop false := by
  have hi := (matchAt?_within h).1
  rw [search, show text.size + 1 - i = text.size - i + 1 by omega, foundFrom,
    if_neg (by omega), h]
  simp only [hlt, if_true]
  rw [foundFrom_append, foundFrom_eq_search false (by omega)]
  rfl

/-- Behind an empty match, which counts unless it adjoins another one, the search goes on one index
further. -/
theorem search_empty {i : Nat} {a : Arrival} (fresh : Bool)
    (h : node.matchAt? text (outlooks node text) i = some a) (hle : ¬ i < a.stop) :
    search node text i fresh =
      (if fresh then [⟨i, i, a.groups⟩] else []) ++ search node text (i + 1) true := by
  have hi := (matchAt?_within h).1
  rw [search, show text.size + 1 - i = text.size - i + 1 by omega, foundFrom,
    if_neg (by omega), h]
  simp only [hle, if_false]
  cases fresh with
  | false => exact foundFrom_eq_search true (by omega)
  | true =>
    simp only [if_true]
    rw [foundFrom_append, foundFrom_eq_search true (by omega)]
    rfl

theorem found_eq_search (p : Pattern) (text : Array Char) :
    p.found text = search p.node text 0 true := foundFrom_eq_search true (by omega)

end Search

/-- Stretches of the text from an index on, one behind the other.  Behind an empty stretch the next
one starts further on. -/
def Chain (text : Array Char) : Nat → List Found → Prop
  | _, [] => True
  | i, f :: rest =>
    i ≤ f.start ∧ f.start ≤ f.stop ∧ f.stop ≤ text.size ∧
      Chain text (max f.stop (f.start + 1)) rest

theorem Chain.weaken {text : Array Char} {i j : Nat} {fs : List Found} (h : Chain text j fs)
    (hij : i ≤ j) : Chain text i fs := by
  cases fs with
  | nil => trivial
  | cons f fs => exact ⟨Nat.le_trans hij h.1, h.2⟩

theorem search_chain (node : Node) (text : Array Char) (i : Nat) (fresh : Bool) :
    Chain text i (search node text i fresh) := by
  induction h : text.size + 1 - i using Nat.strong_induction_on generalizing i fresh with
  | h n ih =>
    by_cases hi : text.size < i
    · rw [search_beyond fresh hi]
      trivial
    cases hmatch : node.matchAt? text (outlooks node text) i with
    | none =>
      rw [search_none fresh hmatch]
      exact (ih _ (by omega) (i + 1) true rfl).weaken (Nat.le_succ i)
    | some a =>
      have hwithin := (matchAt?_within hmatch).2
      by_cases hlt : i < a.stop
      · rw [search_some fresh hmatch hlt]
        refine ⟨Nat.le_refl i, hwithin.1, hwithin.2, ?_⟩
        rw [show max a.stop (i + 1) = a.stop from Nat.max_eq_left hlt]
        exact ih _ (by omega) a.stop false rfl
      · rw [search_empty fresh hmatch hlt]
        have hnext := ih _ (by omega) (i + 1) true rfl
        cases fresh with
        | false => exact hnext.weaken (Nat.le_succ i)
        | true =>
          refine ⟨Nat.le_refl i, Nat.le_refl i, Nat.le_of_not_lt hi, ?_⟩
          rwa [show max i (i + 1) = i + 1 from Nat.max_eq_right (Nat.le_succ i)]

/-- Every match of a search is what is found at its start. -/
theorem matchAt?_of_mem_search {node : Node} {text : Array Char} {i : Nat} {fresh : Bool}
    {f : Found} (hf : f ∈ search node text i fresh) :
    node.matchAt? text (outlooks node text) f.start = some ⟨f.stop, f.groups⟩ := by
  induction h : text.size + 1 - i using Nat.strong_induction_on generalizing i fresh with
  | h n ih =>
    by_cases hi : text.size < i
    · rw [search_beyond fresh hi] at hf
      cases hf
    cases hmatch : node.matchAt? text (outlooks node text) i with
    | none =>
      rw [search_none fresh hmatch] at hf
      exact ih _ (by omega) hf rfl
    | some a =>
      by_cases hlt : i < a.stop
      · rw [search_some fresh hmatch hlt] at hf
        rcases List.mem_cons.1 hf with rfl | hf
        · exact hmatch
        · exact ih _ (by omega) hf rfl
      · rw [search_empty fresh hmatch hlt] at hf
        rcases List.mem_append.1 hf with hf | hf
        · have hwithin := (matchAt?_within hmatch).2
          cases fresh with
          | false => cases hf
          | true =>
            obtain rfl := List.mem_singleton.1 hf
            rw [hmatch]
            exact congrArg some (by rw [show i = a.stop from Nat.le_antisymm hwithin.1 (by omega)])
        · exact ih _ (by omega) hf rfl

/-- A search passes over no index where a match starts: this match is found, or one that goes on
over the index. -/
theorem exists_mem_search {node : Node} {text : Array Char} {i k : Nat} {a : Arrival}
    (h : node.matchAt? text (outlooks node text) k = some a) (hlt : k < a.stop) (hik : i ≤ k)
    (fresh : Bool) : ∃ f ∈ search node text i fresh, f.start ≤ k ∧ k < f.stop := by
  induction hn : k - i using Nat.strong_induction_on generalizing i fresh with
  | h n ih =>
    subst hn
    by_cases heq : i = k
    · subst heq
      exact ⟨_, by rw [search_some fresh h hlt]; exact List.mem_cons_self, Nat.le_refl i, hlt⟩
    · cases hmatch : node.matchAt? text (outlooks node text) i with
      | none =>
        rw [search_none fresh hmatch]
        exact ih _ (by omega) (by omega) true rfl
      | some b =>
        by_cases hb : i < b.stop
        · rw [search_some fresh hmatch hb]
          by_cases hover : k < b.stop
          · exact ⟨_, List.mem_cons_self, hik, hover⟩
          · obtain ⟨f, hf, hbounds⟩ := ih (k - b.stop) (by omega) (by omega) false rfl
            exact ⟨f, List.mem_cons_of_mem _ hf, hbounds⟩
        · rw [search_empty fresh hmatch hb]
          obtain ⟨f, hf, hbounds⟩ := ih (k - (i + 1)) (by omega) (by omega) true rfl
          exact ⟨f, List.mem_append_right _ hf, hbounds⟩

theorem Chain.bounds {text : Array Char} {i : Nat} {fs : List Found} (h : Chain text i fs)
    {f : Found} (hf : f ∈ fs) : i ≤ f.start ∧ f.start ≤ f.stop ∧ f.stop ≤ text.size := by
  induction fs generalizing i with
  | nil => cases hf
  | cons g fs ih =>
    obtain ⟨hstart, hle, hstop, hrest⟩ := h
    rcases List.mem_cons.1 hf with rfl | hmem
    · exact ⟨hstart, hle, hstop⟩
    · have hbounds := ih hrest hmem
      exact ⟨by omega, hbounds.2⟩

theorem found_chain (p : Pattern) (text : Array Char) : Chain text 0 (p.found text) := by
  rw [found_eq_search]
  exact search_chain _ _ _ _

/-- The place of a cut of the text. -/
def placeAt (text : Array Char) (i : Nat) : Place :=
  ⟨i, Text.byteLength (text.toList.take i), Position.origin.after (text.toList.take i)⟩

theorem foldl_step (cs : List Char) (p : Place) :
    cs.foldl Place.step p =
      ⟨p.index + cs.length, p.offset + Text.byteLength cs, p.position.after cs⟩ := by
  induction cs generalizing p with
  | nil => simp
  | cons c cs ih =>
    rw [List.foldl_cons, ih]
    simp [Place.step, Nat.add_assoc, Nat.add_comm 1]

theorem moveTo_placeAt {text : Array Char} {i j : Nat} (hij : i ≤ j) (hj : j ≤ text.size) :
    (placeAt text i).moveTo text j = placeAt text j := by
  have hcut : text.toList.take j = text.toList.take i ++ (text.extract i j).toList := by
    rw [Array.toList_extract, List.extract, ← List.take_add, Nat.add_sub_cancel' hij]
  have hlength : (text.extract i j).toList.length = j - i := by
    simp
    omega
  rw [Place.moveTo, ← Array.foldl_toList, foldl_step]
  simp only [placeAt, hcut, hlength, Text.byteLength_append, Position.after_append,
    Nat.add_sub_cancel' hij]

/-- A match of a text by the places of its ends. -/
def matchOf (text : Array Char) (f : Found) : Match where
  span := ⟨(placeAt text f.start).position, (placeAt text f.stop).position⟩
  first := (placeAt text f.start).offset
  last := (placeAt text f.stop).offset
  text := String.ofList (text.extract f.start f.stop).toList
  groups := f.groups

/-- Moving from match to match gives each the place it has by itself. -/
theorem placed_eq_map {text : Array Char} {i : Nat} {fs : List Found} (h : Chain text i fs) :
    placed text (placeAt text i) fs = fs.map (matchOf text) := by
  induction fs generalizing i with
  | nil => rfl
  | cons f fs ih =>
    obtain ⟨hstart, hle, hstop, hrest⟩ := h
    rw [placed, List.map_cons]
    simp only [moveTo_placeAt hstart (Nat.le_trans hle hstop), moveTo_placeAt hle hstop]
    rw [ih (hrest.weaken (Nat.le_max_left _ _))]
    rfl

/-- A scan gives each match found the places of its ends. -/
theorem scan_eq_map (p : Pattern) (d : Document) :
    p.scan d = (p.found d.chars).map (matchOf d.chars) := placed_eq_map (found_chain p d.chars)

/-! ## The spans of matches -/

/-- A match cuts the text in three and has the places of the two cuts. -/
theorem exists_stretch_of_found {p : Pattern} {text : Array Char} {f : Found}
    (hf : f ∈ p.found text) :
    ∃ before inside behind, text.toList = before ++ inside ++ behind ∧
      f.start = before.length ∧ f.stop = (before ++ inside).length ∧
      (matchOf text f).first = Text.byteLength before ∧
      (matchOf text f).last = Text.byteLength (before ++ inside) ∧
      (matchOf text f).span =
        ⟨Position.origin.after before, Position.origin.after (before ++ inside)⟩ ∧
      (matchOf text f).text = String.ofList inside := by
  obtain ⟨-, hle, hstop⟩ := (found_chain p text).bounds hf
  have hcut : text.toList.take f.stop =
      text.toList.take f.start ++ (text.extract f.start f.stop).toList := by
    rw [Array.toList_extract, List.extract, ← List.take_add, Nat.add_sub_cancel' hle]
  refine ⟨text.toList.take f.start, (text.extract f.start f.stop).toList,
    text.toList.drop f.stop, ?_, ?_, ?_, rfl, ?_, ?_, rfl⟩
  · rw [← hcut, List.take_append_drop]
  · rw [List.length_take, Array.length_toList, Nat.min_eq_left (Nat.le_trans hle hstop)]
  · rw [← hcut, List.length_take, Array.length_toList, Nat.min_eq_left hstop]
  · rw [← hcut]
    rfl
  · rw [← hcut]
    rfl

/-- A match is a stretch of the text, and its ends are those of the stretch. -/
theorem exists_stretch {p : Pattern} {d : Document} {m : Match} (hm : m ∈ p.scan d) :
    ∃ before inside behind, d.chars.toList = before ++ inside ++ behind ∧
      m.first = Text.byteLength before ∧ m.last = Text.byteLength (before ++ inside) ∧
      m.span = ⟨Position.origin.after before, Position.origin.after (before ++ inside)⟩ ∧
      m.text = String.ofList inside := by
  rw [scan_eq_map] at hm
  obtain ⟨f, hf, rfl⟩ := List.mem_map.1 hm
  obtain ⟨before, inside, behind, hcut, -, -, hspans⟩ := exists_stretch_of_found hf
  exact ⟨before, inside, behind, hcut, hspans⟩

/-- A match covers its own text, wherever its span can be read at all. -/
theorem textIn_of_mem_scan {p : Pattern} {d : Document} {m : Match} (hm : m ∈ p.scan d)
    (hstart : d.contains m.span.start = true) (hstop : d.contains m.span.stop = true) :
    d.textIn m.span = .ok (some m.text) := by
  obtain ⟨before, inside, behind, hlast, -, -, hspan, htext⟩ := exists_stretch hm
  have hfirst : d.chars.toList = before ++ (inside ++ behind) := by
    rw [hlast, List.append_assoc]
  rw [hspan] at hstart hstop
  rw [hspan, htext]
  exact Document.textIn_cut hlast ((Document.contains_cut hfirst).1 hstart)
    ((Document.contains_cut hlast).1 hstop)

/-- The byte offsets of a match and its span agree, and its text is what stands between them. -/
theorem offsets_of_mem_scan {p : Pattern} {d : Document} {m : Match} (hm : m ∈ p.scan d) :
    d.positionAt? m.first = some m.span.start ∧ d.positionAt? m.last = some m.span.stop ∧
      d.slice m.first m.last = m.text := by
  obtain ⟨before, inside, behind, hlast, hm₁, hm₂, hspan, htext⟩ := exists_stretch hm
  have hfirst : d.chars.toList = before ++ (inside ++ behind) := by
    rw [hlast, List.append_assoc]
  rw [hm₁, hm₂, hspan, htext]
  refine ⟨Document.positionAt?_cut hfirst, Document.positionAt?_cut hlast, ?_⟩
  rw [Document.slice, Text.byteLength_append, Nat.add_sub_cancel_left, hfirst,
    Document.dropBytes_append, Document.takeBytes_append]

/-- The span of a match can be read back exactly when neither end falls behind the carriage return
of a line end.  Otherwise the span is refused, and so is reading its text. -/
theorem scan_reads_back_iff (p : Pattern) (d : Document) (m : Match) (hm : m ∈ p.scan d) :
    (¬ d.IsInLineEnd m.first ∧ ¬ d.IsInLineEnd m.last ↔
      d.checkSpan m.span = .ok m.span ∧ d.offsetOf m.span.start = .ok m.first ∧
        d.offsetOf m.span.stop = .ok m.last ∧ d.textIn m.span = .ok (some m.text)) ∧
    (d.IsInLineEnd m.first ∨ d.IsInLineEnd m.last →
      ∃ q, (q = m.span.start ∨ q = m.span.stop) ∧
        d.checkSpan m.span = .error (.positionOutOfRange q d.lineCount) ∧
        d.textIn m.span = .error (.positionOutOfRange q d.lineCount)) := by
  obtain ⟨before, inside, behind, hlast, hm₁, hm₂, hspan, htext⟩ := exists_stretch hm
  have hfirst : d.chars.toList = before ++ (inside ++ behind) := by
    rw [hlast, List.append_assoc]
  have hle : Position.origin.after before ≤ Position.origin.after (before ++ inside) := by
    rw [Position.after_append]
    exact Position.le_after _ inside
  rw [hm₁, hm₂, hspan, htext]
  have hstart : d.contains (Position.origin.after before) = true ↔
      ¬ d.IsInLineEnd (Text.byteLength before) := by
    rw [Document.contains_cut hfirst, Document.isInLineEnd_cut hfirst]
  have hstop : d.contains (Position.origin.after (before ++ inside)) = true ↔
      ¬ d.IsInLineEnd (Text.byteLength (before ++ inside)) := by
    rw [Document.contains_cut hlast, Document.isInLineEnd_cut hlast]
  refine ⟨⟨?_, ?_⟩, ?_⟩
  · rintro ⟨hwhole₁, hwhole₂⟩
    have hcut₁ := mt (Document.isInLineEnd_cut hfirst).2 hwhole₁
    have hcut₂ := mt (Document.isInLineEnd_cut hlast).2 hwhole₂
    exact ⟨Document.checkSpan_inside (hstart.2 hwhole₁) (hstop.2 hwhole₂) hle,
      Document.offsetOf_cut hfirst hcut₁, Document.offsetOf_cut hlast hcut₂,
      Document.textIn_cut hlast hcut₁ hcut₂⟩
  · rintro ⟨-, hoffset₁, hoffset₂, -⟩
    constructor
    · rw [← hstart]
      exact Document.contains_of_offsetOf hoffset₁
    · rw [← hstop]
      exact Document.contains_of_offsetOf hoffset₂
  · intro h
    apply Document.refused_outside
    rw [← Bool.not_eq_true, ← Bool.not_eq_true, hstart, hstop, not_not, not_not]
    exact h

/-- The match of the carriage return in a text of one line. -/
def returnMatch : Match := ⟨⟨⟨0, 1⟩, ⟨0, 2⟩⟩, 1, 2, "\r", []⟩

/-- A pattern for the carriage return of a line end has a match whose span is refused. -/
theorem scan_return_refused :
    ∃ p, Pattern.compile (.label "scan") false "\\r" = .ok p ∧
      returnMatch ∈ p.scan (.ofString "a\r\n") ∧
      (Document.ofString "a\r\n").checkSpan returnMatch.span =
        .error (.positionOutOfRange ⟨0, 2⟩ 2) ∧
      (Document.ofString "a\r\n").textIn returnMatch.span =
        .error (.positionOutOfRange ⟨0, 2⟩ 2) := by
  have hscan : returnMatch ∈
      Pattern.scan ⟨"\\r", .char (.single '\r')⟩ (.ofString "a\r\n") := by decide
  have hend : (Document.ofString "a\r\n").IsInLineEnd returnMatch.last :=
    ⟨['a', '\r'], ['\n'], by decide, by decide, by decide, .inr (by decide)⟩
  refine ⟨⟨"\\r", .char (.single '\r')⟩, rfl, hscan, ?_⟩
  obtain ⟨q, hq, hcheck, htext⟩ := (scan_reads_back_iff _ _ _ hscan).2 (.inr hend)
  rcases hq with rfl | rfl
  · exact absurd hcheck (by decide)
  · exact ⟨hcheck, htext⟩

end ScopeLint.Pattern
