import Mathlib.Data.List.Basic
import ScopeLint.Proofs.Scanning

/-!
# What simple patterns match

The stretches that a pattern stands for are given by a relation, and what is found of a simple
pattern is such a stretch.  Where it stands for one, one is found.  Simple patterns have word edges
as their only conditions and repeat single characters only.  For them it is also shown that matching
is local: what is found at an index depends on the text up to the next character that the pattern
cannot match, and on whether a word ends just before the index.
-/

namespace ScopeLint.Pattern

/-- A number of steps, one after the other. -/
def Rounds (step : Nat → Nat → Prop) : Nat → Nat → Nat → Prop
  | 0, i, j => j = i
  | n + 1, i, j => ∃ k, step i k ∧ Rounds step n k j

namespace Node

/-- Does the pattern stand for the stretch of the text between two indices? -/
def Matches (text : Array Char) : Node → Nat → Nat → Prop
  | .empty, i, j => j = i
  | .char set, i, j => j = i + 1 ∧ ∃ c, text[i]? = some c ∧ set.has c = true
  | .assertion a, i, j => j = i ∧ a.holds text i = true
  | .seq a b, i, j => ∃ k, a.Matches text i k ∧ b.Matches text k j
  | .alt a b, i, j => a.Matches text i j ∨ b.Matches text i j
  | .group _ a, i, j => a.Matches text i j
  | .star _ a, i, j => ∃ n, Rounds (a.Matches text) n i j
  | .plus _ a, i, j => ∃ n, Rounds (a.Matches text) (n + 1) i j
  | .exactly count a, i, j => Rounds (a.Matches text) count i j
  | .upTo _ count a, i, j => ∃ n, n ≤ count ∧ Rounds (a.Matches text) n i j

/-- Word edges are the only conditions, and as many rounds as possible of a single character the
only repetition. -/
inductive Simple : Node → Prop
  | empty : Simple .empty
  | char (set : CharSet) : Simple (.char set)
  | word (edge : WordEdge) (ascii : Bool) : Simple (.assertion (.word edge ascii))
  | seq {a b : Node} : Simple a → Simple b → Simple (.seq a b)
  | alt {a b : Node} : Simple a → Simple b → Simple (.alt a b)
  | group (name : Option String) {a : Node} : Simple a → Simple (.group name a)
  | rounds (set : CharSet) : Simple (.plus true (.char set))

/-- Does no set of the pattern hold the character? -/
def avoids (c : Char) : Node → Bool
  | .empty => true
  | .char set => !set.has c
  | .assertion _ => true
  | .seq a b => a.avoids c && b.avoids c
  | .alt a b => a.avoids c && b.avoids c
  | .group _ a => a.avoids c
  | .star _ a => a.avoids c
  | .plus _ a => a.avoids c
  | .exactly _ a => a.avoids c
  | .upTo _ _ a => a.avoids c

end Node

/-! ## Marks and their parts -/

theorem Marks.eq_none {m : Marks} (h : m.isNone = true) : m = .none := by
  cases m with
  | none => rfl
  | here => cases h
  | pair a b => cases h
  | copies each => cases h

@[simp] theorem Marks.both_first (a b : Marks) : (Marks.both a b).first = a := by
  rw [both]
  split
  case isTrue h =>
    rw [Bool.and_eq_true] at h
    exact (eq_none h.1).symm
  case isFalse => rfl

@[simp] theorem Marks.both_second (a b : Marks) : (Marks.both a b).second = b := by
  rw [both]
  split
  case isTrue h =>
    rw [Bool.and_eq_true] at h
    exact (eq_none h.2).symm
  case isFalse => rfl

@[simp] theorem Marks.hereIf_isHere (on : Bool) : (Marks.hereIf on).isHere = on := by
  cases on <;> rfl

namespace Node

variable {text : Array Char}

theorem take_seq (c : Char) (a b : Node) (m : Marks) :
    (Node.seq a b).take c m = .both (a.take c m.first) (b.take c m.second) := by
  cases m <;> simp [take, Marks.first, Marks.second, Marks.both, Marks.isNone]

theorem take_alt (c : Char) (a b : Node) (m : Marks) :
    (Node.alt a b).take c m = .both (a.take c m.first) (b.take c m.second) := by
  cases m <;> simp [take, Marks.first, Marks.second, Marks.both, Marks.isNone]

theorem take_group (c : Char) (name : Option String) (a : Node) (m : Marks) :
    (Node.group name a).take c m = a.take c m := by
  cases m <;> simp [take]

theorem take_plus (c : Char) (greedy : Bool) (a : Node) (m : Marks) :
    (Node.plus greedy a).take c m = a.take c m := by
  cases m <;> simp [take]

theorem take_char (c : Char) (set : CharSet) (m : Marks) :
    (Node.char set).take c m = if set.has c then m else .none := by
  cases m <;> simp [take]

/-- A character that no set holds leaves no mark. -/
theorem take_avoids {c : Char} {node : Node} (hs : node.Simple) (h : node.avoids c = true)
    (m : Marks) : node.take c m = .none := by
  induction hs generalizing m with
  | empty => cases m <;> rfl
  | char set =>
    have hset : set.has c = false := by simpa [avoids] using h
    rw [take_char, hset]
    rfl
  | word edge ascii => cases m <;> rfl
  | seq _ _ iha ihb =>
    obtain ⟨ha, hb⟩ := Bool.and_eq_true_iff.1 h
    rw [take_seq, iha ha, ihb hb]
    rfl
  | alt _ _ iha ihb =>
    obtain ⟨ha, hb⟩ := Bool.and_eq_true_iff.1 h
    rw [take_alt, iha ha, ihb hb]
    rfl
  | group name _ ih => rw [take_group, ih h]
  | rounds set =>
    have hset : set.has c = false := by simpa [avoids] using h
    rw [take_plus, take_char, hset]
    rfl

/-- Sweeping tells the same of an index as `can`. -/
theorem sweep_fst {node : Node} (hs : node.Simple) (holds : Conditions) (m : Marks)
    (rest : Bool) : (node.sweep holds m rest).1 = node.can holds m rest := by
  induction hs generalizing m rest with
  | empty => rfl
  | char set => rfl
  | word edge ascii => rfl
  | seq _ _ iha ihb =>
    rw [can, ← ihb, ← iha]
    rfl
  | alt _ _ iha ihb =>
    rw [can, ← ihb, ← iha]
    rfl
  | group name _ ih => exact ih m rest
  | rounds set => rfl

/-- The marks of a pattern at all indices of a text, where `rest` tells at which of them what
follows the pattern can be matched. -/
structure Reads (text : Array Char) (node : Node) (view : Nat → Marks) (rest : Nat → Bool) :
    Prop where
  fits : Fits text view
  step : ∀ i c, text[i]? = some c → view i = node.take c
    (node.sweep (Assertion.holds text (i + 1)) (view (i + 1)) (rest (i + 1))).2

/-- The marks that scanning sees are those of the pattern with nothing behind it. -/
theorem reads_view (node : Node) (text : Array Char) :
    Reads text node (Pattern.view node text) (fun _ => true) :=
  ⟨fun _ hi => view_beyond hi, fun _ _ hc => view_eq hc⟩

namespace Reads

variable {a b : Node} {view : Nat → Marks} {rest : Nat → Bool}

/-- The first of two parts is followed by the second one and by what follows both. -/
theorem seq_first (h : Reads text (.seq a b) view rest) (hb : b.Simple) :
    Reads text a (fun i => (view i).first)
      (fun i => b.can (Assertion.holds text i) (view i).second (rest i)) := by
  refine ⟨h.fits.first, ?_⟩
  intro i c hc
  have hstep := congrArg Marks.first (h.step i c hc)
  rw [take_seq, Marks.both_first] at hstep
  rw [hstep, ← sweep_fst hb]
  simp [sweep]

theorem seq_second (h : Reads text (.seq a b) view rest) :
    Reads text b (fun i => (view i).second) rest := by
  refine ⟨h.fits.second, ?_⟩
  intro i c hc
  have hstep := congrArg Marks.second (h.step i c hc)
  rw [take_seq, Marks.both_second] at hstep
  rw [hstep]
  simp [sweep]

theorem alt_first (h : Reads text (.alt a b) view rest) :
    Reads text a (fun i => (view i).first) rest := by
  refine ⟨h.fits.first, ?_⟩
  intro i c hc
  have hstep := congrArg Marks.first (h.step i c hc)
  rw [take_alt, Marks.both_first] at hstep
  rw [hstep]
  simp [sweep]

theorem alt_second (h : Reads text (.alt a b) view rest) :
    Reads text b (fun i => (view i).second) rest := by
  refine ⟨h.fits.second, ?_⟩
  intro i c hc
  have hstep := congrArg Marks.second (h.step i c hc)
  rw [take_alt, Marks.both_second] at hstep
  rw [hstep]
  simp [sweep]

theorem group {name : Option String} (h : Reads text (.group name a) view rest) :
    Reads text a view rest := by
  refine ⟨h.fits, ?_⟩
  intro i c hc
  have hstep := h.step i c hc
  rwa [take_group] at hstep

/-- A round is followed by what follows them all, or by another round. -/
theorem rounds {greedy : Bool} {set : CharSet}
    (h : Reads text (.plus greedy (.char set)) view rest) :
    Reads text (.char set) view (fun i => rest i || (view i).isHere) := by
  refine ⟨h.fits, ?_⟩
  intro i c hc
  have hstep := h.step i c hc
  rwa [take_plus] at hstep

/-- The marked characters are those of the set behind which what follows can be matched. -/
theorem isHere_iff {set : CharSet} (h : Reads text (.char set) view rest) {i : Nat} :
    (view i).isHere = true ↔
      (∃ c, text[i]? = some c ∧ set.has c = true) ∧ rest (i + 1) = true := by
  constructor
  · intro hi
    have hlt := h.fits.lt_of_isHere hi
    have hc : text[i]? = some text[i] := Array.getElem?_eq_getElem hlt
    have hstep := h.step i _ hc
    rw [take_char] at hstep
    split at hstep
    case isTrue hset =>
      rw [hstep] at hi
      exact ⟨⟨_, hc, hset⟩, by simpa [sweep] using hi⟩
    case isFalse =>
      rw [hstep] at hi
      cases hi
  · rintro ⟨⟨c, hc, hset⟩, hrest⟩
    rw [h.step i c hc, take_char, if_pos hset, sweep, hrest]
    rfl

end Reads

/-! ## Walks are matches -/

/-- Rounds of a marked character go on to the first index without a mark. -/
theorem roundsWhile_marked {view : Nat → Marks} (rest : Nat → Bool) (set : CharSet)
    (hfits : Fits text view) (fuel : Nat) (here : Arrival)
    (hfuel : text.size < fuel + here.stop) (hstop : here.stop ≤ text.size) :
    ∃ j, roundsWhile (fun i => (view i).isHere) ((Node.char set).walk text view rest) fuel here =
        ⟨j, here.groups⟩ ∧ here.stop ≤ j ∧ (view j).isHere = false ∧
      ∀ k, here.stop ≤ k → k < j → (view k).isHere = true := by
  induction fuel generalizing here with
  | zero => omega
  | succ fuel ih =>
    rw [roundsWhile]
    split
    case isTrue hmark =>
      have hwalk : (Node.char set).walk text view rest here.stop = ⟨here.stop + 1, []⟩ := by
        rw [walk, if_pos hmark]
      have hlt := hfits.lt_of_isHere hmark
      rw [hwalk]
      obtain ⟨j, hj, hle, hlast, hall⟩ := ih ⟨here.stop + 1, here.groups⟩
        (by simp only; omega) (by simp only; omega)
      refine ⟨j, hj, by simp only at hle; omega, hlast, ?_⟩
      intro k hk hkj
      by_cases heq : k = here.stop
      · rw [heq]; exact hmark
      · exact hall k (by simp only; omega) hkj
    case isFalse hmark =>
      exact ⟨here.stop, rfl, Nat.le_refl _, by simpa using hmark, fun k hk hkj => by omega⟩

theorem rounds_char (set : CharSet) (i n : Nat)
    (h : ∀ k, i ≤ k → k < i + n → ∃ c, text[k]? = some c ∧ set.has c = true) :
    Rounds ((Node.char set).Matches text) n i (i + n) := by
  induction n generalizing i with
  | zero => rfl
  | succ n ih =>
    refine ⟨i + 1, ⟨rfl, h i (Nat.le_refl i) (by omega)⟩, ?_⟩
    have hrest := ih (i + 1) (fun k hk hkn => h k (by omega) (by omega))
    rwa [Nat.add_right_comm] at hrest

/-- Greedy rounds of one character take all that are marked. -/
theorem walk_rounds {set : CharSet} {view : Nat → Marks} {rest : Nat → Bool}
    (hr : Reads text (.plus true (.char set)) view rest) {i : Nat}
    (hmark : (view i).isHere = true) :
    ∃ j, (Node.plus true (.char set)).walk text view rest i = ⟨j, []⟩ ∧ i < j ∧
      (view j).isHere = false ∧ ∀ k, i ≤ k → k < j → (view k).isHere = true := by
  have hlt := hr.fits.lt_of_isHere hmark
  have hwalk : (Node.char set).walk text view
      (fun j => rest j || (view j).isHere) i = ⟨i + 1, []⟩ := by
    rw [walk, if_pos hmark]
  obtain ⟨j, hj, hle, hlast, hall⟩ := roundsWhile_marked
    (fun j => rest j || (view j).isHere) set hr.fits (text.size + 1) ⟨i + 1, []⟩
    (by simp only; omega) (by simp only; omega)
  refine ⟨j, ?_, hle, hlast, fun k hk hkj => ?_⟩
  · rw [walk]
    simp only [isNullable, Bool.false_eq_true, if_false, can, if_true]
    rw [hwalk, hj]
  · by_cases heq : k = i
    · rw [heq]
      exact hmark
    · exact hall k (by simp only; omega) hkj

/-- From an index where a match of a simple pattern can go on, the walk is a match, and what follows
can be matched behind it.  Of rounds, the last index passed is marked, so what follows or one more
round can be matched there. -/
theorem walk_matches {node : Node} (hs : node.Simple) {view : Nat → Marks} {rest : Nat → Bool}
    (hr : Reads text node view rest) {i : Nat}
    (hcan : node.can (Assertion.holds text i) (view i) (rest i) = true) :
    node.Matches text i (node.walk text view rest i).stop ∧
      rest (node.walk text view rest i).stop = true := by
  induction hs generalizing view rest i with
  | empty => exact ⟨rfl, hcan⟩
  | char set =>
    have hmark : (view i).isHere = true := hcan
    obtain ⟨hset, hrest⟩ := hr.isHere_iff.1 hmark
    rw [walk, if_pos hmark]
    exact ⟨⟨rfl, hset⟩, hrest⟩
  | word edge ascii =>
    obtain ⟨hrest, hholds⟩ := Bool.and_eq_true_iff.1 hcan
    exact ⟨⟨rfl, hholds⟩, hrest⟩
  | seq _ hb iha ihb =>
    obtain ⟨hfirst, hmiddle⟩ := iha (hr.seq_first hb) hcan
    obtain ⟨hsecond, hrest⟩ := ihb hr.seq_second hmiddle
    rw [walk]
    simp only [Arrival.followed_stop]
    exact ⟨⟨_, hfirst, hsecond⟩, hrest⟩
  | alt _ _ iha ihb =>
    rw [walk]
    split
    case isTrue hfirst =>
      obtain ⟨hmatch, hrest⟩ := iha hr.alt_first hfirst
      exact ⟨.inl hmatch, hrest⟩
    case isFalse hfirst =>
      obtain ⟨hmatch, hrest⟩ := ihb hr.alt_second
        ((Bool.or_eq_true_iff.1 hcan).resolve_left hfirst)
      exact ⟨.inr hmatch, hrest⟩
  | group name _ ih =>
    rw [walk, Arrival.closed_stop]
    exact ih hr.group hcan
  | rounds set =>
    obtain ⟨j, hwalk, hlt, hlast, hmarks⟩ := walk_rounds hr hcan
    rw [hwalk]
    constructor
    · refine ⟨j - i - 1, ?_⟩
      have hrounds := rounds_char set i (j - i - 1 + 1)
        (fun k hk hkn => (hr.rounds.isHere_iff.1 (hmarks k hk (by omega))).1)
      rwa [show i + (j - i - 1 + 1) = j by omega] at hrounds
    · have hbehind := (hr.rounds.isHere_iff.1 (hmarks (j - 1) (by omega) (by omega))).2
      rw [show j - 1 + 1 = j by omega, hlast, Bool.or_false] at hbehind
      exact hbehind

end Node

/-- Where sweeping tells the same as `can`, a walk is made wherever a match can start. -/
theorem matchAt?_eq_of_sweep {node : Node} {text : Array Char} {i : Nat} (hi : i ≤ text.size)
    (hsweep : (node.sweep (Assertion.holds text i) (view node text i) true).1 =
      node.can (Assertion.holds text i) (view node text i) true) :
    node.matchAt? text (outlooks node text) i =
      if node.can (Assertion.holds text i) (view node text i) true then
        some (node.walk text (view node text) (fun _ => true) i)
      else none := by
  have hlt : i < (outlooks node text).size := by
    rw [outlooks_size]
    omega
  have ho : (outlooks node text)[i]? = some (outlooks node text)[i] :=
    Array.getElem?_eq_getElem hlt
  rw [Node.matchAt?, ho]
  simp only [opens_eq ho, hsweep]
  rfl

theorem matchAt?_eq_walk {node : Node} (hs : node.Simple) {text : Array Char} {i : Nat}
    (hi : i ≤ text.size) :
    node.matchAt? text (outlooks node text) i =
      if node.can (Assertion.holds text i) (view node text i) true then
        some (node.walk text (view node text) (fun _ => true) i)
      else none :=
  matchAt?_eq_of_sweep hi (Node.sweep_fst hs _ _ _)

/-- What is found of a simple pattern at an index is a match. -/
theorem matchAt?_matches {node : Node} (hs : node.Simple) {text : Array Char} {i : Nat}
    {a : Arrival} (h : node.matchAt? text (outlooks node text) i = some a) :
    node.Matches text i a.stop := by
  rw [matchAt?_eq_walk hs (matchAt?_within h).1] at h
  split at h
  case isTrue hcan =>
    cases h
    exact (Node.walk_matches hs (Node.reads_view node text) hcan).1
  case isFalse => cases h

theorem Rounds.lt_and {text : Array Char} {set : CharSet} {n i j : Nat}
    (h : Rounds ((Node.char set).Matches text) n i j) :
    j = i + n ∧ ∀ k, i ≤ k → k < j → ∃ c, text[k]? = some c ∧ set.has c = true := by
  induction n generalizing i with
  | zero =>
    obtain rfl : j = i := h
    exact ⟨rfl, fun k hk hkj => by omega⟩
  | succ n ih =>
    obtain ⟨_, ⟨rfl, hset⟩, hrest⟩ := h
    obtain ⟨hj, hall⟩ := ih hrest
    refine ⟨by omega, ?_⟩
    intro k hk hkj
    by_cases heq : k = i
    · rw [heq]; exact hset
    · exact hall k (by omega) hkj

/-! ## Matches are found -/

namespace Node

variable {text : Array Char}

/-- A stretch that ends where what follows can be matched lets the match go on. -/
theorem Matches.can {node : Node} (hs : node.Simple) {view : Nat → Marks} {rest : Nat → Bool}
    (hr : Reads text node view rest) {i j : Nat} (h : node.Matches text i j)
    (hrest : rest j = true) :
    node.can (Assertion.holds text i) (view i) (rest i) = true := by
  induction hs generalizing view rest i j with
  | empty =>
    obtain rfl : j = i := h
    exact hrest
  | char set =>
    obtain ⟨rfl, hset⟩ := h
    exact hr.isHere_iff.2 ⟨hset, hrest⟩
  | word edge ascii =>
    obtain ⟨rfl, hholds⟩ := h
    exact Bool.and_eq_true_iff.2 ⟨hrest, hholds⟩
  | seq _ hb iha ihb =>
    obtain ⟨k, hfirst, hsecond⟩ := h
    have hmiddle := ihb hr.seq_second hsecond hrest
    exact iha (hr.seq_first hb) hfirst hmiddle
  | alt _ _ iha ihb =>
    apply Bool.or_eq_true_iff.2
    rcases h with h | h
    · exact .inl (iha hr.alt_first h hrest)
    · exact .inr (ihb hr.alt_second h hrest)
  | group name _ ih => exact ih hr.group h hrest
  | rounds set =>
    obtain ⟨n, hn⟩ := h
    obtain ⟨rfl, hset⟩ := hn.lt_and
    -- Backwards from the last round: each character is marked since one follows or the end does.
    have hmarks : ∀ m, m ≤ n → (view (i + (n - m))).isHere = true := by
      intro m
      induction m with
      | zero =>
        intro _
        refine hr.rounds.isHere_iff.2 ⟨hset _ (by omega) (by omega), ?_⟩
        apply Bool.or_eq_true_iff.2
        exact .inl hrest
      | succ m ih =>
        intro hm
        refine hr.rounds.isHere_iff.2 ⟨hset _ (by omega) (by omega), ?_⟩
        apply Bool.or_eq_true_iff.2
        rw [show i + (n - (m + 1)) + 1 = i + (n - m) by omega]
        exact .inr (ih (by omega))
    have hfirst := hmarks n (Nat.le_refl n)
    rwa [Nat.sub_self, Nat.add_zero] at hfirst

end Node

/-- Where a simple pattern stands for some stretch, one is found. -/
theorem exists_matchAt? {node : Node} (hs : node.Simple) {text : Array Char} {i j : Nat}
    (h : node.Matches text i j) (hi : i ≤ text.size) :
    ∃ a, node.matchAt? text (outlooks node text) i = some a := by
  rw [matchAt?_eq_walk hs hi, if_pos (h.can hs (Node.reads_view node text) rfl)]
  exact ⟨_, rfl⟩

namespace Node

variable {text : Array Char}

/-- A match runs over characters that the pattern does not avoid. -/
theorem Matches.not_avoids {node : Node} (hs : node.Simple) {i j : Nat}
    (h : node.Matches text i j) :
    i ≤ j ∧ ∀ k, i ≤ k → k < j → ∃ c, text[k]? = some c ∧ node.avoids c = false := by
  induction hs generalizing i j with
  | empty =>
    obtain rfl : j = i := h
    exact ⟨Nat.le_refl _, fun k hk hkj => by omega⟩
  | char set =>
    obtain ⟨rfl, c, hc, hset⟩ := h
    refine ⟨Nat.le_succ i, ?_⟩
    intro k hk hkj
    obtain rfl : k = i := by omega
    exact ⟨c, hc, by simp [avoids, hset]⟩
  | word edge ascii =>
    obtain ⟨rfl, -⟩ := h
    exact ⟨Nat.le_refl _, fun k hk hkj => by omega⟩
  | seq _ _ iha ihb =>
    obtain ⟨m, ha, hb⟩ := h
    obtain ⟨hle, hall⟩ := iha ha
    obtain ⟨hle', hall'⟩ := ihb hb
    refine ⟨Nat.le_trans hle hle', ?_⟩
    intro k hk hkj
    by_cases hkm : k < m
    · obtain ⟨c, hc, hfalse⟩ := hall k hk hkm
      exact ⟨c, hc, by simp [avoids, hfalse]⟩
    · obtain ⟨c, hc, hfalse⟩ := hall' k (by omega) hkj
      exact ⟨c, hc, by simp [avoids, hfalse]⟩
  | alt _ _ iha ihb =>
    rcases h with h | h
    · obtain ⟨hle, hall⟩ := iha h
      refine ⟨hle, fun k hk hkj => ?_⟩
      obtain ⟨c, hc, hfalse⟩ := hall k hk hkj
      exact ⟨c, hc, by simp [avoids, hfalse]⟩
    · obtain ⟨hle, hall⟩ := ihb h
      refine ⟨hle, fun k hk hkj => ?_⟩
      obtain ⟨c, hc, hfalse⟩ := hall k hk hkj
      exact ⟨c, hc, by simp [avoids, hfalse]⟩
  | group name _ ih => exact ih h
  | rounds set =>
    obtain ⟨n, hn⟩ := h
    obtain ⟨hj, hall⟩ := Rounds.lt_and hn
    refine ⟨by omega, fun k hk hkj => ?_⟩
    obtain ⟨c, hc, hset⟩ := hall k hk hkj
    exact ⟨c, hc, by simp [avoids, hset]⟩

theorem Matches.lt {node : Node} (hs : node.Simple) (hnull : node.isNullable = false) {i j : Nat}
    (h : node.Matches text i j) : i < j := by
  induction hs generalizing i j with
  | empty => cases hnull
  | char set =>
    obtain ⟨rfl, -⟩ := h
    exact Nat.lt_succ_self i
  | word edge ascii => cases hnull
  | seq hsa hsb iha ihb =>
    obtain ⟨m, ha, hb⟩ := h
    have hle := (ha.not_avoids hsa).1
    have hle' := (hb.not_avoids hsb).1
    rcases Bool.and_eq_false_iff.1 hnull with hnull | hnull
    · have hlt := iha hnull ha
      omega
    · have hlt := ihb hnull hb
      omega
  | alt _ _ iha ihb =>
    obtain ⟨hna, hnb⟩ := Bool.or_eq_false_iff.1 hnull
    rcases h with h | h
    · exact iha hna h
    · exact ihb hnb h
  | group name _ ih => exact ih hnull h
  | rounds set =>
    obtain ⟨n, hn⟩ := h
    have hj := (Rounds.lt_and hn).1
    omega

end Node

/-! ## Matching is local -/

/-- The characters at which code and other text can meet: line ends, quotes and the slash. -/
def borders : List Char := ['\n', '\r', '/', '\x60', '\x22', '\x27']

/-- Is there no character at the index but a border? -/
def IsBarrier (text : Array Char) (i : Nat) : Prop := ∀ c, text[i]? = some c → c ∈ borders

/-- A check of the members of a list, whatever else their type holds. -/
theorem forall_mem_of_all {α : Type} {P : α → Prop} [DecidablePred P] {xs : List α}
    (h : xs.all (fun x => decide (P x)) = true) : ∀ x ∈ xs, P x := by
  simpa using h

theorem isWord_border {c : Char} (h : c ∈ borders) (ascii : Bool) :
    Assertion.isWord ascii (some c) = false := by
  have hall : ∀ c ∈ borders, ∀ ascii, Assertion.isWord ascii (some c) = false :=
    forall_mem_of_all (by decide +kernel)
  exact hall c h ascii

theorem IsBarrier.isWord {text : Array Char} {i : Nat} (h : IsBarrier text i) (ascii : Bool) :
    Assertion.isWord ascii text[i]? = false := by
  cases hc : text[i]? with
  | none => rfl
  | some c => exact isWord_border (h c hc) ascii

/-- Does the pattern avoid all borders? -/
def Node.AvoidsBorders (node : Node) : Prop := ∀ c ∈ borders, node.avoids c = true

instance (node : Node) : Decidable node.AvoidsBorders :=
  decidable_of_iff (borders.all node.avoids = true) List.all_eq_true

/-- A simple pattern that matches neither the empty text nor a border. -/
structure Node.IsTame (node : Node) : Prop where
  simple : node.Simple
  avoids : node.AvoidsBorders
  not_nullable : node.isNullable = false

/-- A match of a tame pattern holds a character, and no barrier. -/
theorem Node.IsTame.of_matchAt? {node : Node} (h : node.IsTame) {text : Array Char} {i : Nat}
    {a : Arrival} (ha : node.matchAt? text (outlooks node text) i = some a) :
    i < a.stop ∧ ∀ k, i ≤ k → k < a.stop → ¬ IsBarrier text k := by
  have hmatch := matchAt?_matches h.simple ha
  refine ⟨hmatch.lt h.simple h.not_nullable, ?_⟩
  intro k hk hka hbarrier
  obtain ⟨c, hc, hfalse⟩ := (hmatch.not_avoids h.simple).2 k hk hka
  rw [h.avoids c (hbarrier c hc)] at hfalse
  cases hfalse

/-- No match of a pattern that avoids borders goes on at a barrier. -/
theorem IsBarrier.view {node : Node} (hs : node.Simple) (ha : node.AvoidsBorders)
    {text : Array Char} {i : Nat} (h : IsBarrier text i) : Pattern.view node text i = .none := by
  cases hc : text[i]? with
  | none => exact view_beyond (Array.getElem?_eq_none_iff.1 hc)
  | some c => rw [view_eq hc, Node.take_avoids hs (ha c (h c hc))]

/-- Two stretches of two texts with the same characters, each of which a barrier ends, and with
the same kind of neighbour before them. -/
structure Alike (text₁ text₂ : Array Char) (i₁ i₂ n : Nat) : Prop where
  same : ∀ k, k < n → text₁[i₁ + k]? = text₂[i₂ + k]?
  before : ∀ ascii, Assertion.isWord ascii (Assertion.before? text₁ i₁) =
    Assertion.isWord ascii (Assertion.before? text₂ i₂)
  barrier₁ : IsBarrier text₁ (i₁ + n)
  barrier₂ : IsBarrier text₂ (i₂ + n)
  size₁ : i₁ + n ≤ text₁.size
  size₂ : i₂ + n ≤ text₂.size

namespace Alike

variable {text₁ text₂ : Array Char} {i₁ i₂ n : Nat}

theorem holds (h : Alike text₁ text₂ i₁ i₂ n) {k : Nat} (hk : k ≤ n) (edge : WordEdge)
    (ascii : Bool) :
    Assertion.holds text₁ (i₁ + k) (.word edge ascii) =
      Assertion.holds text₂ (i₂ + k) (.word edge ascii) := by
  have hbefore : Assertion.isWord ascii (Assertion.before? text₁ (i₁ + k)) =
      Assertion.isWord ascii (Assertion.before? text₂ (i₂ + k)) := by
    cases k with
    | zero => exact h.before ascii
    | succ k => exact congrArg _ (h.same k hk)
  have hafter : Assertion.isWord ascii text₁[i₁ + k]? = Assertion.isWord ascii text₂[i₂ + k]? := by
    by_cases hlt : k < n
    · rw [h.same k hlt]
    · obtain rfl : k = n := by omega
      rw [h.barrier₁.isWord, h.barrier₂.isWord]
  rw [Assertion.holds, Assertion.holds, hbefore, hafter]

end Alike

namespace Node

def conditions : Node → List Assertion
  | .empty | .char _ => []
  | .assertion a => [a]
  | .seq a b | .alt a b => a.conditions ++ b.conditions
  | .group _ a | .star _ a | .plus _ a | .exactly _ a | .upTo _ _ a => a.conditions

theorem Simple.conditions_eq {node : Node} (hs : node.Simple) {holds₁ holds₂ : Conditions}
    (h : ∀ edge ascii, holds₁ (.word edge ascii) = holds₂ (.word edge ascii)) :
    ∀ a ∈ node.conditions, holds₁ a = holds₂ a := by
  induction hs with
  | empty | char set | rounds set => exact fun _ ha => nomatch ha
  | word edge ascii =>
    intro a ha
    rw [List.mem_singleton.1 ha]
    exact h edge ascii
  | seq _ _ iha ihb | alt _ _ iha ihb =>
    intro a ha
    exact (List.mem_append.1 ha).elim (iha a) (ihb a)
  | group name _ ih => exact ih

theorem can_congr {node : Node} (hs : node.Simple) {holds₁ holds₂ : Conditions}
    (h : ∀ a ∈ node.conditions, holds₁ a = holds₂ a) (m : Marks) (rest : Bool) :
    node.can holds₁ m rest = node.can holds₂ m rest := by
  induction hs generalizing m rest with
  | empty => rfl
  | char set => rfl
  | word edge ascii => rw [can, can, h _ List.mem_cons_self]
  | seq _ _ iha ihb | alt _ _ iha ihb =>
    obtain ⟨ha, hb⟩ := List.forall_mem_append.1 h
    rw [can, can, ihb hb, iha ha]
  | group name _ ih => exact ih h m rest
  | rounds set => rfl

theorem sweep_congr {node : Node} (hs : node.Simple) {holds₁ holds₂ : Conditions}
    (h : ∀ a ∈ node.conditions, holds₁ a = holds₂ a) (m : Marks) (rest : Bool) :
    node.sweep holds₁ m rest = node.sweep holds₂ m rest := by
  induction hs generalizing m rest with
  | empty => rfl
  | char set => rfl
  | word edge ascii => rw [sweep, sweep, h _ List.mem_cons_self]
  | seq _ _ iha ihb | alt _ _ iha ihb =>
    obtain ⟨ha, hb⟩ := List.forall_mem_append.1 h
    simp only [sweep, iha ha, ihb hb]
  | group name _ ih => exact ih h m rest
  | rounds set => rfl

end Node

namespace Alike

variable {text₁ text₂ : Array Char} {i₁ i₂ n : Nat}

/-- Marks are the same from the barrier back to the start of the stretches. -/
theorem view_eq {node : Node} (hs : node.Simple) (ha : node.AvoidsBorders)
    (h : Alike text₁ text₂ i₁ i₂ n) {k : Nat} (hk : k ≤ n) :
    Pattern.view node text₁ (i₁ + k) = Pattern.view node text₂ (i₂ + k) := by
  induction hm : n - k generalizing k with
  | zero =>
    obtain rfl : k = n := by omega
    rw [h.barrier₁.view hs ha, h.barrier₂.view hs ha]
  | succ m ih =>
    have hnext := ih (k := k + 1) (by omega) (by omega)
    have hsame := h.same k (by omega)
    cases hc : text₁[i₁ + k]? with
    | none =>
      have hc₂ : text₂[i₂ + k]? = none := by rw [← hsame, hc]
      rw [view_beyond (Array.getElem?_eq_none_iff.1 hc),
        view_beyond (Array.getElem?_eq_none_iff.1 hc₂)]
    | some c =>
      rw [Pattern.view_eq hc, Pattern.view_eq (hsame.symm.trans hc), Nat.add_assoc i₁,
        Nat.add_assoc i₂, hnext,
        Node.sweep_congr hs (hs.conditions_eq (h.holds (k := k + 1) (by omega)))]

end Alike

/-- Marks that are the same all along two stretches, and gone at their ends. -/
structure SameMarks (text₁ text₂ : Array Char) (i₁ i₂ n : Nat) (view₁ view₂ : Nat → Marks) :
    Prop where
  fits₁ : Fits text₁ view₁
  fits₂ : Fits text₂ view₂
  same : ∀ k, k ≤ n → view₁ (i₁ + k) = view₂ (i₂ + k)
  stop : view₁ (i₁ + n) = .none

namespace SameMarks

variable {text₁ text₂ : Array Char} {i₁ i₂ n : Nat} {view₁ view₂ : Nat → Marks}

theorem first (h : SameMarks text₁ text₂ i₁ i₂ n view₁ view₂) :
    SameMarks text₁ text₂ i₁ i₂ n (fun i => (view₁ i).first) (fun i => (view₂ i).first) :=
  ⟨h.fits₁.first, h.fits₂.first, fun k hk => congrArg Marks.first (h.same k hk),
    congrArg Marks.first h.stop⟩

theorem second (h : SameMarks text₁ text₂ i₁ i₂ n view₁ view₂) :
    SameMarks text₁ text₂ i₁ i₂ n (fun i => (view₁ i).second) (fun i => (view₂ i).second) :=
  ⟨h.fits₁.second, h.fits₂.second, fun k hk => congrArg Marks.second (h.same k hk),
    congrArg Marks.second h.stop⟩

theorem lt_of_isHere (h : SameMarks text₁ text₂ i₁ i₂ n view₁ view₂) {k : Nat} (hk : k ≤ n)
    (hmark : (view₁ (i₁ + k)).isHere = true) : k < n := by
  by_contra hge
  obtain rfl : k = n := by omega
  rw [h.stop] at hmark
  cases hmark

end SameMarks

theorem Arrival.join_groups {a b : Arrival} (name : String) (h : a.groups = b.groups) :
    (a.join name).groups = (b.join name).groups := by
  rw [join, join, h]
  split
  · exact h
  · rfl

theorem Arrival.closed_groups {a b : Arrival} (name : Option String) (h : a.groups = b.groups) :
    (a.closed name).groups = (b.closed name).groups := by
  cases name with
  | none => exact h
  | some name => exact join_groups name h

theorem Arrival.followed_groups {a b c d : Arrival} (h : a.groups = b.groups)
    (h' : c.groups = d.groups) : (a.followed c).groups = (b.followed d).groups := by
  have hfold : ∀ (names : List String) (a b : Arrival), a.groups = b.groups →
      (names.foldl join a).groups = (names.foldl join b).groups := by
    intro names
    induction names with
    | nil => intro a b hab; exact hab
    | cons name names ih => intro a b hab; exact ih _ _ (join_groups name hab)
  rw [followed, followed, h']
  exact hfold _ _ _ h

namespace Alike

variable {text₁ text₂ : Array Char} {i₁ i₂ n : Nat} {view₁ view₂ : Nat → Marks}

theorem sameMarks {node : Node} (hs : node.Simple) (ha : node.AvoidsBorders)
    (h : Alike text₁ text₂ i₁ i₂ n) :
    SameMarks text₁ text₂ i₁ i₂ n (Pattern.view node text₁) (Pattern.view node text₂) :=
  ⟨fun _ hi => view_beyond hi, fun _ hi => view_beyond hi, fun _ hk => h.view_eq hs ha hk,
    h.barrier₁.view hs ha⟩

/-- Rounds of a character that see the same marks end at the same place: the first index without a
mark, which is at the barrier at the latest. -/
theorem roundsWhile_eq (h : Alike text₁ text₂ i₁ i₂ n)
    (hm : SameMarks text₁ text₂ i₁ i₂ n view₁ view₂) (set : CharSet) (rest₁ rest₂ : Nat → Bool)
    {k : Nat} (hk : k ≤ n) :
    ∃ j, k ≤ j ∧ j ≤ n ∧
      roundsWhile (fun i => (view₁ i).isHere) ((Node.char set).walk text₁ view₁ rest₁)
        (text₁.size + 1) ⟨i₁ + k, []⟩ = ⟨i₁ + j, []⟩ ∧
      roundsWhile (fun i => (view₂ i).isHere) ((Node.char set).walk text₂ view₂ rest₂)
        (text₂.size + 1) ⟨i₂ + k, []⟩ = ⟨i₂ + j, []⟩ := by
  have hsize₁ := h.size₁
  have hsize₂ := h.size₂
  obtain ⟨j₁, hj₁, hle₁, hlast₁, hall₁⟩ := Node.roundsWhile_marked rest₁ set hm.fits₁
    (text₁.size + 1) ⟨i₁ + k, []⟩ (by simp only; omega) (by simp only; omega)
  obtain ⟨j₂, hj₂, hle₂, hlast₂, hall₂⟩ := Node.roundsWhile_marked rest₂ set hm.fits₂
    (text₂.size + 1) ⟨i₂ + k, []⟩ (by simp only; omega) (by simp only; omega)
  simp only at hle₁ hle₂ hall₁ hall₂
  have hlt₁ : j₁ ≤ i₁ + n := by
    by_contra hgt
    have hmark := hall₁ (i₁ + n) (by omega) (by omega)
    rw [hm.stop] at hmark
    cases hmark
  have heq : j₂ = i₂ + (j₁ - i₁) := by
    rcases Nat.lt_trichotomy j₂ (i₂ + (j₁ - i₁)) with hlt | heq | hgt
    · have hmark := hall₁ (i₁ + (j₂ - i₂)) (by omega) (by omega)
      rw [hm.same _ (by omega), show i₂ + (j₂ - i₂) = j₂ by omega, hlast₂] at hmark
      cases hmark
    · exact heq
    · have hmark := hall₂ (i₂ + (j₁ - i₁)) (by omega) hgt
      rw [← hm.same _ (by omega), show i₁ + (j₁ - i₁) = j₁ by omega, hlast₁] at hmark
      cases hmark
  refine ⟨j₁ - i₁, by omega, by omega, ?_, ?_⟩
  · rw [hj₁, show i₁ + (j₁ - i₁) = j₁ by omega]
  · rw [hj₂, heq]

/-- Walks that see the same marks go the same way. -/
theorem walk_eq {node : Node} (hs : node.Simple) (h : Alike text₁ text₂ i₁ i₂ n)
    (hm : SameMarks text₁ text₂ i₁ i₂ n view₁ view₂) (rest₁ rest₂ : Nat → Bool)
    (hrest : ∀ k, k ≤ n → rest₁ (i₁ + k) = rest₂ (i₂ + k)) {k : Nat} (hk : k ≤ n) :
    ∃ j, k ≤ j ∧ j ≤ n ∧ (node.walk text₁ view₁ rest₁ (i₁ + k)).stop = i₁ + j ∧
      (node.walk text₂ view₂ rest₂ (i₂ + k)).stop = i₂ + j ∧
      (node.walk text₁ view₁ rest₁ (i₁ + k)).groups =
        (node.walk text₂ view₂ rest₂ (i₂ + k)).groups := by
  induction hs generalizing view₁ view₂ rest₁ rest₂ k with
  | empty => exact ⟨k, Nat.le_refl k, hk, rfl, rfl, rfl⟩
  | char set =>
    rw [Node.walk, Node.walk, ← hm.same k hk]
    split
    case isTrue hmark => exact ⟨k + 1, Nat.le_succ k, hm.lt_of_isHere hk hmark, rfl, rfl, rfl⟩
    case isFalse => exact ⟨k, Nat.le_refl k, hk, rfl, rfl, rfl⟩
  | word edge ascii => exact ⟨k, Nat.le_refl k, hk, rfl, rfl, rfl⟩
  | @seq a b _ hsb iha ihb =>
    have hmiddle : ∀ k, k ≤ n →
        b.can (Assertion.holds text₁ (i₁ + k)) (view₁ (i₁ + k)).second (rest₁ (i₁ + k)) =
          b.can (Assertion.holds text₂ (i₂ + k)) (view₂ (i₂ + k)).second (rest₂ (i₂ + k)) := by
      intro k hk
      rw [hm.second.same k hk, hrest k hk, Node.can_congr hsb (hsb.conditions_eq (h.holds hk))]
    obtain ⟨j, hkj, hjn, hj₁, hj₂, hgroups⟩ := iha hm.first
      (fun i => b.can (Assertion.holds text₁ i) (view₁ i).second (rest₁ i))
      (fun i => b.can (Assertion.holds text₂ i) (view₂ i).second (rest₂ i)) hmiddle hk
    obtain ⟨l, hjl, hln, hl₁, hl₂, hgroups'⟩ := ihb hm.second rest₁ rest₂ hrest hjn
    simp only [Node.walk, Arrival.followed_stop, hj₁, hj₂]
    exact ⟨l, Nat.le_trans hkj hjl, hln, hl₁, hl₂, Arrival.followed_groups hgroups hgroups'⟩
  | @alt a b hsa _ iha ihb =>
    rw [Node.walk, Node.walk, hrest k hk, hm.first.same k hk,
      Node.can_congr hsa (hsa.conditions_eq (h.holds hk))]
    split
    · exact iha hm.first rest₁ rest₂ hrest hk
    · exact ihb hm.second rest₁ rest₂ hrest hk
  | group name _ ih =>
    obtain ⟨j, hkj, hjn, hj₁, hj₂, hgroups⟩ := ih hm rest₁ rest₂ hrest hk
    simp only [Node.walk, Arrival.closed_stop]
    exact ⟨j, hkj, hjn, hj₁, hj₂, Arrival.closed_groups name hgroups⟩
  | rounds set =>
    simp only [Node.walk, Node.isNullable, Bool.false_eq_true, if_false, Node.can, if_true]
    rw [← hm.same k hk]
    split
    case isTrue hmark =>
      obtain ⟨j, hkj, hjn, hj₁, hj₂⟩ := h.roundsWhile_eq hm set
        (fun i => rest₁ i || (view₁ i).isHere) (fun i => rest₂ i || (view₂ i).isHere)
        (hm.lt_of_isHere hk hmark)
      exact ⟨j, by omega, hjn, congrArg Arrival.stop hj₁, congrArg Arrival.stop hj₂,
        (congrArg Arrival.groups hj₁).trans (congrArg Arrival.groups hj₂).symm⟩
    case isFalse =>
      obtain ⟨j, hkj, hjn, hj₁, hj₂⟩ := h.roundsWhile_eq hm set
        (fun i => rest₁ i || (view₁ i).isHere) (fun i => rest₂ i || (view₂ i).isHere) hk
      exact ⟨j, hkj, hjn, congrArg Arrival.stop hj₁, congrArg Arrival.stop hj₂,
        (congrArg Arrival.groups hj₁).trans (congrArg Arrival.groups hj₂).symm⟩

/-- What is found at the starts of two stretches of the same characters is the same. -/
theorem matchAt?_eq {node : Node} (hs : node.Simple) (ha : node.AvoidsBorders)
    (h : Alike text₁ text₂ i₁ i₂ n) :
    (node.matchAt? text₁ (outlooks node text₁) i₁ = none ∧
      node.matchAt? text₂ (outlooks node text₂) i₂ = none) ∨
    ∃ j groups, j ≤ n ∧
      node.matchAt? text₁ (outlooks node text₁) i₁ = some ⟨i₁ + j, groups⟩ ∧
      node.matchAt? text₂ (outlooks node text₂) i₂ = some ⟨i₂ + j, groups⟩ := by
  have hcan : node.can (Assertion.holds text₁ i₁) (Pattern.view node text₁ i₁) true =
      node.can (Assertion.holds text₂ i₂) (Pattern.view node text₂ i₂) true := by
    have hview := h.view_eq hs ha (Nat.zero_le n)
    have hholds := h.holds (Nat.zero_le n)
    rw [Nat.add_zero, Nat.add_zero] at hview hholds
    rw [hview, Node.can_congr hs (hs.conditions_eq hholds)]
  have hsize₁ := h.size₁
  have hsize₂ := h.size₂
  rw [matchAt?_eq_walk hs (by omega), matchAt?_eq_walk hs (by omega), hcan]
  split
  · right
    obtain ⟨j, -, hjn, hj₁, hj₂, hgroups⟩ := h.walk_eq hs (h.sameMarks hs ha) (fun _ => true)
      (fun _ => true) (fun _ _ => rfl) (Nat.zero_le n)
    refine ⟨j, (node.walk text₁ (Pattern.view node text₁) (fun _ => true) i₁).groups, hjn, ?_, ?_⟩
    · rw [← hj₁]
      rfl
    · rw [← hj₂]
      exact congrArg (fun groups => some (Arrival.mk _ groups)) hgroups.symm
  · exact .inl ⟨rfl, rfl⟩

end Alike

end ScopeLint.Pattern
