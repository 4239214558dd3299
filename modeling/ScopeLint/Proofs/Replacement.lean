import Mathlib.Data.List.Pairwise
import ScopeLint.Diagnostic
import ScopeLint.Proofs.Coordinates

/-!
# Replacing spans by suggestions

Fixes are applied to a text all at once: a character outside of all spans is kept, the first
character of a span makes way for the suggestion, and the other characters of the span are dropped.
Where the spans are apart and each suggestion is as long as its span, every index keeps its place,
and what stands there afterwards is said index by index.
-/

namespace ScopeLint

/-- Neither span starts before the other one stops. -/
def Span.Apart (s t : Span) : Prop := s.stop ≤ t.start ∨ t.stop ≤ s.start

theorem Span.Apart.not_contains {s t : Span} (h : s.Apart t) {p : Position}
    (hs : s.contains p = true) : ¬ t.contains p = true := by
  intro ht
  simp only [contains_iff, Position.le_def, Position.lt_def] at hs ht
  simp only [Apart, Position.le_def] at h
  omega

instance : Std.Symm (fun x y : Diagnostic => x.span.Apart y.span) := ⟨fun _ _ h => h.symm⟩

/-- The rest of a text, which starts at a position, with every fix applied. -/
def replaceFrom (fixes : List Diagnostic) (p : Position) : List Char → List Char
  | [] => []
  | c :: cs =>
    match fixes.find? (fun x => x.span.contains p) with
    | none => c :: replaceFrom fixes (p.step c) cs
    | some x =>
      if x.span.start = p then (x.suggestion.getD "").toList ++ replaceFrom fixes (p.step c) cs
      else replaceFrom fixes (p.step c) cs

/-- Replace the text of each span by its suggestion. -/
def replaceAll (fixes : List Diagnostic) (text : String) : String :=
  String.ofList (replaceFrom fixes Position.origin text.toList)

/-! ## Positions of indices -/

/-- The position of an index of a text. -/
def Position.ofIndex (cs : List Char) (i : Nat) : Position := origin.after (cs.take i)

namespace Position

variable {cs : List Char} {i j : Nat}

theorem step_ofIndex (hi : i < cs.length) : (ofIndex cs i).step cs[i] = ofIndex cs (i + 1) := by
  rw [ofIndex, ofIndex, List.take_succ_eq_append_getElem hi, after_append]
  rfl

theorem ofIndex_mono (hij : i ≤ j) : ofIndex cs i ≤ ofIndex cs j := by
  have hcut : cs.take j = cs.take i ++ (cs.drop i).take (j - i) := by
    rw [← List.take_add, Nat.add_sub_cancel' hij]
  rw [ofIndex, ofIndex, hcut, after_append]
  exact le_after _ _

theorem ofIndex_lt_iff (hj : j ≤ cs.length) : ofIndex cs i < ofIndex cs j ↔ i < j := by
  refine ⟨fun h => ?_, fun h => lt_after_take _ h hj⟩
  by_contra hle
  exact not_lt_of_le (ofIndex_mono (Nat.le_of_not_lt hle)) h

theorem ofIndex_le_iff (hi : i ≤ cs.length) : ofIndex cs i ≤ ofIndex cs j ↔ i ≤ j := by
  refine ⟨fun h => ?_, ofIndex_mono⟩
  by_contra hlt
  exact not_lt_of_le h ((ofIndex_lt_iff hi).2 (Nat.lt_of_not_le hlt))

theorem ofIndex_inj (hi : i ≤ cs.length) (hj : j ≤ cs.length)
    (h : ofIndex cs i = ofIndex cs j) : i = j :=
  Nat.le_antisymm ((ofIndex_le_iff hi).1 (h ▸ le_refl _)) ((ofIndex_le_iff hj).1 (h ▸ le_refl _))

end Position

/-! ## Fixes as long as their spans -/

/-- The span of the diagnostic starts at an index and is as long as the word it suggests. -/
structure Diagnostic.FixAt (x : Diagnostic) (cs : List Char) (start : Nat) (word : List Char) :
    Prop where
  ne_nil : word ≠ []
  fits : start + word.length ≤ cs.length
  span_eq : x.span = ⟨.ofIndex cs start, .ofIndex cs (start + word.length)⟩
  suggestion_eq : x.suggestion = some (String.ofList word)

namespace Diagnostic.FixAt

variable {x : Diagnostic} {cs : List Char} {start : Nat} {word : List Char}

theorem length_pos (h : x.FixAt cs start word) : 0 < word.length := List.length_pos_iff.2 h.ne_nil

theorem start_le (h : x.FixAt cs start word) : start ≤ cs.length :=
  Nat.le_trans (Nat.le_add_right _ _) h.fits

theorem contains_iff (h : x.FixAt cs start word) {i : Nat} :
    x.span.contains (.ofIndex cs i) = true ↔ start ≤ i ∧ i < start + word.length := by
  rw [Span.contains_iff, h.span_eq, Position.ofIndex_le_iff h.start_le,
    Position.ofIndex_lt_iff h.fits]

theorem unique (h : x.FixAt cs start word) {start' : Nat} {word' : List Char}
    (h' : x.FixAt cs start' word') : start = start' ∧ word = word' := by
  have hspan := h.span_eq.symm.trans h'.span_eq
  have hword := h.suggestion_eq.symm.trans h'.suggestion_eq
  exact ⟨Position.ofIndex_inj h.start_le h'.start_le (Span.mk.inj hspan).1,
    String.ofList_injective (Option.some.inj hword)⟩

/-- Two fixes are apart when one ends before the other one starts. -/
theorem apart_iff {y : Diagnostic} {start' : Nat} {word' : List Char}
    (h : x.FixAt cs start word) (h' : y.FixAt cs start' word') :
    x.span.Apart y.span ↔ start + word.length ≤ start' ∨ start' + word'.length ≤ start := by
  rw [Span.Apart, h.span_eq, h'.span_eq, Position.ofIndex_le_iff h.fits,
    Position.ofIndex_le_iff h'.fits]

end Diagnostic.FixAt

/-- Fixes that can be applied to a text without moving what is around them. -/
structure Replaceable (fixes : List Diagnostic) (cs : List Char) : Prop where
  fixAt : ∀ x ∈ fixes, ∃ start word, x.FixAt cs start word
  apart : fixes.Pairwise (fun x y => x.span.Apart y.span)

/-- What stands at an index once the fixes are applied: the letter of a suggestion or, outside of
all spans, what stood there. -/
structure ReadsAs (fixes : List Diagnostic) (cs : List Char) (k : Nat) (c : Option Char) :
    Prop where
  inside : ∀ x ∈ fixes, ∀ start word, x.FixAt cs start word →
    start ≤ k → k < start + word.length → c = word[k - start]?
  outside : (∀ x ∈ fixes, ¬ x.span.contains (.ofIndex cs k) = true) → c = cs[k]?

namespace Replaceable

variable {fixes : List Diagnostic} {cs : List Char} {x y : Diagnostic} {start : Nat}
  {word : List Char}

theorem eq_of_contains (h : Replaceable fixes cs) (hx : x ∈ fixes) (hy : y ∈ fixes) {p : Position}
    (hxp : x.span.contains p = true) (hyp : y.span.contains p = true) : x = y := by
  by_contra hne
  exact (h.apart.forall hx hy hne).not_contains hxp hyp

/-- At most one fix covers a position, so the first one that does is the one. -/
theorem find?_eq (h : Replaceable fixes cs) (hx : x ∈ fixes) {p : Position}
    (hp : x.span.contains p = true) :
    fixes.find? (fun y => y.span.contains p) = some x := by
  cases hfind : fixes.find? (fun y => y.span.contains p) with
  | none => exact absurd hp (List.find?_eq_none.1 hfind x hx)
  | some y =>
    have hy := List.find?_some hfind
    rw [h.eq_of_contains (List.mem_of_find?_eq_some hfind) hx hy hp]

/-- Two fixes that cover an index start there with the same word. -/
theorem unique (h : Replaceable fixes cs) (hx : x ∈ fixes) (hy : y ∈ fixes) {k start' : Nat}
    {word' : List Char} (hxat : x.FixAt cs start word) (hyat : y.FixAt cs start' word')
    (hxk : start ≤ k ∧ k < start + word.length) (hyk : start' ≤ k ∧ k < start' + word'.length) :
    start = start' ∧ word = word' := by
  obtain rfl := h.eq_of_contains hx hy (hxat.contains_iff.2 hxk) (hyat.contains_iff.2 hyk)
  exact hxat.unique hyat

/-- Behind its first character the rest of a span is dropped. -/
theorem replaceFrom_inside (h : Replaceable fixes cs) (hx : x ∈ fixes) (hat : x.FixAt cs start word)
    {i : Nat} (hlt : start < i) (hle : i ≤ start + word.length) :
    replaceFrom fixes (.ofIndex cs i) (cs.drop i) =
      replaceFrom fixes (.ofIndex cs (start + word.length)) (cs.drop (start + word.length)) := by
  have hfits := hat.fits
  induction hm : start + word.length - i generalizing i with
  | zero => rw [show i = start + word.length by omega]
  | succ m ih =>
    have hi : i < cs.length := by omega
    have hstart : x.span.start ≠ .ofIndex cs i := by
      rw [hat.span_eq]
      exact mt (Position.ofIndex_inj (by omega) (by omega)) (by omega)
    have hcovers : x.span.contains (.ofIndex cs i) = true :=
      hat.contains_iff.2 (by omega)
    rw [List.drop_eq_getElem_cons hi, replaceFrom, h.find?_eq hx hcovers]
    simp only [hstart, if_false]
    rw [Position.step_ofIndex hi]
    exact ih (by omega) (by omega) (by omega)

/-- A span makes way for its word. -/
theorem replaceFrom_start (h : Replaceable fixes cs) (hx : x ∈ fixes)
    (hat : x.FixAt cs start word) :
    replaceFrom fixes (.ofIndex cs start) (cs.drop start) =
      word ++
        replaceFrom fixes (.ofIndex cs (start + word.length)) (cs.drop (start + word.length)) := by
  have hpos := hat.length_pos
  have hfits := hat.fits
  have hlt : start < cs.length := by omega
  have hstart : x.span.start = .ofIndex cs start := by rw [hat.span_eq]
  have hcovers : x.span.contains (.ofIndex cs start) = true :=
    hat.contains_iff.2 (by omega)
  rw [List.drop_eq_getElem_cons hlt, replaceFrom, h.find?_eq hx hcovers]
  simp only [hstart, if_true, hat.suggestion_eq, Option.getD_some, String.toList_ofList]
  rw [Position.step_ofIndex hlt, h.replaceFrom_inside hx hat (Nat.lt_succ_self start) (by omega)]

theorem replaceFrom_outside {i : Nat} (hi : i < cs.length)
    (hfind : fixes.find? (fun x => x.span.contains (.ofIndex cs i)) = none) :
    replaceFrom fixes (.ofIndex cs i) (cs.drop i) =
      cs[i] :: replaceFrom fixes (.ofIndex cs (i + 1)) (cs.drop (i + 1)) := by
  rw [List.drop_eq_getElem_cons hi, replaceFrom, hfind, Position.step_ofIndex hi]

/-- No span is drawn across the index. -/
def IsClear (fixes : List Diagnostic) (cs : List Char) (i : Nat) : Prop :=
  ∀ x ∈ fixes, ∀ start word, x.FixAt cs start word → ¬ (start < i ∧ i < start + word.length)

theorem isClear_succ {i : Nat}
    (hfind : fixes.find? (fun x => x.span.contains (.ofIndex cs i)) = none) :
    IsClear fixes cs (i + 1) := by
  intro x hx start word hat hcross
  exact List.find?_eq_none.1 hfind x hx (hat.contains_iff.2 (by omega))

/-- A span across the end of another one would share its last character. -/
theorem isClear_stop (h : Replaceable fixes cs) (hx : x ∈ fixes) (hat : x.FixAt cs start word) :
    IsClear fixes cs (start + word.length) := by
  intro y hy start' word' hyat hcross
  have hpos := hat.length_pos
  obtain ⟨rfl, rfl⟩ := h.unique (k := start + word.length - 1) hx hy hat hyat
    (by omega) (by omega)
  omega

theorem readsAs_kept {i : Nat} (hi : i < cs.length)
    (hfind : fixes.find? (fun x => x.span.contains (.ofIndex cs i)) = none) :
    ReadsAs fixes cs i (some cs[i]) where
  inside x hx _ _ hat hle hlt :=
    absurd (hat.contains_iff.2 ⟨hle, hlt⟩) (List.find?_eq_none.1 hfind x hx)
  outside _ := (List.getElem?_eq_getElem hi).symm

theorem readsAs_word (h : Replaceable fixes cs) (hx : x ∈ fixes) (hat : x.FixAt cs start word)
    {k : Nat} (hle : start ≤ k) (hlt : k < start + word.length) :
    ReadsAs fixes cs k word[k - start]? where
  inside y hy start' word' hyat hle' hlt' := by
    obtain ⟨rfl, rfl⟩ := h.unique hx hy hat hyat ⟨hle, hlt⟩ ⟨hle', hlt'⟩
    rfl
  outside hout := absurd (hat.contains_iff.2 ⟨hle, hlt⟩) (hout x hx)

theorem readsAs_end {k : Nat} (hk : cs.length ≤ k) : ReadsAs fixes cs k none where
  inside _ _ _ _ hat _ hlt := absurd (Nat.lt_of_lt_of_le hlt hat.fits) (by omega)
  outside _ := (List.getElem?_eq_none hk).symm

/-- From a clear index on, every index reads as it should.  No span is drawn across such an index,
so one that covers it starts there. -/
theorem readsAs_from (h : Replaceable fixes cs) {i : Nat} (hi : i ≤ cs.length)
    (hclear : IsClear fixes cs i) {k : Nat} (hk : i ≤ k) :
    ReadsAs fixes cs k (replaceFrom fixes (.ofIndex cs i) (cs.drop i))[k - i]? := by
  induction hn : cs.length - i using Nat.strong_induction_on generalizing i with
  | h n ih =>
    rcases Nat.eq_or_lt_of_le hi with hend | hlt
    · rw [hend, List.drop_length, replaceFrom, List.getElem?_nil]
      exact readsAs_end (hend ▸ hk)
    cases hfind : fixes.find? (fun x => x.span.contains (.ofIndex cs i)) with
    | none =>
      rw [replaceFrom_outside hlt hfind]
      rcases Nat.eq_or_lt_of_le hk with rfl | hk
      · rw [Nat.sub_self, List.getElem?_cons_zero]
        exact readsAs_kept hlt hfind
      · rw [show k - i = k - (i + 1) + 1 by omega, List.getElem?_cons_succ]
        exact ih _ (by omega) hlt (isClear_succ hfind) hk rfl
    | some x =>
      have hx := List.mem_of_find?_eq_some hfind
      obtain ⟨start, word, hat⟩ := h.fixAt x hx
      have hcovers := hat.contains_iff.1
        (List.find?_some (p := fun x : Diagnostic => x.span.contains (.ofIndex cs i)) hfind)
      obtain rfl : start = i := by
        have hout := hclear x hx start word hat
        omega
      rw [h.replaceFrom_start hx hat]
      by_cases hinside : k < start + word.length
      · rw [List.getElem?_append_left (by omega)]
        exact h.readsAs_word hx hat hk hinside
      · have hpos := hat.length_pos
        rw [List.getElem?_append_right (by omega), Nat.sub_sub]
        exact ih _ (by omega) hat.fits (h.isClear_stop hx hat) (by omega) rfl

theorem readsAs (h : Replaceable fixes cs) (k : Nat) :
    ReadsAs fixes cs k (replaceFrom fixes Position.origin cs)[k]? :=
  h.readsAs_from (Nat.zero_le _) (fun _ _ _ _ _ hcross => absurd hcross.1 (Nat.not_lt_zero _))
    (Nat.zero_le k)

end Replaceable

end ScopeLint
