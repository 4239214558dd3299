import Mathlib.Data.List.Nodup
import ScopeLint.Proofs.Independence
import ScopeLint.Proofs.Pairing
import ScopeLint.Proofs.Replacement
import ScopeLint.Proofs.Respelling

/-!
# Casing fixes converge

A match of a keyword of the built-in table is a whole word, equal to the keyword up to case.  So two
matches that overlap are the same match of the same keyword, and the casing diagnostics can be
applied all at once.  The text that comes out is respelled: it has the same matches at the same
places, and each of them that lies in code is now spelled as its keyword.
-/

namespace ScopeLint

open Pattern (Node Found Assertion matchOf)

/-! ## Whole words -/

/-- The word stands at an index of the text, up to case and as a whole word. -/
structure SpelledAt (text : Array Char) (word : List Char) (start : Nat) : Prop where
  alike : ∀ (j : Nat) (e : Char), word[j]? = some e →
    ∃ c, text[start + j]? = some c ∧ Text.foldsAlike e c = true
  before : Assertion.isWord false (Assertion.before? text start) = false
  behind : Assertion.isWord false text[start + word.length]? = false

namespace BuiltIn

/-- A word of which all characters are letters of keywords. -/
structure IsWord (word : List Char) : Prop where
  ne_nil : word ≠ []
  letters : ∀ e ∈ word, e ∈ letters

theorem sequence_matches {text : Array Char} {word : List Char} {i j : Nat}
    (h : (Node.sequence (word.map (fun c => .char (.alike c)))).Matches text i j) :
    j = i + word.length ∧ ∀ (k : Nat) (e : Char), word[k]? = some e →
      ∃ c, text[i + k]? = some c ∧ Text.foldsAlike e c = true := by
  induction word generalizing i with
  | nil => exact ⟨h, fun k e he => by cases he⟩
  | cons e word ih =>
    have hparts : ∃ m, (Node.char (.alike e)).Matches text i m ∧
        (Node.sequence (word.map (fun c => .char (.alike c)))).Matches text m j := by
      cases word with
      | nil => exact ⟨j, h, rfl⟩
      | cons e' word => exact h
    obtain ⟨m, ⟨rfl, c, hc, halike⟩, hrest⟩ := hparts
    obtain ⟨rfl, hletters⟩ := ih hrest
    refine ⟨by rw [List.length_cons]; omega, fun k e' he' => ?_⟩
    cases k with
    | zero =>
      cases he'
      exact ⟨c, hc, halike⟩
    | succ k =>
      obtain ⟨c', hc', halike'⟩ := hletters k e' he'
      exact ⟨c', by rw [← hc']; congr 1; omega, halike'⟩

theorem IsWord.isWord_of_alike {word : List Char} (hword : IsWord word) {e : Char} (he : e ∈ word)
    {c : Char} (h : Text.foldsAlike e c = true) : Assertion.isWord false (some c) = true :=
  (plain_of_mem (hword.letters e he) (Text.mem_foldClass h)).1

/-- A match of a keyword is a whole word that is spelled as the keyword, up to case. -/
theorem spelledAt_of_found {word : List Char} (hword : IsWord word) {source : String}
    {text : Array Char} {f : Found}
    (hf : f ∈ (Pattern.mk source (keywordNode word)).found text) :
    f.stop = f.start + word.length ∧ SpelledAt text word f.start := by
  rw [Pattern.found_eq_search] at hf
  have hmatches := Pattern.matchAt?_matches (keywordNode_simple word)
    (Pattern.matchAt?_of_mem_search hf)
  obtain ⟨i, ⟨rfl, hstart⟩, j, hletters, hj, hstop⟩ := hmatches
  obtain ⟨rfl, halike⟩ := sequence_matches hletters
  have hlength : 0 < word.length := List.length_pos_iff.2 hword.ne_nil
  have hword' : ∀ k < word.length, Assertion.isWord false text[f.start + k]? = true := by
    intro k hk
    obtain ⟨c, hc, hc'⟩ := halike k _ (List.getElem?_eq_getElem hk)
    rw [hc]
    exact hword.isWord_of_alike (List.getElem_mem hk) hc'
  refine ⟨hj, halike, ?_, ?_⟩
  · have hfirst := hword' 0 hlength
    rw [Nat.add_zero] at hfirst
    simpa [Assertion.holds, Pattern.WordEdge.between, hfirst] using hstart
  · have hlast := hword' (word.length - 1) (by omega)
    have hbefore : Assertion.before? text (f.start + word.length) =
        text[f.start + (word.length - 1)]? := by
      rw [show f.start + word.length = f.start + (word.length - 1) + 1 by omega]
      rfl
    simpa [Assertion.holds, Pattern.WordEdge.between, hbefore, hlast] using hstop

end BuiltIn

namespace SpelledAt

variable {text : Array Char} {word word' : List Char} {start start' : Nat}

theorem isWord (h : SpelledAt text word start) (hword : BuiltIn.IsWord word) {i : Nat}
    (hi : start ≤ i) (hlt : i < start + word.length) :
    Assertion.isWord false text[i]? = true := by
  have hk : i - start < word.length := by omega
  obtain ⟨c, hc, halike⟩ := h.alike (i - start) _ (List.getElem?_eq_getElem hk)
  rw [Nat.add_sub_cancel' hi] at hc
  rw [hc]
  exact hword.isWord_of_alike (List.getElem_mem hk) halike

/-- A word does not start behind the start of another one that it overlaps. -/
theorem start_le (h : SpelledAt text word start) (h' : SpelledAt text word' start')
    (hword : BuiltIn.IsWord word) (hlt : start' < start + word.length) : start' ≤ start := by
  by_contra hle
  have hinside := h.isWord hword (i := start' - 1) (by omega) (by omega)
  have hbefore := h'.before
  rw [show start' = start' - 1 + 1 by omega] at hbefore
  rw [show Assertion.before? text (start' - 1 + 1) = text[start' - 1]? from rfl, hinside] at hbefore
  cases hbefore

/-- A word does not stop before the stop of another one that it overlaps. -/
theorem stop_le (h : SpelledAt text word start) (h' : SpelledAt text word' start')
    (hword : BuiltIn.IsWord word) (hlt : start < start' + word'.length) :
    start + word.length ≤ start' + word'.length := by
  by_contra hle
  have hinside := h.isWord hword (i := start' + word'.length) (by omega) (by omega)
  rw [h'.behind] at hinside
  cases hinside

theorem map_foldChar (h : SpelledAt text word start) :
    (word.map Text.foldChar).map some =
      (List.range word.length).map (fun j => text[start + j]?.map Text.foldChar) := by
  apply List.ext_getElem?
  intro j
  rw [List.getElem?_map, List.getElem?_map, List.getElem?_map]
  by_cases hj : j < word.length
  · obtain ⟨c, hc, halike⟩ := h.alike j _ (List.getElem?_eq_getElem hj)
    have hfold : Text.foldChar word[j] = Text.foldChar c := beq_iff_eq.1 halike
    rw [List.getElem?_range hj, List.getElem?_eq_getElem hj, Option.map_some, Option.map_some,
      Option.map_some, hc, Option.map_some, hfold]
  · rw [List.getElem?_eq_none (by omega), List.getElem?_eq_none (by rw [List.length_range]; omega)]
    rfl

/-- Whole words that overlap are equal up to case. -/
theorem eq_of_overlap (h : SpelledAt text word start) (h' : SpelledAt text word' start')
    (hword : BuiltIn.IsWord word) (hword' : BuiltIn.IsWord word')
    (hlt : start < start' + word'.length) (hlt' : start' < start + word.length) :
    start = start' ∧ word.map Text.foldChar = word'.map Text.foldChar := by
  obtain rfl : start = start' :=
    Nat.le_antisymm (h'.start_le h hword' hlt) (h.start_le h' hword hlt')
  have hlength : word.length = word'.length := by
    have hle := h.stop_le h' hword hlt
    have hge := h'.stop_le h hword' hlt'
    omega
  refine ⟨rfl, List.map_injective_iff.2 (Option.some_injective Char) ?_⟩
  rw [h.map_foldChar, h'.map_foldChar, hlength]

end SpelledAt

/-! ## The keywords of the built-in table -/

namespace BuiltIn

def words : List String := ["eoi", "NullObject", "JSONObject"]

theorem keywords_of_compile {strategy : BracketStrategy} {limits : Limits} {t : RuleTable}
    (h : RuleTable.compile { strategy, limits } = .ok t) : t.keywords = words.map keyword := by
  rw [compile_variant] at h
  cases h
  rfl

theorem isWord_of_mem {w : String} (h : w ∈ words) : IsWord w.toList := by
  have hall : ∀ w ∈ words, w.toList ≠ [] ∧ w.toList.all letters.contains = true := by
    decide +kernel
  obtain ⟨hne, hletters⟩ := hall w h
  exact ⟨hne, fun e he => List.contains_iff_mem.1 (List.all_eq_true.1 hletters e he)⟩

theorem words_nodup : words.Nodup := by decide

/-- No two keywords are equal up to case. -/
theorem eq_of_fold : ∀ w ∈ words, ∀ w' ∈ words,
    w.toList.map Text.foldChar = w'.toList.map Text.foldChar → w = w' := by decide +kernel

theorem suggestion_of_mem : ∀ w ∈ words, suggestionIn (Casing.message w) = some w := by
  decide +kernel

end BuiltIn

theorem Match.IsPlain.textIn {p : Pattern} {d : Document} {m : Match} (hm : m ∈ p.scan d)
    (hplain : m.IsPlain) : d.textIn m.span = .ok (some m.text) := by
  obtain ⟨hstart, hstop, -, -⟩ := hplain.span hm
  exact Pattern.textIn_of_mem_scan hm hstart hstop

/-! ## The casing diagnostics of a document -/

namespace Casing

open BuiltIn (words keyword)

variable {ctx : Context} {severity : Severity}

/-- What is found for the keywords of the built-in table. -/
def fixes (ctx : Context) (severity : Severity) : List Diagnostic :=
  words.flatMap (fun w => ((keyword w).pattern.found ctx.document.chars).filterMap
    (fun f => verdict ctx severity (keyword w) (matchOf ctx.document.chars f)))

theorem diagnostics_eq (h : ctx.table.keywords = words.map keyword) :
    (Family.casing.verdict ctx severity).diagnostics = fixes ctx severity := by
  simp only [Family.verdict, h, Findings.concat, Findings.judged, List.flatMap_map,
    Pattern.scan_eq_map, List.filterMap_map]
  rfl

theorem mem_fixes {x : Diagnostic} : x ∈ fixes ctx severity ↔
    ∃ w ∈ words, ∃ f ∈ (keyword w).pattern.found ctx.document.chars,
      verdict ctx severity (keyword w) (matchOf ctx.document.chars f) = some x := by
  simp only [fixes, List.mem_flatMap, List.mem_filterMap]

theorem verdict_eq_some {keyword : Keyword} {m : Match} {x : Diagnostic} :
    verdict ctx severity keyword m = some x ↔
      m.text ≠ keyword.text ∧ Scope.isTypical (ctx.path m.span.start) = true ∧
        .ofMessage Family.casing.id severity (message keyword.text) m.span = x := by
  unfold verdict
  split
  · simp_all
  · split <;> simp_all

section Spellings

variable {w w' : String} {f g : Found} {x y : Diagnostic}

/-- A casing diagnostic has the span of its match, which is as long as the keyword it suggests. -/
theorem fixAt_of_verdict (hw : w ∈ words)
    (hf : f ∈ (keyword w).pattern.found ctx.document.chars)
    (hx : verdict ctx severity (keyword w) (matchOf ctx.document.chars f) = some x) :
    x.FixAt ctx.document.chars.toList f.start w.toList := by
  have hstop := (BuiltIn.spelledAt_of_found (BuiltIn.isWord_of_mem hw) hf).1
  have hsize := ((Pattern.found_chain _ _).bounds hf).2.2
  obtain ⟨-, -, rfl⟩ := verdict_eq_some.1 hx
  refine ⟨(BuiltIn.isWord_of_mem hw).ne_nil, ?_, ?_, ?_⟩
  · rwa [← hstop, Array.length_toList]
  · rw [← hstop]
    rfl
  · rw [String.ofList_toList]
    exact BuiltIn.suggestion_of_mem w hw

/-- Matches of keywords are the same match of the same keyword, or one is behind the other. -/
theorem apart_or_same (hw : w ∈ words) (hw' : w' ∈ words)
    (hf : f ∈ (keyword w).pattern.found ctx.document.chars)
    (hg : g ∈ (keyword w').pattern.found ctx.document.chars) :
    (f.stop ≤ g.start ∨ g.stop ≤ f.start) ∨ w = w' ∧ f.start = g.start ∧ f.stop = g.stop := by
  obtain ⟨hstop, hat⟩ := BuiltIn.spelledAt_of_found (BuiltIn.isWord_of_mem hw) hf
  obtain ⟨hstop', hat'⟩ := BuiltIn.spelledAt_of_found (BuiltIn.isWord_of_mem hw') hg
  rw [or_iff_not_imp_left]
  intro hoverlap
  obtain ⟨hstart, hfold⟩ := hat.eq_of_overlap hat' (BuiltIn.isWord_of_mem hw)
    (BuiltIn.isWord_of_mem hw') (by omega) (by omega)
  obtain rfl := BuiltIn.eq_of_fold w hw w' hw' hfold
  exact ⟨rfl, hstart, by omega⟩

/-- Casing diagnostics of different matches are apart, because the matches are. -/
theorem apart_of_verdict (hw : w ∈ words) (hw' : w' ∈ words)
    (hf : f ∈ (keyword w).pattern.found ctx.document.chars)
    (hg : g ∈ (keyword w').pattern.found ctx.document.chars)
    (hx : verdict ctx severity (keyword w) (matchOf ctx.document.chars f) = some x)
    (hy : verdict ctx severity (keyword w') (matchOf ctx.document.chars g) = some y)
    (hne : ¬ (w = w' ∧ f.start = g.start)) : x.span.Apart y.span := by
  have hstop := (BuiltIn.spelledAt_of_found (BuiltIn.isWord_of_mem hw) hf).1
  have hstop' := (BuiltIn.spelledAt_of_found (BuiltIn.isWord_of_mem hw') hg).1
  rw [(fixAt_of_verdict hw hf hx).apart_iff (fixAt_of_verdict hw' hg hy), ← hstop, ← hstop']
  rcases apart_or_same hw hw' hf hg with hapart | ⟨hword, hstart, -⟩
  · exact hapart
  · exact absurd ⟨hword, hstart⟩ hne

end Spellings

theorem fixes_apart : (fixes ctx severity).Pairwise (fun x y => x.span.Apart y.span) := by
  rw [fixes, List.pairwise_flatMap]
  constructor
  · intro w hw
    rw [List.pairwise_filterMap]
    refine (Pattern.found_chain _ _).pairwise.imp_of_mem ?_
    intro f g hf hg hlt x hx y hy
    exact apart_of_verdict hw hw hf hg hx hy (fun hsame => by omega)
  · refine BuiltIn.words_nodup.imp_of_mem ?_
    intro w w' hw hw' hne x hx y hy
    obtain ⟨f, hf, hx⟩ := List.mem_filterMap.1 hx
    obtain ⟨g, hg, hy⟩ := List.mem_filterMap.1 hy
    exact apart_of_verdict hw hw' hf hg hx hy (fun hsame => hne hsame.1)

theorem replaceable (ctx : Context) (severity : Severity) :
    Replaceable (fixes ctx severity) ctx.document.chars.toList where
  fixAt x hx := by
    obtain ⟨w, hw, f, hf, hx⟩ := mem_fixes.1 hx
    exact ⟨_, _, fixAt_of_verdict hw hf hx⟩
  apart := fixes_apart

/-! ## The text with all fixes applied -/

def fixedChars (ctx : Context) (severity : Severity) : List Char :=
  replaceFrom (fixes ctx severity) Position.origin ctx.document.chars.toList

/-- Fixes change the spelling of letters and nothing else: a letter of a keyword takes the place of
one that equals it up to case. -/
theorem respelled (ctx : Context) (severity : Severity) :
    RespelledText ctx.document.chars.toList (fixedChars ctx severity) := by
  apply RespelledText.of_getElem?
  intro k
  have hreads := (replaceable ctx severity).readsAs k
  by_cases hcovered : ∃ x ∈ fixes ctx severity,
      x.span.contains (.ofIndex ctx.document.chars.toList k) = true
  · obtain ⟨x, hx, hcontains⟩ := hcovered
    obtain ⟨w, hw, f, hf, hverdict⟩ := mem_fixes.1 hx
    have hat := fixAt_of_verdict hw hf hverdict
    have hword := BuiltIn.isWord_of_mem hw
    obtain ⟨hle, hlt⟩ := hat.contains_iff.1 hcontains
    have hk : k - f.start < w.toList.length := by omega
    have hletter := List.getElem?_eq_getElem hk
    have hmem := hword.letters _ (List.getElem_mem hk)
    obtain ⟨c, hc, halike⟩ := (BuiltIn.spelledAt_of_found hword hf).2.alike _ _ hletter
    rw [Nat.add_sub_cancel' hle, ← Array.getElem?_toList] at hc
    refine .inr ⟨c, _, hc, (hreads.inside x hx _ _ hat hle hlt).trans hletter, .inr ?_⟩
    exact ⟨_, hmem, Text.mem_foldClass halike, Text.mem_foldClass (beq_self_eq_true _)⟩
  · have hkept : (fixedChars ctx severity)[k]? = ctx.document.chars.toList[k]? :=
      hreads.outside (fun x hx hcontains => hcovered ⟨x, hx, hcontains⟩)
    cases hc : ctx.document.chars.toList[k]? with
    | none => exact .inl ⟨rfl, hkept.trans hc⟩
    | some c => exact .inr ⟨c, c, rfl, hkept.trans hc, .inl rfl⟩

section Spellings

variable {w : String} {f : Found}

/-- No fix is drawn over a match that is spelled as its keyword. -/
theorem not_contains_of_text_eq (hw : w ∈ words)
    (hf : f ∈ (keyword w).pattern.found ctx.document.chars)
    (htext : (matchOf ctx.document.chars f).text = w) {k : Nat} (hle : f.start ≤ k)
    (hlt : k < f.stop) {x : Diagnostic} (hx : x ∈ fixes ctx severity) :
    ¬ x.span.contains (.ofIndex ctx.document.chars.toList k) = true := by
  intro hcontains
  obtain ⟨w', hw', g, hg, hverdict⟩ := mem_fixes.1 hx
  have hstop := (BuiltIn.spelledAt_of_found (BuiltIn.isWord_of_mem hw') hg).1
  have hcovers := (fixAt_of_verdict hw' hg hverdict).contains_iff.1 hcontains
  rcases apart_or_same hw hw' hf hg with hapart | ⟨rfl, hstart, hstop'⟩
  · omega
  · have hsame : (matchOf ctx.document.chars g).text = (matchOf ctx.document.chars f).text := by
      simp only [matchOf, hstart, hstop']
    exact (verdict_eq_some.1 hverdict).1 (hsame.trans htext)

theorem getElem?_extract (text : Array Char) (start stop j : Nat) :
    (text.extract start stop).toList[j]? =
      if j < stop - start then text.toList[start + j]? else none := by
  rw [Array.toList_extract, List.extract, List.getElem?_take, List.getElem?_drop]

/-- A match in code is spelled as its keyword once the fixes are applied. -/
theorem text_eq_keyword {text : Array Char} (htext : text.toList = fixedChars ctx severity)
    (hw : w ∈ words) (hf : f ∈ (keyword w).pattern.found ctx.document.chars)
    (htypical : Scope.isTypical (ctx.path (matchOf ctx.document.chars f).span.start) = true) :
    (matchOf text f).text = w := by
  have hstop := (BuiltIn.spelledAt_of_found (BuiltIn.isWord_of_mem hw) hf).1
  have hletters : ∀ j < w.toList.length, text.toList[f.start + j]? = w.toList[j]? := by
    intro j hj
    have hreads := (replaceable ctx severity).readsAs (f.start + j)
    rw [htext]
    by_cases hright : (matchOf ctx.document.chars f).text = w
    · have hkept := hreads.outside fun x hx =>
        not_contains_of_text_eq hw hf hright (Nat.le_add_right _ _) (by omega) hx
      have hread := getElem?_extract ctx.document.chars f.start f.stop j
      rw [if_pos (by omega)] at hread
      rw [fixedChars, hkept, ← hread, ← hright]
      exact congrArg (·[j]?) String.toList_ofList.symm
    · have hverdict : verdict ctx severity (keyword w) (matchOf ctx.document.chars f) = some _ :=
        verdict_eq_some.2 ⟨hright, htypical, rfl⟩
      have hx := mem_fixes.2 ⟨w, hw, f, hf, hverdict⟩
      have hat := fixAt_of_verdict hw hf hverdict
      rw [fixedChars, hreads.inside _ hx _ _ hat (Nat.le_add_right _ _) (by omega),
        Nat.add_sub_cancel_left]
  have hword : (text.extract f.start f.stop).toList = w.toList := by
    apply List.ext_getElem?
    intro j
    rw [getElem?_extract, hstop, Nat.add_sub_cancel_left]
    split
    case isTrue hj => exact hletters j hj
    case isFalse hj => rw [List.getElem?_eq_none (Nat.le_of_not_lt hj)]
  change String.ofList (text.extract f.start f.stop).toList = w
  rw [hword, String.ofList_toList]

end Spellings

/-- Once the fixes are applied, each span reads as suggested. -/
theorem textIn_fixed {d : Document} (htext : d.chars.toList = fixedChars ctx severity)
    {x : Diagnostic} (hx : x ∈ fixes ctx severity) :
    ∃ word, x.suggestion = some word ∧ d.textIn x.span = .ok (some word) := by
  obtain ⟨w, hw, f, hf, hverdict⟩ := mem_fixes.1 hx
  have hat := fixAt_of_verdict hw hf hverdict
  obtain ⟨-, htypical, hspan⟩ := verdict_eq_some.1 hverdict
  have hword := text_eq_keyword htext hw hf htypical
  have hrespelled : RespelledText _ d.chars.toList := htext ▸ respelled ctx severity
  have hplain : (keyword w).pattern.IsPlainIn d :=
    Pattern.isPlainIn_of_tame (BuiltIn.keyword_tame _ (List.mem_map_of_mem hw)) d
  have hmatch : matchOf d.chars f ∈ (keyword w).pattern.scan d := by
    rw [Pattern.scan_eq_map, ← hrespelled.found_eq w]
    exact List.mem_map_of_mem hf
  have hread := (hplain _ hmatch).textIn hmatch
  rw [hword, ← hrespelled.span_eq f] at hread
  refine ⟨w, hat.suggestion_eq.trans (by rw [String.ofList_toList]), ?_⟩
  rw [← hspan]
  exact hread

/-- Where code is at the same places, no fix is left. -/
theorem fixes_fixed (ctx ctx' : Context) {severity : Severity}
    (htext : ctx'.document.chars.toList = fixedChars ctx severity)
    (htypical : ∀ p, Scope.isTypical (ctx'.path p) = Scope.isTypical (ctx.path p))
    (severity' : Severity) : fixes ctx' severity' = [] := by
  rw [List.eq_nil_iff_forall_not_mem]
  intro x hx
  obtain ⟨w, hw, f, hf, hverdict⟩ := mem_fixes.1 hx
  obtain ⟨hwrong, hcode, -⟩ := verdict_eq_some.1 hverdict
  have hrespelled : RespelledText _ ctx'.document.chars.toList := htext ▸ respelled ctx severity
  rw [← hrespelled.found_eq w] at hf
  rw [← hrespelled.span_eq f, htypical] at hcode
  exact hwrong (text_eq_keyword htext hw hf hcode)

end Casing

/-! ## Reports by family -/

def Report.ofFamily (r : Report) (f : Family) : List Diagnostic :=
  r.diagnostics.filter (fun x => x.rule == f.id)

theorem filter_flatMap_rule {part : Family → List Diagnostic} {families : List Family}
    (hnodup : families.Nodup) (hrule : ∀ g ∈ families, ∀ x ∈ part g, x.rule = g.id) (f : Family) :
    (families.flatMap part).filter (fun x => x.rule == f.id) =
      if f ∈ families then part f else [] := by
  induction families with
  | nil => rfl
  | cons g families ih =>
    obtain ⟨hnew, hnodup⟩ := List.nodup_cons.1 hnodup
    have hrest := ih hnodup (fun g' hg' => hrule g' (List.mem_cons_of_mem g hg'))
    have hg := hrule g List.mem_cons_self
    rw [List.flatMap_cons, List.filter_append, hrest]
    by_cases hfg : f = g
    · subst hfg
      have hall : (part f).filter (fun x => x.rule == f.id) = part f :=
        List.filter_eq_self.2 (fun x hx => beq_iff_eq.2 (hg x hx))
      rw [hall, if_neg hnew, if_pos List.mem_cons_self, List.append_nil]
    · have hnone : (part g).filter (fun x => x.rule == f.id) = [] := by
        refine List.filter_eq_nil_iff.2 (fun x hx hx' => hfg ?_)
        exact Family.id_injective ((beq_iff_eq.1 hx').symm.trans (hg x hx))
      simp only [hnone, List.nil_append, List.mem_cons, hfg, false_or]

theorem Linter.ofFamily_lint {l : Linter} {d : Document} {classifier : Classifier}
    {report : Report} (hnodup : l.families.Nodup) (hplain : l.table.IsPlainIn d)
    (hlint : l.lint d classifier = .ok report) (f : Family) :
    report.ofFamily f = if f ∈ l.active d then
      (f.verdict ⟨d, classifier, l.table⟩ (l.severityOf f)).diagnostics else [] := by
  have hfindings : ∀ g : Family, g.findings ⟨d, classifier, l.table⟩ (l.severityOf g) =
      .ok (g.verdict ⟨d, classifier, l.table⟩ (l.severityOf g)) :=
    fun g => g.findings_eq hplain _
  have hblock : ∀ g, l.block d classifier g =
      (g.verdict ⟨d, classifier, l.table⟩ (l.severityOf g)).diagnostics :=
    fun g => block_of_yields (Family.yields_iff.2 ⟨_, hfindings g⟩)
  have hnotice : (noticeOf report.disabled).filter (fun x => x.rule == f.id) = [] := by
    rw [List.filter_eq_nil_iff]
    intro x hx hrule
    have hx' : x = notice report.disabled := by
      rw [noticeOf] at hx
      split at hx
      · cases hx
      · exact List.mem_singleton.1 hx
    rw [hx'] at hrule
    exact f.id_ne_skippedRule (beq_iff_eq.1 hrule).symm
  have hrules : ∀ g ∈ l.active d, ∀ x ∈ l.block d classifier g, x.rule = g.id := by
    intro g _ x hx
    rw [hblock] at hx
    exact (Family.rule_severity_of_mem (hfindings g) hx).1
  have hactive : (l.active d).Nodup := hnodup.filter _
  rw [Report.ofFamily, diagnostics_of_lint hlint, List.filter_append, hnotice, List.nil_append,
    filter_flatMap_rule hactive hrules, hblock]

/-- What a text is linted with. -/
def Linter.contextOf (l : Linter) (text : String) : Context :=
  ⟨.ofString text, l.lexical (.ofString text), l.table⟩

/-- The casing diagnostics of a report: those of the keywords, or none where the family does not
run. -/
theorem Linter.ofFamily_casing {l : Linter} {text : String} {report : Report}
    (hkeywords : l.table.keywords = BuiltIn.words.map BuiltIn.keyword)
    (hfamilies : l.families.Nodup) (hplain : l.table.IsPlainIn (.ofString text))
    (hlint : l.lintText text = .ok report) :
    report.ofFamily .casing = if Family.casing ∈ l.active (.ofString text) then
      Casing.fixes (l.contextOf text) (l.severityOf .casing) else [] := by
  rw [ofFamily_lint hfamilies hplain hlint, Casing.diagnostics_eq hkeywords]
  rfl

theorem replaceFrom_nil (p : Position) (cs : List Char) : replaceFrom [] p cs = cs := by
  induction cs generalizing p with
  | nil => rfl
  | cons c cs ih => rw [replaceFrom, List.find?_nil, ih]

/-- Casing fixes converge: with the built-in table, any strategy and any limits, the spans of the
casing diagnostics of a text are apart.  Replacing each by its suggestion gives a text with the same
lines but for spelling, in which each span reads as suggested and no casing diagnostic is left. -/
theorem casing_fixes_converge (l : Linter) (strategy : BracketStrategy) (limits : Limits)
    (htable : RuleTable.compile { strategy, limits } = .ok l.table) (hfamilies : l.families.Nodup)
    (text : String) :
    ∃ report fixed report', l.lintText text = .ok report ∧
      fixed = replaceAll (report.ofFamily .casing) text ∧ l.lintText fixed = .ok report' ∧
      (report.ofFamily .casing).Pairwise (fun x y => x.span.Apart y.span) ∧
      (∀ x ∈ report.ofFamily .casing, ∃ word, x.suggestion = some word ∧
        (Document.ofString fixed).textIn x.span = .ok (some word)) ∧
      (Document.ofString fixed).lineCount = (Document.ofString text).lineCount ∧
      (∀ row, (Document.ofString fixed).lineLength? row =
        (Document.ofString text).lineLength? row) ∧
      report'.ofFamily .casing = [] := by
  have hkeywords := BuiltIn.keywords_of_compile htable
  have hplain := (BuiltIn.isTame_of_compile htable).isPlainIn
  have hlint : ∀ text, ∃ report, l.lintText text = .ok report :=
    fun text => ⟨_, Linter.lint_eq (hplain (.ofString text)) _⟩
  obtain ⟨report, hreport⟩ := hlint text
  obtain ⟨fixed, hfixed⟩ : ∃ fixed, fixed = replaceAll (report.ofFamily .casing) text := ⟨_, rfl⟩
  obtain ⟨report', hreport'⟩ := hlint fixed
  refine ⟨report, fixed, report', hreport, hfixed, hreport', ?_⟩
  have hfound := Linter.ofFamily_casing hkeywords hfamilies (hplain _) hreport
  have hleft := Linter.ofFamily_casing hkeywords hfamilies (hplain _) hreport'
  by_cases hactive : Family.casing ∈ l.active (.ofString text)
  · rw [if_pos hactive] at hfound
    rw [hfound] at hfixed ⊢
    have hchars : (Document.ofString fixed).chars.toList =
        Casing.fixedChars (l.contextOf text) (l.severityOf .casing) := by
      rw [hfixed]
      exact String.toList_ofList
    have hrespelled : RespelledText (Document.ofString text).chars.toList
        (Document.ofString fixed).chars.toList := by
      rw [hchars]
      exact Casing.respelled (l.contextOf text) _
    have htypical : ∀ p, Scope.isTypical ((l.contextOf fixed).path p) =
        Scope.isTypical ((l.contextOf text).path p) :=
      fun p => (Document.isTypical_respelled l.table.keywordTexts hrespelled p).symm
    refine ⟨Casing.fixes_apart, fun x hx => Casing.textIn_fixed hchars hx,
      (Document.lineCount_respelled hrespelled).symm,
      fun row => (Document.lineLength?_respelled hrespelled row).symm, ?_⟩
    rw [hleft, Casing.fixes_fixed (l.contextOf text) (l.contextOf fixed) hchars htypical, ite_self]
  · rw [if_neg hactive] at hfound
    have hsame : fixed = text := by
      rw [hfixed, hfound, replaceAll, replaceFrom_nil, String.ofList_toList]
    rw [hfound, hleft, hsame, if_neg hactive]
    exact ⟨.nil, fun x hx => absurd hx List.not_mem_nil, rfl, fun _ => rfl, rfl⟩

/-- A long s counts as an S, and what a comment holds is not replaced. -/
theorem casing_fixes_converge_long_s :
    ∃ report report', Linter.standard.lintText "JſONobject // EOI\r\nEOI" = .ok report ∧
      replaceAll (report.ofFamily .casing) "JſONobject // EOI\r\nEOI" =
        "JSONObject // EOI\r\neoi" ∧
      Linter.standard.lintText "JSONObject // EOI\r\neoi" = .ok report' ∧
      (report.ofFamily .casing).Pairwise (fun x y => x.span.Apart y.span) ∧
      report'.ofFamily .casing = [] := by
  obtain ⟨report, fixed, report', hreport, hfixed, hreport', hapart, -, -, -, hnone⟩ :=
    casing_fixes_converge Linter.standard .heuristic {} BuiltIn.compile_table (by decide)
      "JſONobject // EOI\r\nEOI"
  have hreplaced : (Linter.standard.lintText "JſONobject // EOI\r\nEOI").map
      (fun report => replaceAll (report.ofFamily .casing) "JſONobject // EOI\r\nEOI") =
      .ok "JSONObject // EOI\r\neoi" := by
    decide +kernel
  rw [hreport] at hreplaced
  obtain rfl : fixed = "JSONObject // EOI\r\neoi" := hfixed.trans (Except.ok.inj hreplaced)
  exact ⟨report, report', hreport, hfixed.symm, hreport', hapart, hnone⟩

end ScopeLint
