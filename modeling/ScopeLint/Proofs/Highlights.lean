import ScopeLint.Proofs.Reported

/-!
# Inferred highlights

A bare row and column stand for a span of that row.  On a visible character it is the run of visible
characters from there on.  Elsewhere it is the rest of the line, and at the start of a line the
blanks that the line starts with are left out of it.  Here these spans are described by the
characters of the document, without saying how they are searched for, and inference is shown to find
them at every position of the document and nowhere else.
-/

namespace ScopeLint

namespace Text

/-- The longest run from the start of a text on, character by character. -/
theorem length_takeWhile_eq_iff {p : Char → Bool} {cs : List Char} {n : Nat} :
    (cs.takeWhile p).length = n ↔
      (∀ k < n, ∃ c, cs[k]? = some c ∧ p c = true) ∧ ∀ c, cs[n]? = some c → p c = false := by
  induction cs generalizing n with
  | nil =>
    cases n with
    | zero => simp
    | succ n =>
      refine iff_of_false (Nat.succ_ne_zero n).symm fun h => ?_
      obtain ⟨_, hfirst, -⟩ := h.1 0 (Nat.succ_pos n)
      cases hfirst
  | cons c cs ih =>
    cases hc : p c with
    | false =>
      rw [List.takeWhile_cons_of_neg (by simp [hc]), List.length_nil]
      cases n with
      | zero => simp [hc]
      | succ n =>
        refine iff_of_false (Nat.succ_ne_zero n).symm fun h => ?_
        obtain ⟨_, hfirst, hp⟩ := h.1 0 (Nat.succ_pos n)
        obtain rfl := Option.some.inj hfirst
        rw [hc] at hp
        cases hp
    | true =>
      rw [List.takeWhile_cons_of_pos hc, List.length_cons]
      cases n with
      | zero => simp [hc]
      | succ n =>
        rw [Nat.add_right_cancel_iff, ih, List.getElem?_cons_succ, Nat.forall_lt_succ_left]
        simp [hc]

end Text

namespace Document

/-- A character that is no blank stands at the position. -/
def IsVisible (d : Document) (p : Position) : Prop :=
  ∃ c, d.charAt? p = some c ∧ Text.isBlank c = false

/-- The spans that a bare row and column stand for. -/
inductive IsHighlight (d : Document) (row column : Nat) : Span → Prop where
  /-- The visible characters from a visible one on, as many as follow each other. -/
  | run {stop : Nat} (hlt : column < stop)
      (hrun : ∀ k, column ≤ k → k < stop → d.IsVisible ⟨row, k⟩)
      (hend : ¬ d.IsVisible ⟨row, stop⟩) : IsHighlight d row column (.onRow row column stop)
  /-- The rest of the line from a blank or the line end on. -/
  | rest {n : Nat} (hlength : d.lineLength? row = some n) (hpos : 0 < column) (hle : column ≤ n)
      (hblank : ¬ d.IsVisible ⟨row, column⟩) : IsHighlight d row column (.onRow row column n)
  /-- The line without the blanks it starts with; its end, where it has nothing else. -/
  | line {first n : Nat} (hlength : d.lineLength? row = some n) (hzero : column = 0)
      (hblank : ¬ d.IsVisible ⟨row, 0⟩) (hle : first ≤ n)
      (hblanks : ∀ k < first, ¬ d.IsVisible ⟨row, k⟩)
      (hfirst : first < n → d.IsVisible ⟨row, first⟩) :
      IsHighlight d row column (.onRow row first n)

variable {d : Document} {row column : Nat} {chars : Array Char}

section Line

variable (hline : d.line? row = some chars)
include hline

theorem isVisible_iff {k : Nat} :
    d.IsVisible ⟨row, k⟩ ↔ ∃ c, chars.toList[k]? = some c ∧ Text.isBlank c = false := by
  rw [IsVisible, charAt?, hline, Array.getElem?_toList]

theorem not_isVisible_iff {k : Nat} :
    ¬ d.IsVisible ⟨row, k⟩ ↔ ∀ c, chars.toList[k]? = some c → Text.isBlank c = true := by
  simp [isVisible_iff hline]

/-- How far a run of visible characters goes from a column on. -/
theorem length_visible_iff {n : Nat} :
    ((chars.toList.drop column).takeWhile (fun c => !Text.isBlank c)).length = n ↔
      (∀ k, column ≤ k → k < column + n → d.IsVisible ⟨row, k⟩) ∧
        ¬ d.IsVisible ⟨row, column + n⟩ := by
  rw [Text.length_takeWhile_eq_iff, not_isVisible_iff hline]
  simp only [List.getElem?_drop, Bool.not_eq_true', Bool.not_eq_false', isVisible_iff hline]
  refine and_congr_left' ⟨fun h k hle hlt => ?_, fun h k hlt => ?_⟩
  · have hk := h (k - column) (by omega)
    rwa [Nat.add_sub_cancel' hle] at hk
  · exact h (column + k) (Nat.le_add_right _ _) (by omega)

theorem length_blanks_iff {n : Nat} :
    (chars.toList.takeWhile Text.isBlank).length = n ↔
      n ≤ chars.size ∧ (∀ k < n, ¬ d.IsVisible ⟨row, k⟩) ∧
        (n < chars.size → d.IsVisible ⟨row, n⟩) := by
  rw [Text.length_takeWhile_eq_iff]
  simp only [not_isVisible_iff hline]
  simp only [isVisible_iff hline, Array.getElem?_toList]
  constructor
  · rintro ⟨hblanks, hend⟩
    refine ⟨?_, fun k hk c hc => ?_, fun hlt => ?_⟩
    · by_contra hgt
      obtain ⟨_, hlast, -⟩ := hblanks chars.size (Nat.lt_of_not_le hgt)
      simp at hlast
    · obtain ⟨c', hc', hblank⟩ := hblanks k hk
      rwa [Option.some.inj (hc.symm.trans hc')]
    · exact ⟨_, Array.getElem?_eq_getElem hlt, hend _ (Array.getElem?_eq_getElem hlt)⟩
  · rintro ⟨hle, hblanks, hend⟩
    refine ⟨fun k hk => ?_, fun c hc => ?_⟩
    · have hchar := Array.getElem?_eq_getElem (Nat.lt_of_lt_of_le hk hle)
      exact ⟨_, hchar, hblanks k hk _ hchar⟩
    · obtain ⟨c', hc', hvisible⟩ := hend (Array.getElem?_eq_some_iff.1 hc).1
      rwa [Option.some.inj (hc.symm.trans hc')]

/-- From a visible character on, the run up to the next blank is highlighted. -/
theorem inferSpan_run {n : Nat} (hle : column ≤ chars.size)
    (hvisible : ((chars.toList.drop column).takeWhile (fun c => !Text.isBlank c)).length = n + 1) :
    d.inferSpan row column = .ok (.onRow row column (column + (n + 1))) := by
  simp only [inferSpan, hline, if_neg (Nat.not_lt.2 hle), hvisible, if_pos (Nat.succ_pos n)]

/-- From a blank on the rest of the row is highlighted, without its indentation where this is asked
for at the start of the row. -/
theorem inferSpan_blank (hle : column ≤ chars.size)
    (hvisible : ((chars.toList.drop column).takeWhile (fun c => !Text.isBlank c)).length = 0) :
    d.inferSpan row column = .ok (.onRow row
      (if column = 0 then (chars.toList.takeWhile Text.isBlank).length else column) chars.size) := by
  simp only [inferSpan, hline, if_neg (Nat.not_lt.2 hle), hvisible, if_neg (Nat.lt_irrefl 0)]

end Line

theorem contains_of_isVisible {p : Position} (h : d.IsVisible p) : d.contains p = true := by
  obtain ⟨c, hc, -⟩ := h
  exact contains_of_charAt? hc

theorem inferSpan_outside (h : d.contains ⟨row, column⟩ = false) :
    d.inferSpan row column = .error (d.outside ⟨row, column⟩) := by
  rw [inferSpan]
  split
  case h_1 => rfl
  case h_2 chars hline =>
    refine if_pos (Nat.lt_of_not_le fun hle => ?_)
    rw [(contains_iff_column (lineLength?_of_line? hline) column).2 hle] at h
    cases h

/-- At a position of the document a highlight is inferred. -/
theorem exists_inferSpan (h : d.contains ⟨row, column⟩ = true) :
    ∃ s, d.inferSpan row column = .ok s ∧ d.IsHighlight row column s := by
  obtain ⟨n, hlength⟩ := exists_length h
  obtain ⟨chars, hline, rfl⟩ := exists_line? hlength
  have hle := (contains_iff_column hlength column).1 h
  cases hn : ((chars.toList.drop column).takeWhile (fun c => !Text.isBlank c)).length with
  | succ n =>
    obtain ⟨hrun, hend⟩ := (length_visible_iff hline).1 hn
    exact ⟨_, inferSpan_run hline hle hn, .run (by omega) hrun hend⟩
  | zero =>
    have hblank := ((length_visible_iff hline).1 hn).2
    refine ⟨_, inferSpan_blank hline hle hn, ?_⟩
    by_cases hcolumn : column = 0
    · subst hcolumn
      obtain ⟨hfirst, hblanks, hvisible⟩ := (length_blanks_iff hline).1 rfl
      exact .line hlength rfl hblank hfirst hblanks hvisible
    · rw [if_neg hcolumn]
      exact .rest hlength (Nat.pos_of_ne_zero hcolumn) hle hblank

namespace IsHighlight

variable {s : Span}

theorem contains (h : d.IsHighlight row column s) : d.contains ⟨row, column⟩ = true := by
  cases h with
  | run hlt hrun hend => exact contains_of_isVisible (hrun column (Nat.le_refl _) hlt)
  | rest hlength hpos hle hblank => exact (contains_iff_column hlength column).2 hle
  | line hlength hzero hblank hle hblanks hfirst =>
    exact (contains_iff_column hlength column).2 (hzero ▸ Nat.zero_le _)

/-- The highlight is what is inferred, so there is only one. -/
theorem inferSpan_eq (h : d.IsHighlight row column s) : d.inferSpan row column = .ok s := by
  obtain ⟨n, hlength⟩ := exists_length h.contains
  obtain ⟨chars, hline, rfl⟩ := exists_line? hlength
  have hle := (contains_iff_column hlength column).1 h.contains
  cases h with
  | @run stop hlt hrun hend =>
    obtain ⟨n, rfl⟩ := Nat.exists_eq_add_of_lt hlt
    exact inferSpan_run hline hle ((length_visible_iff hline).2 ⟨hrun, hend⟩)
  | rest hlength' hpos hle' hblank =>
    obtain rfl := Option.some.inj (hlength.symm.trans hlength')
    have hnone := (length_visible_iff hline (n := 0)).2 ⟨fun k _ _ => by omega, hblank⟩
    rw [inferSpan_blank hline hle hnone, if_neg (Nat.pos_iff_ne_zero.1 hpos)]
  | line hlength' hzero hblank hle' hblanks hfirst =>
    obtain rfl := Option.some.inj (hlength.symm.trans hlength')
    subst hzero
    have hnone := (length_visible_iff hline (n := 0)).2 ⟨fun k _ _ => by omega, hblank⟩
    rw [inferSpan_blank hline hle hnone, if_pos rfl,
      (length_blanks_iff hline).2 ⟨hle', hblanks, hfirst⟩]

theorem start_le (h : d.IsHighlight row column s) :
    s.start.row = row ∧ s.stop.row = row ∧ column ≤ s.start.column := by
  cases h with
  | run => exact ⟨rfl, rfl, Nat.le_refl _⟩
  | rest => exact ⟨rfl, rfl, Nat.le_refl _⟩
  | line hlength hzero => exact ⟨rfl, rfl, hzero ▸ Nat.zero_le _⟩

end IsHighlight

/-- Inference finds the highlight of every position of the document and refuses all others.  What it
finds is accepted, lies on the row and starts no earlier than asked.  A point, and a stretch that
ends in column 0, resolve to it; every other stretch resolves as the span it spells out. -/
theorem highlights_are_inferred (d : Document) (row column : Nat) :
    (∀ s, d.inferSpan row column = .ok s ↔ d.IsHighlight row column s) ∧
    ((∃ s, d.inferSpan row column = .ok s) ↔ d.contains ⟨row, column⟩ = true) ∧
    (∀ e, d.inferSpan row column = .error e ↔
      d.contains ⟨row, column⟩ = false ∧ e = d.outside ⟨row, column⟩) ∧
    (∀ s, d.inferSpan row column = .ok s → d.checkSpan s = .ok s ∧
      s.start.row = row ∧ s.stop.row = row ∧ column ≤ s.start.column) ∧
    (Anchor.point row column).resolve d = d.inferSpan row column ∧
    (Anchor.stretch row column 0).resolve d = d.inferSpan row column ∧
    (∀ last, last ≠ 0 →
      (Anchor.stretch row column last).resolve d = d.checkSpan (.onRow row column last)) := by
  have hfound : ∀ s, d.inferSpan row column = .ok s ↔ d.IsHighlight row column s := by
    refine fun s => ⟨fun h => ?_, IsHighlight.inferSpan_eq⟩
    cases hin : d.contains ⟨row, column⟩ with
    | false =>
      rw [inferSpan_outside hin] at h
      cases h
    | true =>
      obtain ⟨s', hs', hhighlight⟩ := exists_inferSpan hin
      rwa [Except.ok.inj (h.symm.trans hs')]
  refine ⟨hfound, ⟨?_, ?_⟩, fun e => ⟨fun h => ?_, ?_⟩, fun s h => ?_, rfl, rfl, fun last hlast => ?_⟩
  · rintro ⟨s, h⟩
    exact ((hfound s).1 h).contains
  · intro hin
    obtain ⟨s, hs, -⟩ := exists_inferSpan hin
    exact ⟨s, hs⟩
  · cases hin : d.contains ⟨row, column⟩ with
    | false => exact ⟨rfl, Except.error.inj (h.symm.trans (inferSpan_outside hin))⟩
    | true =>
      obtain ⟨s, hs, -⟩ := exists_inferSpan hin
      rw [hs] at h
      cases h
  · rintro ⟨hout, rfl⟩
    exact inferSpan_outside hout
  · exact ⟨checkSpan_eq_ok_iff.2 ⟨rfl, inferSpan_isIn h⟩, ((hfound s).1 h).start_le⟩
  · obtain ⟨last, rfl⟩ := Nat.exists_eq_succ_of_ne_zero hlast
    rfl

/-- An indented line with a wide blank, asked for at its start. -/
theorem highlights_are_inferred_indented :
    (ofString "\t\u3000é x\r\n").inferSpan 0 0 = .ok (.onRow 0 2 5) ∧
      (ofString "\t\u3000é x\r\n").IsHighlight 0 0 (.onRow 0 2 5) ∧
      (ofString "\t\u3000é x\r\n").checkSpan (.onRow 0 2 5) = .ok (.onRow 0 2 5) ∧
      (Anchor.stretch 0 0 3).resolve (ofString "\t\u3000é x\r\n") =
        (ofString "\t\u3000é x\r\n").checkSpan (.onRow 0 0 3) := by
  have hspan : (ofString "\t\u3000é x\r\n").inferSpan 0 0 = .ok (.onRow 0 2 5) := by decide +kernel
  obtain ⟨hfound, -, -, haccepted, -, -, hstretch⟩ :=
    highlights_are_inferred (ofString "\t\u3000é x\r\n") 0 0
  exact ⟨hspan, (hfound _).1 hspan, (haccepted _ hspan).1, hstretch 3 (by decide)⟩

end Document

end ScopeLint
