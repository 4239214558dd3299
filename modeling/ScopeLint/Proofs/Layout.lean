import ScopeLint.Proofs.Matching

/-!
# Rows in the text

The rows of a document follow each other in its text.  Column by column a row is a stretch of the
text, and only the characters of a line end stand between a row and the next one.
-/

namespace ScopeLint

open Pattern (IsBarrier borders)

/-- Row `row` has `n` characters, which stand in the text from index `i` on. -/
structure LineAt (d : Document) (i row n : Nat) : Prop where
  length : d.lineLength? row = some n
  char : ∀ c, c < n → d.chars[i + c]? = d.charAt? ⟨row, c⟩
  place : ∀ c, c ≤ n → (Pattern.placeAt d.chars (i + c)).position = ⟨row, c⟩
  before : ∀ c, Pattern.Assertion.before? d.chars i = some c → c ∈ borders
  size : i + n ≤ d.chars.size

/-- From index `i` on the text holds row `row` and those behind it, with line ends between. -/
inductive Layout (d : Document) : Nat → Nat → Prop where
  | last {i row n : Nat} (line : LineAt d i row n) (none : d.lineLength? (row + 1) = none)
      (ending : ∀ k, i + n ≤ k → IsBarrier d.chars k) : Layout d i row
  | more {i row n j : Nat} (line : LineAt d i row n) (lt : i + n < j)
      (ending : ∀ k, i + n ≤ k → k < j → IsBarrier d.chars k) (rest : Layout d j (row + 1)) :
      Layout d i row

theorem Layout.length {d : Document} {i row : Nat} (h : Layout d i row) :
    ∃ n, d.lineLength? row = some n := by
  cases h with
  | last line => exact ⟨_, line.length⟩
  | more line => exact ⟨_, line.length⟩

namespace Text

theorem splitAt_line {sep : Char} {line : List Char} (h : sep ∉ line) :
    splitAt sep line = [line] := by
  induction line with
  | nil => rfl
  | cons c line ih =>
    obtain ⟨hc, hline⟩ : ¬ sep = c ∧ sep ∉ line := by simpa using h
    rw [splitAt_cons (fun h => hc h.symm), ih hline, consFirst]

theorem splitAt_line_sep {sep : Char} {line : List Char} (h : sep ∉ line) (rest : List Char) :
    splitAt sep (line ++ sep :: rest) = line :: splitAt sep rest := by
  induction line with
  | nil => exact splitAt_sep sep rest
  | cons c line ih =>
    obtain ⟨hc, hline⟩ : ¬ sep = c ∧ sep ∉ line := by simpa using h
    rw [List.cons_append, splitAt_cons (fun h => hc h.symm), ih hline, consFirst]

theorem exists_line (sep : Char) (cs : List Char) :
    ∃ line, sep ∉ line ∧ (cs = line ∨ ∃ rest, cs = line ++ sep :: rest) := by
  induction cs with
  | nil => exact ⟨[], by simp, .inl rfl⟩
  | cons c cs ih =>
    by_cases hc : c = sep
    · exact ⟨[], by simp, .inr ⟨cs, by rw [hc]; rfl⟩⟩
    · obtain ⟨line, hline, hcs⟩ := ih
      refine ⟨c :: line, by simp [hline, Ne.symm hc], ?_⟩
      rcases hcs with rfl | ⟨rest, rfl⟩
      · exact .inl rfl
      · exact .inr ⟨rest, rfl⟩

end Text

/-- A line is its characters and at most a carriage return behind them. -/
theorem exists_return (line : List Char) :
    ∃ ending, line = dropReturn line ++ ending ∧ ∀ c ∈ ending, c = '\r' := by
  rw [dropReturn]
  split
  case isTrue h =>
    obtain ⟨front, hfront⟩ := List.getLast?_eq_some_iff.1 h
    exact ⟨['\r'], by simp [hfront], by simp⟩
  case isFalse => exact ⟨[], by simp, by simp⟩

namespace Text

/-- The lines of a text, without their line ends. -/
def lines (cs : List Char) : List (List Char) := (splitAt '\n' cs).map dropReturn

theorem lines_feed (cs : List Char) : lines ('\n' :: cs) = [] :: lines cs := by
  rw [lines, splitAt_sep]
  rfl

theorem lines_return_feed (cs : List Char) : lines ('\r' :: '\n' :: cs) = lines ('\n' :: cs) := by
  rw [lines, lines, splitAt_cons (by decide), splitAt_sep]
  rfl

theorem exists_lines (cs : List Char) : ∃ line more, lines cs = line :: more := by
  apply List.exists_cons_of_ne_nil
  rw [lines, ne_eq, List.map_eq_nil_iff]
  exact splitAt_ne_nil '\n' cs

/-- A character that belongs to no line end stands at the start of its line. -/
theorem lines_cons {c : Char} {cs : List Char} (hc : c ≠ '\n')
    (hreturn : c = '\r' → cs ≠ [] ∧ cs.head? ≠ some '\n') :
    ∃ line more, lines cs = line :: more ∧ lines (c :: cs) = (c :: line) :: more := by
  obtain ⟨piece, pieces, hpieces, hempty⟩ := head_splitAt cs
  have hdrop : dropReturn (c :: piece) = c :: dropReturn piece := by
    cases piece with
    | nil =>
      have hne : c ≠ '\r' := by
        intro h
        rcases hempty.1 rfl with hnil | hfeed
        · exact (hreturn h).1 hnil
        · exact (hreturn h).2 hfeed
      rw [dropReturn, if_neg (by simpa using hne)]
      rfl
    | cons d piece =>
      rw [dropReturn, dropReturn, List.getLast?_cons_cons]
      split <;> rfl
  refine ⟨dropReturn piece, pieces.map dropReturn, ?_, ?_⟩
  · rw [lines, hpieces, List.map_cons]
  · rw [lines, splitAt_cons hc, hpieces, consFirst, List.map_cons, hdrop]

/-- A line starts with the first character of the text, if with any: before the carriage return of a
line end stands an empty line. -/
theorem head?_of_lines {cs line : List Char} {more : List (List Char)} {c : Char}
    (h : lines cs = line :: more) (hhead : line.head? = some c) : cs.head? = some c := by
  cases cs with
  | nil =>
    obtain ⟨rfl, -⟩ := List.cons.inj h
    cases hhead
  | cons d cs =>
    by_cases hfeed : d = '\n'
    · rw [hfeed, lines_feed] at h
      obtain ⟨rfl, -⟩ := List.cons.inj h
      cases hhead
    · by_cases hreturn : d = '\r' → cs ≠ [] ∧ cs.head? ≠ some '\n'
      · obtain ⟨line', more', -, hlines⟩ := lines_cons hfeed hreturn
        obtain ⟨rfl, -⟩ := List.cons.inj (h.symm.trans hlines)
        exact hhead
      · have hempty : line = [] := by
          obtain ⟨rfl, hend⟩ : d = '\r' ∧ (cs ≠ [] → cs.head? = some '\n') := by
            simpa using hreturn
          cases cs with
          | nil => exact (List.cons.inj h).1.symm
          | cons e cs =>
            obtain rfl : e = '\n' := Option.some.inj (hend (by simp))
            rw [lines_return_feed, lines_feed] at h
            exact (List.cons.inj h).1.symm
        rw [hempty] at hhead
        cases hhead

/-- A character that belongs to no line end stands in its line at the position of its index. -/
theorem lines_at {cs : List Char} {i : Nat} {c : Char} (h : cs[i]? = some c) (hc : c ≠ '\n')
    (hreturn : c = '\r' → ∃ e, cs[i + 1]? = some e ∧ e ≠ '\n') :
    ((lines cs)[(Position.origin.after (cs.take i)).row]?.bind
      (·[(Position.origin.after (cs.take i)).column]?)) = some c := by
  induction cs generalizing i with
  | nil => cases h
  | cons d cs ih =>
    cases i with
    | zero =>
      obtain rfl : d = c := Option.some.inj h
      have hordinary : d = '\r' → cs ≠ [] ∧ cs.head? ≠ some '\n' := by
        intro heq
        obtain ⟨e, he, hne⟩ := hreturn heq
        rw [List.getElem?_cons_succ, ← List.head?_eq_getElem?] at he
        rw [he]
        refine ⟨?_, fun hfeed => hne (Option.some.inj hfeed)⟩
        rintro rfl
        cases he
      obtain ⟨line, more, -, hlines⟩ := lines_cons hc hordinary
      rw [hlines]
      rfl
    | succ i =>
      have hrest := ih h hreturn
      rw [List.take_succ_cons, Position.after_cons, Position.after_eq]
      by_cases hfeed : d = '\n'
      · subst hfeed
        rw [lines_feed]
        simpa [Position.step, Position.origin, Nat.add_comm 1] using hrest
      · by_cases hordinary : d = '\r' → cs ≠ [] ∧ cs.head? ≠ some '\n'
        · obtain ⟨line, more, hlines, hcons⟩ := lines_cons hfeed hordinary
          rw [hlines] at hrest
          rw [hcons]
          generalize Position.origin.after (cs.take i) = p at hrest ⊢
          obtain ⟨row, column⟩ := p
          cases row with
          | zero => simpa [Position.step, Position.origin, hfeed, Nat.add_comm 1] using hrest
          | succ row => simpa [Position.step, Position.origin, hfeed] using hrest
        · -- The carriage return of a line end, with the line feed behind it.
          obtain ⟨rfl, hend⟩ : d = '\r' ∧ (cs ≠ [] → cs.head? = some '\n') := by
            simpa using hordinary
          cases cs with
          | nil => cases h
          | cons e cs =>
            obtain rfl : e = '\n' := Option.some.inj (hend (by simp))
            cases i with
            | zero => exact absurd (Option.some.inj h).symm hc
            | succ i =>
              rw [lines_return_feed]
              rw [List.take_succ_cons, Position.after_cons, Position.after_eq] at hrest ⊢
              simpa [Position.step, Position.origin] using hrest

end Text

namespace Document

variable {d : Document} {before rest : List Char} {row : Nat}

theorem lineLength?_eq_none_iff : d.lineLength? row = none ↔ d.lineCount ≤ row := by
  rw [lineLength?, Option.map_eq_none_iff, line?, Array.getElem?_eq_none_iff]
  rfl

theorem exists_length {p : Position} (h : d.contains p = true) :
    ∃ n, d.lineLength? p.row = some n := by
  cases hn : d.lineLength? p.row with
  | none => simp [contains, hn] at h
  | some n => exact ⟨n, rfl⟩

theorem row_lt_of_contains {p : Position} (h : d.contains p = true) : p.row < d.lineCount := by
  obtain ⟨n, hn⟩ := exists_length h
  by_contra hge
  rw [lineLength?_eq_none_iff.2 (Nat.le_of_not_lt hge)] at hn
  cases hn

theorem contains_iff_column {n : Nat} (h : d.lineLength? row = some n) (column : Nat) :
    d.contains ⟨row, column⟩ = true ↔ column ≤ n := by
  simp [contains, h]

def positions (d : Document) : List Position :=
  (List.range d.lineCount).flatMap fun row =>
    match d.lineLength? row with
    | some n => (List.range (n + 1)).map (fun column => ⟨row, column⟩)
    | none => []

theorem mem_positions {p : Position} (h : d.contains p = true) : p ∈ d.positions := by
  obtain ⟨n, hn⟩ := exists_length h
  have hcolumn := (contains_iff_column hn p.column).1 h
  refine List.mem_flatMap.2 ⟨p.row, List.mem_range.2 (row_lt_of_contains h), ?_⟩
  rw [hn]
  exact List.mem_map.2 ⟨p.column, List.mem_range.2 (Nat.lt_succ_of_le hcolumn), rfl⟩

theorem lineLength?_of_line? {line : Array Char} (h : d.line? row = some line) :
    d.lineLength? row = some line.size := by
  rw [lineLength?, h]
  rfl

theorem exists_line? {n : Nat} (h : d.lineLength? row = some n) :
    ∃ line, d.line? row = some line ∧ line.size = n := Option.map_eq_some_iff.1 h

theorem exists_charAt? {n : Nat} (h : d.lineLength? row = some n) {column : Nat}
    (hlt : column < n) : ∃ a, d.charAt? ⟨row, column⟩ = some a := by
  obtain ⟨line, hline, rfl⟩ := exists_line? h
  rw [charAt?, hline]
  exact ⟨_, Array.getElem?_eq_getElem hlt⟩

theorem charAt?_lineEnd {n : Nat} (h : d.lineLength? row = some n) :
    d.charAt? ⟨row, n⟩ = none := by
  obtain ⟨line, hline, rfl⟩ := exists_line? h
  rw [charAt?, hline]
  exact Array.getElem?_eq_none_iff.2 (Nat.le_refl _)

theorem line?_eq (d : Document) (row : Nat) :
    d.line? row =
      ((Text.splitAt '\n' d.chars.toList)[row]?).map (fun line => (dropReturn line).toArray) := by
  rw [line?, d.lines_eq, linesOf]
  simp

theorem toList_lines (d : Document) :
    d.lines.toList.map (·.toList) = Text.lines d.chars.toList := by
  rw [d.lines_eq, linesOf, List.toList_toArray, List.map_map]
  rfl

theorem charAt?_eq (d : Document) (p : Position) :
    d.charAt? p = ((d.lines.toList.map (·.toList))[p.row]?).bind (·[p.column]?) := by
  rw [charAt?, line?, List.getElem?_map, Array.getElem?_toList]
  cases d.lines[p.row]? <;> simp

/-- A character that belongs to no line end is found in the document at the position of its index.
-/
theorem charAt?_after {i : Nat} {c : Char} (h : d.chars[i]? = some c) (hc : c ≠ '\n')
    (hreturn : c = '\r' → ∃ e, d.chars[i + 1]? = some e ∧ e ≠ '\n') :
    d.charAt? (Position.origin.after (d.chars.toList.take i)) = some c := by
  rw [charAt?_eq, toList_lines]
  rw [← Array.getElem?_toList] at h
  refine Text.lines_at h hc fun heq => ?_
  obtain ⟨e, he, hne⟩ := hreturn heq
  exact ⟨e, by rwa [Array.getElem?_toList], hne⟩

/-- The characters of the text behind a cut. -/
theorem chars_behind (h : d.chars.toList = before ++ rest) {k : Nat} (hk : before.length ≤ k) :
    d.chars[k]? = rest[k - before.length]? := by
  rw [← Array.getElem?_toList, h, List.getElem?_append_right hk]

theorem before?_cut (h : d.chars.toList = before ++ rest) :
    Pattern.Assertion.before? d.chars before.length = before.getLast? := by
  cases before using List.reverseRecOn with
  | nil => rfl
  | append_singleton front b =>
    rw [List.length_append, List.length_singleton, Pattern.Assertion.before?,
      ← Array.getElem?_toList, h]
    simp

end Document

/-- A cut of the text at the start of a row. -/
structure RowCut (d : Document) (before rest : List Char) (row : Nat) : Prop where
  cut : d.chars.toList = before ++ rest
  lines : (Text.splitAt '\n' d.chars.toList).drop row = Text.splitAt '\n' rest
  place : Position.origin.after before = ⟨row, 0⟩
  before : ∀ c, before.getLast? = some c → c = '\n'

namespace RowCut

variable {d : Document} {before rest line : List Char} {row : Nat}

theorem line? (h : RowCut d before rest row) (k : Nat) :
    d.line? (row + k) =
      ((Text.splitAt '\n' rest)[k]?).map (fun line => (dropReturn line).toArray) := by
  rw [Document.line?_eq, ← h.lines, List.getElem?_drop]

/-- Behind the next line feed there is such a cut again. -/
theorem next (h : RowCut d before (line ++ '\n' :: rest) row) (hfeed : '\n' ∉ line) :
    RowCut d (before ++ line ++ ['\n']) rest (row + 1) where
  cut := by simp [h.cut]
  lines := by
    rw [← List.tail_drop, h.lines, Text.splitAt_line_sep hfeed]
    rfl
  place := by
    rw [Position.after_append, Position.after_append, h.place, Position.after_line _ hfeed]
    rfl
  before := by simp

theorem lineAt (h : RowCut d before (line ++ rest) row)
    (hline : d.line? row = some (dropReturn line).toArray) (hfeed : '\n' ∉ line) :
    LineAt d before.length row (dropReturn line).length := by
  obtain ⟨ending, hending, -⟩ := exists_return line
  generalize dropReturn line = visible at hline hending ⊢
  subst hending
  have hcut := h.cut
  rw [List.append_assoc] at hcut
  refine ⟨?_, ?_, ?_, ?_, ?_⟩
  · rw [Document.lineLength?, hline]
    rfl
  · intro c hc
    rw [Document.chars_behind hcut (Nat.le_add_right _ _), Nat.add_sub_cancel_left,
      List.getElem?_append_left hc, Document.charAt?, hline]
    simp
  · intro c hc
    have htake : d.chars.toList.take (before.length + c) = before ++ visible.take c := by
      rw [hcut, List.take_length_add_append, List.take_append_of_le_length hc]
    have hrow : '\n' ∉ visible.take c := fun hmem =>
      hfeed (List.mem_append_left _ (List.mem_of_mem_take hmem))
    simp only [Pattern.placeAt, htake, Position.after_append, h.place]
    rw [Position.after_line _ hrow, List.length_take_of_le hc, Nat.zero_add]
  · intro c hc
    rw [Document.before?_cut hcut] at hc
    rw [h.before c hc]
    decide
  · rw [← Array.length_toList, hcut]
    simp only [List.length_append]
    omega

/-- The last row: at most a carriage return follows. -/
theorem layout_last (h : RowCut d before line row) (hfeed : '\n' ∉ line) :
    Layout d before.length row := by
  obtain ⟨ending, hending, hreturn⟩ := exists_return line
  have hfirst := h.line? 0
  have hnext := h.line? 1
  rw [Text.splitAt_line hfeed] at hfirst hnext
  have hcut : RowCut d before (line ++ []) row := by rwa [List.append_nil]
  refine .last (hcut.lineAt hfirst hfeed) (by rw [Document.lineLength?, hnext]; rfl) ?_
  intro k hk c hc
  have hrest : d.chars.toList = (before ++ dropReturn line) ++ ending := by
    rw [List.append_assoc, ← hending, h.cut]
  rw [← List.length_append] at hk
  rw [Document.chars_behind hrest hk] at hc
  rw [hreturn c (List.mem_of_getElem? hc)]
  decide

/-- A row with a line feed behind it. -/
theorem layout_more (h : RowCut d before (line ++ '\n' :: rest) row) (hfeed : '\n' ∉ line)
    (hrows : Layout d (before ++ line ++ ['\n']).length (row + 1)) :
    Layout d before.length row := by
  obtain ⟨ending, hending, hreturn⟩ := exists_return line
  have hlength := congrArg List.length hending
  rw [List.length_append] at hlength
  have hfirst := h.line? 0
  rw [Text.splitAt_line_sep hfeed] at hfirst
  refine .more (h.lineAt hfirst hfeed) ?_ ?_ hrows
  · simp only [List.length_append, List.length_singleton]
    omega
  · intro k hk hlt c hc
    have hrest : d.chars.toList = (before ++ dropReturn line) ++ (ending ++ ['\n'] ++ rest) := by
      rw [h.cut]
      nth_rewrite 1 [hending]
      simp
    simp only [List.length_append, List.length_singleton] at hlt
    rw [← List.length_append] at hk
    have hinside : k - (before ++ dropReturn line).length < (ending ++ ['\n']).length := by
      simp only [List.length_append, List.length_singleton] at hk ⊢
      omega
    rw [Document.chars_behind hrest hk, List.getElem?_append_left hinside] at hc
    rcases List.mem_append.1 (List.mem_of_getElem? hc) with hmem | hmem
    · rw [hreturn c hmem]
      decide
    · rw [List.mem_singleton.1 hmem]
      decide

/-- From a cut at the start of a row on, the text holds that row and those behind it. -/
theorem layout (h : RowCut d before rest row) : Layout d before.length row := by
  induction hn : rest.length using Nat.strong_induction_on generalizing before rest row with
  | h n ih =>
    subst hn
    obtain ⟨line, hfeed, hrest⟩ := Text.exists_line '\n' rest
    rcases hrest with rfl | ⟨behind, rfl⟩
    · exact h.layout_last hfeed
    · refine h.layout_more hfeed (ih behind.length ?_ (h.next hfeed) rfl)
      simp only [List.length_append, List.length_cons]
      omega

end RowCut

theorem Document.layout (d : Document) : Layout d 0 0 :=
  RowCut.layout ⟨(List.nil_append _).symm, rfl, rfl, by simp⟩

end ScopeLint
