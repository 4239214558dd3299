import ScopeLint.Proofs.LineIndex
import ScopeLint.Proofs.Neighbours

/-!
# The text of a span

The text of a span is cut out of the document between two byte offsets.  An offset is found from the
index of line starts: where the row starts, and the bytes of the characters in front of the column.
Characters are found by their column in the line.  These ways of reading agree.  A span is read
exactly when its ends are in the document and in order; texts of adjoining spans join; and the text
of one column is the character there.
-/

namespace ScopeLint

namespace Text

theorem utf8ByteSize_ofList (cs : List Char) :
    (String.ofList cs).utf8ByteSize = byteLength cs := by
  induction cs with
  | nil => rfl
  | cons c cs ih =>
    have hsplit : String.ofList (c :: cs) = String.singleton c ++ String.ofList cs := by
      rw [String.singleton_eq_ofList, ← String.ofList_append]
      rfl
    rw [hsplit, String.utf8ByteSize_append, String.utf8ByteSize_singleton, ih, byteLength_cons]

theorem utf8ByteSize_eq (s : String) : s.utf8ByteSize = byteLength s.toList := by
  rw [← utf8ByteSize_ofList, String.ofList_toList]

/-- What stands between two byte offsets of a text is `part`. -/
def IsBetween (text : String) (first last : Nat) (part : String) : Prop :=
  ∃ before behind, text = before ++ part ++ behind ∧ before.utf8ByteSize = first ∧
    (before ++ part).utf8ByteSize = last

theorem isBetween_cut (before inside behind : List Char) :
    IsBetween (String.ofList (before ++ inside ++ behind)) (byteLength before)
      (byteLength (before ++ inside)) (String.ofList inside) := by
  refine ⟨String.ofList before, String.ofList behind, ?_, utf8ByteSize_ofList before, ?_⟩
  · rw [String.ofList_append, String.ofList_append]
  · rw [← String.ofList_append, utf8ByteSize_ofList]

/-- Two offsets have at most one text between them. -/
theorem IsBetween.unique {text part part' : String} {first last : Nat}
    (h : IsBetween text first last part) (h' : IsBetween text first last part') : part = part' := by
  obtain ⟨before, behind, rfl, rfl, rfl⟩ := h
  obtain ⟨before', behind', heq, hfirst, hlast⟩ := h'
  have hchars := congrArg String.toList heq
  simp only [utf8ByteSize_eq, String.toList_append, List.append_assoc] at hchars hfirst hlast
  obtain ⟨hbefore, hrest⟩ := Document.cut_eq_of_byteLength hchars hfirst.symm
  rw [hbefore, byteLength_append, byteLength_append, Nat.add_left_cancel_iff] at hlast
  exact String.toList_inj.1 (Document.cut_eq_of_byteLength hrest hlast.symm).1

end Text

open Text (byteLength lineStarts startsBehind)

/-! ## Offsets of rows and columns -/

/-- A cut at the start of a row that the index agrees with: its entry for the row is the offset of
the cut, and the entries behind it are those of the rest. -/
structure IndexedCut (d : Document) (front rest : List Char) (row : Nat) : Prop extends
    RowCut d front rest row where
  starts : (lineStarts d.chars.toList).drop row =
    byteLength front :: startsBehind (byteLength front) rest

namespace IndexedCut

variable {d : Document} {front rest line : List Char} {row : Nat}

/-- Behind the line feed of a row there is such a cut of the next row. -/
theorem next (h : IndexedCut d front (line ++ '\n' :: rest) row) (hfeed : '\n' ∉ line) :
    IndexedCut d (front ++ line ++ ['\n']) rest (row + 1) where
  toRowCut := h.toRowCut.next hfeed
  starts := by
    have hlength : byteLength (front ++ line ++ ['\n']) = byteLength front + byteLength line + 1 := by
      rw [Text.byteLength_append, Text.byteLength_append]
      rfl
    rw [← List.tail_drop, h.starts, List.tail_cons, Text.startsBehind_line hfeed,
      Text.startsBehind_feed, hlength]

/-- Every row has such a cut; one without a line feed behind it is the last. -/
theorem exists_of_row (h : row < d.lineCount) : ∃ front rest, IndexedCut d front rest row := by
  induction row with
  | zero => exact ⟨[], d.chars.toList, ⟨(List.nil_append _).symm, rfl, rfl, by simp⟩, rfl⟩
  | succ row ih =>
    obtain ⟨front, rest, hrow⟩ := ih (Nat.lt_of_succ_lt h)
    obtain ⟨line, hfeed, rfl | ⟨behind, rfl⟩⟩ := Text.exists_line '\n' rest
    · have hlast := congrArg List.length hrow.lines
      rw [Text.splitAt_line hfeed, List.length_drop, List.length_singleton] at hlast
      rw [Document.lineCount, d.lines_eq, linesOf, List.size_toArray, List.length_map] at h
      omega
    · exact ⟨_, _, hrow.next hfeed⟩

theorem start (h : IndexedCut d front rest row) :
    (lineStarts d.chars.toList)[row]? = some (byteLength front) := by
  rw [← List.head?_drop, h.starts, List.head?_cons]

/-- The characters of the line stand behind the cut. -/
theorem exists_behind (h : IndexedCut d front rest row) {chars : Array Char}
    (hline : d.line? row = some chars) :
    '\n' ∉ chars.toList ∧ ∃ behind, rest = chars.toList ++ behind := by
  obtain ⟨line, hfeed, hrest⟩ := Text.exists_line '\n' rest
  obtain ⟨ending, hending, -⟩ := exists_return line
  have hchars : chars.toList = dropReturn line := by
    have hfirst := h.line? 0
    rw [Nat.add_zero, hline] at hfirst
    rcases hrest with rfl | ⟨behind, rfl⟩
    · rw [Text.splitAt_line hfeed] at hfirst
      rw [Option.some.inj hfirst]
    · rw [Text.splitAt_line_sep hfeed] at hfirst
      rw [Option.some.inj hfirst]
  rw [← hchars] at hending
  refine ⟨fun hmem => hfeed (hending ▸ List.mem_append_left _ hmem), ?_⟩
  rcases hrest with rfl | ⟨behind, rfl⟩
  · exact ⟨ending, hending⟩
  · exact ⟨ending ++ '\n' :: behind, by rw [← List.append_assoc, ← hending]⟩

end IndexedCut

namespace Document

variable {d : Document}

/-- The offset of a position of the document, as it is found with the index. -/
theorem exists_offset {p : Position} (h : d.contains p = true) :
    ∃ start chars, (lineStarts d.chars.toList)[p.row]? = some start ∧
      d.line? p.row = some chars ∧ p.column ≤ chars.size ∧
      d.offsetOf p = .ok (start + byteLength (chars.toList.take p.column)) := by
  obtain ⟨n, hlength⟩ := exists_length h
  obtain ⟨chars, hline, rfl⟩ := exists_line? hlength
  have hcolumn := (contains_iff_column hlength p.column).1 h
  obtain ⟨front, rest, hcut⟩ := IndexedCut.exists_of_row (row_lt_of_contains h)
  obtain ⟨hfeed, behind, rfl⟩ := hcut.exists_behind hline
  refine ⟨_, chars, hcut.start, hline, hcolumn, ?_⟩
  have hplace : Position.origin.after (front ++ chars.toList.take p.column) = p := by
    rw [Position.after_append, hcut.place,
      Position.after_line _ (fun hmem => hfeed (List.mem_of_mem_take hmem)),
      List.length_take_of_le hcolumn, Nat.zero_add]
  have hchars : d.chars.toList =
      (front ++ chars.toList.take p.column) ++ (chars.toList.drop p.column ++ behind) := by
    rw [List.append_assoc, ← List.append_assoc (chars.toList.take _), List.take_append_drop, hcut.cut]
  have hwhole := (contains_cut hchars).1 (hplace.symm ▸ h)
  have hoffset := offsetOf_cut hchars hwhole
  rwa [hplace, Text.byteLength_append] at hoffset

/-- The offset of a position, as the index and the line give it. -/
theorem offsetOf_eq_ok_iff {p : Position} {offset : Nat} :
    d.offsetOf p = .ok offset ↔ ∃ start chars, (lineStarts d.chars.toList)[p.row]? = some start ∧
      d.line? p.row = some chars ∧ p.column ≤ chars.size ∧
      offset = start + byteLength (chars.toList.take p.column) := by
  constructor
  · intro h
    obtain ⟨start, chars, hstart, hline, hcolumn, hoffset⟩ := exists_offset (contains_of_offsetOf h)
    exact ⟨start, chars, hstart, hline, hcolumn, Except.ok.inj (h.symm.trans hoffset)⟩
  · rintro ⟨start, chars, hstart, hline, hcolumn, rfl⟩
    have hin := (contains_iff_column (lineLength?_of_line? hline) p.column).2 hcolumn
    obtain ⟨start', chars', hstart', hline', -, hoffset⟩ := exists_offset hin
    obtain rfl := Option.some.inj (hstart.symm.trans hstart')
    obtain rfl := Option.some.inj (hline.symm.trans hline')
    exact hoffset

/-! ## Reading spans -/

theorem textIn_eq_error_iff {s : Span} {e : LintError} :
    d.textIn s = .error e ↔ (d.contains s.start = false ∧ e = d.outside s.start) ∨
      (d.contains s.start = true ∧ d.contains s.stop = false ∧ e = d.outside s.stop) := by
  cases hstart : d.contains s.start with
  | false =>
    rw [textIn, offsetOf_outside hstart]
    simp [bind, Except.bind, eq_comm (a := e)]
  | true =>
    obtain ⟨_, _, -, -, -, hfirst⟩ := exists_offset hstart
    cases hstop : d.contains s.stop with
    | false =>
      rw [textIn, hfirst, offsetOf_outside hstop]
      simp [bind, Except.bind, eq_comm (a := e)]
    | true =>
      obtain ⟨_, _, -, -, -, hlast⟩ := exists_offset hstop
      rw [textIn, hfirst, hlast]
      simp only [bind, Except.bind]
      split <;> simp

/-- An accepted span has a text, and it stands between the offsets of its ends. -/
theorem exists_textIn {s : Span} (h : s.IsIn d) :
    ∃ first last part, d.offsetOf s.start = .ok first ∧ d.offsetOf s.stop = .ok last ∧
      Text.IsBetween d.text first last part ∧ d.textIn s = .ok (some part) := by
  obtain ⟨before, inside, behind, hcut, hfirst, hlast, rfl⟩ := h.exists_cut
  refine ⟨byteLength before, byteLength (before ++ inside), String.ofList inside, ?_, ?_, ?_, ?_⟩
  · exact offsetOf_cut (hcut.trans (List.append_assoc ..)) hfirst
  · exact offsetOf_cut hcut hlast
  · rw [Document.text, hcut]
    exact Text.isBetween_cut before inside behind
  · exact textIn_cut hcut hfirst hlast

theorem textIn_reversed {s : Span} (hstart : d.contains s.start = true)
    (hstop : d.contains s.stop = true) (hlt : s.stop < s.start) : d.textIn s = .ok none := by
  have hplaces := (d.placeOf_lt_iff ⟨s.stop, hstop⟩ ⟨s.start, hstart⟩).2 hlt
  rw [textIn, offsetOf_eq_placeOf d ⟨s.start, hstart⟩, offsetOf_eq_placeOf d ⟨s.stop, hstop⟩]
  simp only [bind, Except.bind, if_pos hplaces]

/-- Reading a span is refused, or its ends are reversed and there is no text, or there is one. -/
theorem textIn_cases (d : Document) (s : Span) :
    (∃ e, d.textIn s = .error e) ∨
      (d.contains s.start = true ∧ d.contains s.stop = true ∧ s.stop < s.start ∧
        d.textIn s = .ok none) ∨
      (s.IsIn d ∧ ∃ part, d.textIn s = .ok (some part)) := by
  cases hstart : d.contains s.start with
  | false => exact .inl ⟨_, textIn_eq_error_iff.2 (.inl ⟨hstart, rfl⟩)⟩
  | true =>
    cases hstop : d.contains s.stop with
    | false => exact .inl ⟨_, textIn_eq_error_iff.2 (.inr ⟨hstart, hstop, rfl⟩)⟩
    | true =>
      by_cases hlt : s.stop < s.start
      · exact .inr (.inl ⟨rfl, rfl, hlt, textIn_reversed hstart hstop hlt⟩)
      · have hle : s.start ≤ s.stop := by
          rw [Position.lt_def] at hlt
          rw [Position.le_def]
          omega
        exact .inr (.inr ⟨⟨hstart, hstop, hle⟩, textIn_of_isIn ⟨hstart, hstop, hle⟩⟩)

theorem textIn_eq_none_iff {s : Span} :
    d.textIn s = .ok none ↔
      d.contains s.start = true ∧ d.contains s.stop = true ∧ s.stop < s.start := by
  constructor
  · intro h
    rcases d.textIn_cases s with ⟨e, hrefused⟩ | ⟨hstart, hstop, hlt, -⟩ | ⟨-, part, hpart⟩
    · rw [hrefused] at h
      cases h
    · exact ⟨hstart, hstop, hlt⟩
    · rw [hpart] at h
      cases h
  · rintro ⟨hstart, hstop, hlt⟩
    exact textIn_reversed hstart hstop hlt

theorem isIn_of_textIn {s : Span} {part : String} (h : d.textIn s = .ok (some part)) : s.IsIn d := by
  rcases d.textIn_cases s with ⟨e, hrefused⟩ | ⟨-, -, -, hnone⟩ | ⟨hin, -⟩
  · rw [hrefused] at h
    cases h
  · rw [hnone] at h
    cases h
  · exact hin

theorem textIn_eq_some_iff {s : Span} {part : String} :
    d.textIn s = .ok (some part) ↔ s.start ≤ s.stop ∧
      ∃ first last, d.offsetOf s.start = .ok first ∧ d.offsetOf s.stop = .ok last ∧
        Text.IsBetween d.text first last part := by
  constructor
  · intro h
    have hin := isIn_of_textIn h
    obtain ⟨first, last, part', hfirst, hlast, hbetween, hpart⟩ := exists_textIn hin
    obtain rfl : part' = part := Option.some.inj (Except.ok.inj (hpart.symm.trans h))
    exact ⟨hin.le, first, last, hfirst, hlast, hbetween⟩
  · rintro ⟨hle, first, last, hfirst, hlast, hbetween⟩
    have hin : s.IsIn d := ⟨contains_of_offsetOf hfirst, contains_of_offsetOf hlast, hle⟩
    obtain ⟨first', last', part', hfirst', hlast', hbetween', hpart⟩ := exists_textIn hin
    obtain rfl := Except.ok.inj (hfirst.symm.trans hfirst')
    obtain rfl := Except.ok.inj (hlast.symm.trans hlast')
    rw [hpart, hbetween'.unique hbetween]

/-- The texts of two adjoining spans make up the text of the span that covers both, because the cut
they share is the same cut of the text. -/
theorem textIn_join {a b c : Position} (hfirst : Span.IsIn ⟨a, b⟩ d) (hlast : Span.IsIn ⟨b, c⟩ d) :
    ∃ x y, d.textIn ⟨a, b⟩ = .ok (some x) ∧ d.textIn ⟨b, c⟩ = .ok (some y) ∧
      d.textIn ⟨a, c⟩ = .ok (some (x ++ y)) := by
  obtain ⟨before, x, behind, hcut, hwhole, hmiddle, hab⟩ := hfirst.exists_cut
  obtain ⟨before', y, behind', hcut', -, hwhole', hbc⟩ := hlast.exists_cut
  obtain ⟨rfl, rfl⟩ := Span.mk.inj hab
  obtain ⟨hb, rfl⟩ := Span.mk.inj hbc
  obtain ⟨rfl, rfl⟩ := cut_eq_of_after (hcut.symm.trans (hcut'.trans (List.append_assoc ..))) hb
  have hjoin : d.chars.toList = before ++ (x ++ y) ++ behind' := by
    rw [hcut']
    simp only [List.append_assoc]
  refine ⟨String.ofList x, String.ofList y, textIn_cut hcut hwhole hmiddle,
    textIn_cut hcut' hmiddle hwhole', ?_⟩
  rw [List.append_assoc] at hwhole'
  rw [← String.ofList_append, List.append_assoc]
  refine textIn_cut hjoin ?_ hwhole'
  rwa [List.append_assoc]

/-! ## Single characters -/

theorem exists_charAt?_iff {p : Position} :
    (∃ c, d.charAt? p = some c) ↔ ∃ n, d.lineLength? p.row = some n ∧ p.column < n := by
  constructor
  · rintro ⟨c, h⟩
    obtain ⟨n, hlength⟩ := exists_length (contains_of_charAt? h)
    have hnext := (contains_iff_column hlength _).1 (contains_next_of_charAt? h)
    exact ⟨n, hlength, hnext⟩
  · rintro ⟨n, hlength, hcolumn⟩
    exact exists_charAt? hlength hcolumn

/-- Where a column and the next one are in the document, what stands between is the character
there. -/
theorem exists_textIn_charAt {p : Position} (h : (Span.charAt p).IsIn d) :
    ∃ c, d.charAt? p = some c ∧ d.textIn (Span.charAt p) = .ok (some (String.singleton c)) := by
  obtain ⟨before, behind, hcut, hwhole, hp⟩ := (d.contains_iff p).1 h.start_mem
  obtain ⟨c, rest, rfl, hfeed, hwhole'⟩ := exists_char_of_next hcut hp h.stop_mem
  have hend : ¬ Text.EndsLine (c :: rest) := by
    rw [endsLine_cons_iff before]
    rintro (hc | hcuts)
    · exact hfeed hc
    · exact hwhole' hcuts
  have hnext : Position.origin.after (before ++ [c]) = ⟨p.row, p.column + 1⟩ := by
    rw [Position.after_append, hp, Position.after_cons, Position.after_nil, Position.step,
      if_neg hfeed]
  have htext := textIn_cut (hcut.trans (List.append_cons ..)) hwhole hwhole'
  rw [hp, hnext, ← String.singleton_eq_ofList] at htext
  exact ⟨c, hp ▸ charAt?_cut hcut hend, htext⟩

theorem charAt?_eq_some_iff {p : Position} {c : Char} :
    d.charAt? p = some c ↔ d.textIn (Span.charAt p) = .ok (some (String.singleton c)) := by
  constructor
  · intro h
    have hin : (Span.charAt p).IsIn d :=
      ⟨contains_of_charAt? h, contains_next_of_charAt? h, .inr ⟨rfl, Nat.le_succ _⟩⟩
    obtain ⟨c', hchar, htext⟩ := exists_textIn_charAt hin
    rw [Option.some.inj (h.symm.trans hchar), htext]
  · intro h
    obtain ⟨c', hchar, htext⟩ := exists_textIn_charAt (isIn_of_textIn h)
    have hsingle := Option.some.inj (Except.ok.inj (h.symm.trans htext))
    rw [hchar, String.singleton_inj.1 hsingle]

/-- Spans are read between the byte offsets of their ends.  A position's offset is the start of its
row and the bytes of the characters before its column.  Reading is refused exactly when an end is
outside the document, for the first such end; there is no text exactly when the ends are inside and
reversed; and otherwise the text is what stands between the offsets.  Adjoining texts join.  There
is a character exactly in the columns of a line, and it is the text of its column. -/
theorem spans_read_between_offsets (d : Document) :
    (∀ p offset, d.offsetOf p = .ok offset ↔
      ∃ start chars, (lineStarts d.chars.toList)[p.row]? = some start ∧
        d.line? p.row = some chars ∧ p.column ≤ chars.size ∧
        offset = start + byteLength (chars.toList.take p.column)) ∧
    (∀ s e, d.textIn s = .error e ↔ (d.contains s.start = false ∧ e = d.outside s.start) ∨
      (d.contains s.start = true ∧ d.contains s.stop = false ∧ e = d.outside s.stop)) ∧
    (∀ s, d.textIn s = .ok none ↔
      d.contains s.start = true ∧ d.contains s.stop = true ∧ s.stop < s.start) ∧
    (∀ s part, d.textIn s = .ok (some part) ↔ s.start ≤ s.stop ∧
      ∃ first last, d.offsetOf s.start = .ok first ∧ d.offsetOf s.stop = .ok last ∧
        Text.IsBetween d.text first last part) ∧
    (∀ a b c, d.contains a = true → d.contains b = true → d.contains c = true → a ≤ b → b ≤ c →
      ∃ x y, d.textIn ⟨a, b⟩ = .ok (some x) ∧ d.textIn ⟨b, c⟩ = .ok (some y) ∧
        d.textIn ⟨a, c⟩ = .ok (some (x ++ y))) ∧
    (∀ p, (∃ c, d.charAt? p = some c) ↔ ∃ n, d.lineLength? p.row = some n ∧ p.column < n) ∧
    (∀ p c, d.charAt? p = some c ↔
      d.textIn (Span.charAt p) = .ok (some (String.singleton c))) := by
  refine ⟨fun p offset => offsetOf_eq_ok_iff, fun s e => textIn_eq_error_iff,
    fun s => textIn_eq_none_iff, fun s part => textIn_eq_some_iff, ?_,
    fun p => exists_charAt?_iff, fun p c => charAt?_eq_some_iff⟩
  intro a b c ha hb hc hab hbc
  exact textIn_join ⟨ha, hb, hab⟩ ⟨hb, hc, hbc⟩

/-- Two lines with a wide character and a carriage return between the ends. -/
theorem spans_read_between_offsets_wide :
    (ofString "aé\r\nb").contains ⟨0, 1⟩ = true ∧ (ofString "aé\r\nb").contains ⟨0, 2⟩ = true ∧
      (ofString "aé\r\nb").contains ⟨1, 1⟩ = true ∧
      ∃ x y, (ofString "aé\r\nb").textIn ⟨⟨0, 1⟩, ⟨0, 2⟩⟩ = .ok (some x) ∧
        (ofString "aé\r\nb").textIn ⟨⟨0, 2⟩, ⟨1, 1⟩⟩ = .ok (some y) ∧
        (ofString "aé\r\nb").textIn ⟨⟨0, 1⟩, ⟨1, 1⟩⟩ = .ok (some (x ++ y)) := by
  have hfirst : (ofString "aé\r\nb").contains ⟨0, 1⟩ = true := by decide +kernel
  have hmiddle : (ofString "aé\r\nb").contains ⟨0, 2⟩ = true := by decide +kernel
  have hlast : (ofString "aé\r\nb").contains ⟨1, 1⟩ = true := by decide +kernel
  exact ⟨hfirst, hmiddle, hlast, (spans_read_between_offsets _).2.2.2.2.1 _ _ _ hfirst hmiddle hlast
    (by decide) (by decide)⟩

end Document

end ScopeLint
