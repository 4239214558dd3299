import ScopeLint.Proofs.Accounting
import ScopeLint.Proofs.InPlace

/-!
# Rows and lines

The lines of a text can be found in two ways.  One splits the text at its line feeds.  The other
keeps the byte offsets where lines start and cuts a line out of the text between two of them; a cut
inside a character or behind the text gives no answer.  Both find the same lines, and no cut fails.

So a classifier that reads the pieces of a text and a document that keeps an index mean the same by
a row and by a column of it.
-/

namespace ScopeLint

namespace Text

/-! ## Cuts at byte offsets -/

/-- Cut a text behind its first `bytes` bytes; none inside a character and behind the text. -/
def cut? : Nat → List Char → Option (List Char × List Char)
  | 0, cs => some ([], cs)
  | _ + 1, [] => none
  | bytes + 1, c :: rest =>
    if c.utf8Size ≤ bytes + 1 then
      (cut? (bytes + 1 - c.utf8Size) rest).map (fun parts => (c :: parts.1, parts.2))
    else none

/-- The characters between two byte offsets. -/
def between? (cs : List Char) (first last : Nat) : Option (List Char) :=
  if first ≤ last then do
    let behind ← cut? first cs
    let part ← cut? (last - first) behind.2
    return part.1
  else none

theorem cut?_append (front rest : List Char) :
    cut? (byteLength front) (front ++ rest) = some (front, rest) := by
  induction front with
  | nil =>
    rw [byteLength_nil, cut?]
    rfl
  | cons c front ih =>
    obtain ⟨n, hn, hle, hrest⟩ := byteLength_cons_succ c front
    rw [hn, List.cons_append, cut?, if_pos hle, hrest, ih]
    rfl

theorem between?_part (front part rest : List Char) :
    between? (front ++ (part ++ rest)) (byteLength front) (byteLength front + byteLength part) =
      some part := by
  rw [between?, if_pos (Nat.le_add_right _ _), cut?_append, Option.bind_eq_bind, Option.bind_some,
    Nat.add_sub_cancel_left, cut?_append]
  rfl

/-! ## The index of line starts -/

/-- The byte offsets behind the line feeds, for a text that starts at `offset`. -/
def startsBehind (offset : Nat) : List Char → List Nat
  | [] => []
  | c :: rest =>
    if c = '\n' then (offset + 1) :: startsBehind (offset + 1) rest
    else startsBehind (offset + c.utf8Size) rest

/-- The byte offsets where lines start. -/
def lineStarts (cs : List Char) : List Nat := 0 :: startsBehind 0 cs

/-- The piece of a text on a row: up to one byte before the next start, or up to the end. -/
def piece? (cs : List Char) (starts : List Nat) (row : Nat) : Option (List Char) := do
  let first ← starts[row]?
  between? cs first ((starts[row + 1]?).elim (byteLength cs) (· - 1))

/-- A line as it is cut out with the help of the index. -/
def indexedLine? (cs : List Char) (row : Nat) : Option (List Char) :=
  (piece? cs (lineStarts cs) row).map dropReturn

theorem startsBehind_line {line : List Char} (h : '\n' ∉ line) (offset : Nat) (rest : List Char) :
    startsBehind offset (line ++ rest) = startsBehind (offset + byteLength line) rest := by
  induction line generalizing offset with
  | nil => rfl
  | cons c line ih =>
    obtain ⟨hc, hline⟩ : ¬ '\n' = c ∧ '\n' ∉ line := by simpa using h
    rw [List.cons_append, startsBehind, if_neg (fun heq => hc heq.symm), ih hline, byteLength_cons,
      Nat.add_assoc]

theorem startsBehind_last {line : List Char} (h : '\n' ∉ line) (offset : Nat) :
    startsBehind offset line = [] := by
  have hstarts := startsBehind_line h offset []
  rwa [List.append_nil] at hstarts

theorem startsBehind_feed (offset : Nat) (rest : List Char) :
    startsBehind offset ('\n' :: rest) = (offset + 1) :: startsBehind (offset + 1) rest :=
  if_pos rfl

theorem length_startsBehind (offset : Nat) (cs : List Char) :
    (startsBehind offset cs).length = cs.count '\n' := by
  induction cs generalizing offset with
  | nil => rfl
  | cons c rest ih =>
    by_cases hc : c = '\n'
    · rw [hc, startsBehind_feed, List.length_cons, ih, List.count_cons_self]
    · rw [startsBehind, if_neg hc, ih, List.count_cons_of_ne hc]

theorem piece?_zero (cs : List Char) (first : Nat) (starts : List Nat) :
    piece? cs (first :: starts) 0 =
      between? cs first ((starts[0]?).elim (byteLength cs) (· - 1)) := rfl

theorem piece?_succ (cs : List Char) (first : Nat) (starts : List Nat) (row : Nat) :
    piece? cs (first :: starts) (row + 1) = piece? cs starts row := rfl

/-- With the index of what is behind `front`, exactly the pieces of this part are cut out.  Behind a
line feed the rest has an index of its own, and `front` grows by the line. -/
theorem piece?_append (front cs : List Char) (row : Nat) :
    piece? (front ++ cs) (byteLength front :: startsBehind (byteLength front) cs) row =
      (splitAt '\n' cs)[row]? := by
  induction row generalizing front cs with
  | zero =>
    obtain ⟨line, hline, rfl | ⟨rest, rfl⟩⟩ := exists_line '\n' cs
    · have hpart := between?_part front cs []
      rw [List.append_nil] at hpart
      rw [startsBehind_last hline, splitAt_line hline, piece?_zero, List.getElem?_nil, Option.elim,
        byteLength_append, hpart]
      rfl
    · rw [startsBehind_line hline, startsBehind_feed, splitAt_line_sep hline, piece?_zero,
        List.getElem?_cons_zero, Option.elim, Nat.add_sub_cancel, between?_part]
      rfl
  | succ row ih =>
    obtain ⟨line, hline, rfl | ⟨rest, rfl⟩⟩ := exists_line '\n' cs
    · rw [startsBehind_last hline, splitAt_line hline]
      rfl
    · have hrest := ih (front ++ (line ++ ['\n'])) rest
      have hlength : byteLength (front ++ (line ++ ['\n'])) =
          byteLength front + byteLength line + 1 := by
        rw [byteLength_append, byteLength_append, Nat.add_assoc]
        rfl
      rw [hlength, List.append_assoc, List.append_assoc] at hrest
      rw [startsBehind_line hline, startsBehind_feed, splitAt_line_sep hline, piece?_succ,
        List.getElem?_cons_succ]
      exact hrest

/-- Cut out with the help of the index, a line is that of the split text without its carriage
return. -/
theorem indexedLine?_eq (cs : List Char) (row : Nat) :
    indexedLine? cs row = ((splitAt '\n' cs)[row]?).map dropReturn :=
  congrArg (Option.map dropReturn) (piece?_append [] cs row)

/-! ## The pieces of a text -/

/-- The carriage return that does not count as a character of its line. -/
def returnOf (piece : List Char) : List Char :=
  if piece.getLast? = some '\r' then ['\r'] else []

/-- The characters between the lines of a text that falls into these pieces. -/
def lineEnds : List (List Char) → List (List Char)
  | [] => []
  | [piece] => [returnOf piece]
  | piece :: pieces => (returnOf piece ++ ['\n']) :: lineEnds pieces

theorem dropReturn_append (piece : List Char) : dropReturn piece ++ returnOf piece = piece := by
  rw [dropReturn, returnOf]
  split
  case isTrue h =>
    obtain ⟨front, hfront⟩ := List.getLast?_eq_some_iff.1 h
    simp [hfront]
  case isFalse => exact List.append_nil piece

theorem length_lineEnds (pieces : List (List Char)) : (lineEnds pieces).length = pieces.length := by
  fun_induction lineEnds pieces with
  | case1 => rfl
  | case2 => rfl
  | case3 piece pieces _ ih => rw [List.length_cons, ih, List.length_cons]

/-- Lines and what is between them make up the text. -/
theorem flatten_lineEnds (pieces : List (List Char)) :
    (List.zipWith (· ++ ·) (pieces.map dropReturn) (lineEnds pieces)).flatten =
      ['\n'].intercalate pieces := by
  fun_induction lineEnds pieces with
  | case1 => rfl
  | case2 piece => simp [dropReturn_append]
  | case3 piece pieces h ih =>
    cases pieces with
    | nil => exact absurd rfl h
    | cons next pieces =>
      rw [List.map_cons, List.zipWith_cons_cons, List.flatten_cons, ih, ← List.append_assoc,
        dropReturn_append, List.intercalate_cons_cons]

end Text

namespace Lexical

/-! ## Rows of scopes -/

theorem scopes_eq (keywords : List String) (d : Document) :
    scopes keywords d = ((scopesOf (lowered keywords) .code (d.lines.toList.map (·.toList))).map
      (·.toArray)).toArray := rfl

/-- Every row has one scope for each character of its line. -/
theorem map_size_scopes (keywords : List String) (d : Document) :
    (scopes keywords d).toList.map (·.size) = d.lines.toList.map (·.size) := by
  have hlengths := length_scopesAfter (lowered keywords) (.inside .code)
    (d.lines.toList.map (·.toList))
  rw [← scopesOf_eq, List.map_map] at hlengths
  rw [scopes_eq, List.map_map]
  exact hlengths

/-- The classifier and the document agree on lines.  Filling rows in place, from the pieces of the
text, never leaves the bounds of a line and gives the rows of the classifier.  There are as many as
there are lines, and each is as long as its line.  A line is a piece of the text without one
carriage return at its end, and it is what the index of line starts finds.  With the characters that
end them the lines make up the text. -/
theorem rows_are_lines (keywords : List String) (d : Document) :
    InPlace.fillRows? (lowered keywords) .code
        ((d.chars.toList.splitOn '\n').map (fun piece => (dropReturn piece).toArray)) =
      some (scopes keywords d).toList ∧
    (scopes keywords d).size = d.lineCount ∧
    (∀ row, ((scopes keywords d)[row]?).map (·.size) = d.lineLength? row) ∧
    (Text.lineStarts d.chars.toList).length = d.lineCount ∧
    (∀ row, d.line? row = (Text.indexedLine? d.chars.toList row).map (·.toArray)) ∧
    (∀ row, d.line? row =
      ((d.chars.toList.splitOn '\n')[row]?).map (fun piece => (dropReturn piece).toArray)) ∧
    (Text.lineEnds (d.chars.toList.splitOn '\n')).length = d.lineCount ∧
    (List.zipWith (· ++ ·) (d.lines.toList.map (·.toList))
      (Text.lineEnds (d.chars.toList.splitOn '\n'))).flatten = d.chars.toList := by
  have hpieces := Text.splitAt_eq_splitOn '\n' d.chars.toList
  have hsizes := map_size_scopes keywords d
  have hcount : d.lineCount = (d.chars.toList.splitOn '\n').length := by
    rw [Document.lineCount, d.lines_eq, linesOf, List.size_toArray, List.length_map, hpieces]
  refine ⟨?_, ?_, fun row => ?_, ?_, fun row => ?_, fun row => ?_, ?_, ?_⟩
  · rw [InPlace.fillRows?_eq, scopes_eq, d.lines_eq, linesOf, hpieces]
  · have hlengths := congrArg List.length hsizes
    simpa [Document.lineCount] using hlengths
  · have hrow := congrArg (fun sizes => sizes[row]?) hsizes
    simpa [Document.lineLength?, Document.line?] using hrow
  · rw [Text.lineStarts, List.length_cons, Text.length_startsBehind, hcount, ← hpieces,
      Text.length_splitAt, Nat.add_comm]
  · rw [Text.indexedLine?_eq, Option.map_map, d.line?_eq]
    rfl
  · rw [d.line?_eq, hpieces]
  · rw [Text.length_lineEnds, hcount]
  · rw [d.toList_lines, Text.lines, hpieces, Text.flatten_lineEnds, List.intercalate_splitOn]

end Lexical

end ScopeLint
