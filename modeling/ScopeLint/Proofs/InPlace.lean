import ScopeLint.Proofs.WholeWords

/-!
# Rows filled in place

The classifier can also be run with a cursor over the characters of a line.  In each round it looks
at the lexeme under the cursor, writes its scope into a row of fixed length and jumps behind it.
Here all reads and writes are by index, and one that is out of bounds gives no answer at all.  None
ever is, and the row is the one that the classifier gives.
-/

namespace ScopeLint

namespace Lexical

namespace InPlace

/-- The characters from index `first` up to index `last`; none if these are no bounds of a part. -/
def slice? (chars : Array Char) (first last : Nat) : Option (List Char) :=
  if first ≤ last ∧ last ≤ chars.size then some ((chars.toList.drop first).take (last - first))
  else none

/-- Write a scope from index `first` up to index `last`; none if these are no bounds of a part.
Plain code has no scope, and nothing is written for it. -/
def write? (row : Array (Option Inner)) (first last : Nat) :
    Option Inner → Option (Array (Option Inner))
  | none => some row
  | some scope =>
    if first ≤ last ∧ last ≤ row.size then
      some (row.toList.take first ++ List.replicate (last - first) (some scope) ++
        row.toList.drop last).toArray
    else none

/-- The index of the quote that closes a string, from index `i` on.  Behind a backslash one
character is left out, so the answer may lie behind the end of the line. -/
def closing (chars : Array Char) (quote : Char) (i : Nat) : Nat :=
  if h : i < chars.size then
    if chars[i] = quote then i
    else if chars[i] = '\\' then closing chars quote (i + 2)
    else closing chars quote (i + 1)
  else i
termination_by chars.size - i

/-- What the characters up to index `stop` make up, and the region that follows. -/
structure Lexeme where
  scope : Option Inner
  stop : Nat
  next : Region

/-- The lexeme of code at index `i`, where `c` stands. -/
def codeLexeme? (words : List (List Char)) (chars : Array Char) (i : Nat) (c : Char) :
    Option Lexeme :=
  if c = '/' ∧ chars[i + 1]? = some '/' then some ⟨some .lineComment, chars.size, .code⟩
  else if c = '/' ∧ chars[i + 1]? = some '*' then some ⟨some .blockComment, i + 2, .blockComment⟩
  else if c = '\x60' then some ⟨some .inlineCode, i + 1, .inlineCode⟩
  else if c = '\x22' then
    some ⟨some .doubleString, min (closing chars c (i + 1) + 1) chars.size, .code⟩
  else if c = '\x27' then
    some ⟨some .singleString, min (closing chars c (i + 1) + 1) chars.size, .code⟩
  else if c = '$' ∧ chars[i + 1]?.any isNameChar then do
    let behind ← slice? chars (i + 1) chars.size
    return ⟨some .variable, i + (1 + nameLength behind), .code⟩
  else if isOperatorChar c then some ⟨some .operator, i + 1, .code⟩
  else if c.isDigit then do
    let behind ← slice? chars i chars.size
    return ⟨some .number, i + nameLength behind, .code⟩
  else if isNameChar c then do
    let behind ← slice? chars i chars.size
    let word ← slice? chars i (i + nameLength behind)
    return ⟨wordScope words word, i + nameLength behind, .code⟩
  else some ⟨none, i + 1, .code⟩

/-- The lexeme at index `i`. -/
def lexeme? (words : List (List Char)) (chars : Array Char) (region : Region) (i : Nat) :
    Option Lexeme := do
  let c ← chars[i]?
  match region with
  | .code => codeLexeme? words chars i c
  | .blockComment =>
    if c = '*' ∧ chars[i + 1]? = some '/' then some ⟨some .blockComment, i + 2, .code⟩
    else some ⟨some .blockComment, i + 1, .blockComment⟩
  | .inlineCode => some ⟨some .inlineCode, i + 1, if c = '\x60' then .code else .inlineCode⟩

/-- A row that is filled up to the cursor. -/
structure Filling where
  row : Array (Option Inner)
  index : Nat
  region : Region

/-- One round: write the scope of the lexeme under the cursor, and jump behind it. -/
def advance? (words : List (List Char)) (chars : Array Char) (s : Filling) : Option Filling := do
  let lexeme ← lexeme? words chars s.region s.index
  let row ← write? s.row s.index lexeme.stop lexeme.scope
  return ⟨row, lexeme.stop, lexeme.next⟩

/-- All rounds; none if one fails or the end is not reached after so many. -/
def run? (words : List (List Char)) (chars : Array Char) : Nat → Filling → Option Filling
  | 0, s => if s.index < chars.size then none else some s
  | rounds + 1, s =>
    if s.index < chars.size then (advance? words chars s).bind (run? words chars rounds) else some s

/-- The row of a line and the region that goes on after it. -/
def fillRow? (words : List (List Char)) (region : Region) (chars : Array Char) :
    Option (Array (Option Inner) × Region) :=
  (run? words chars chars.size ⟨Array.replicate chars.size none, 0, region⟩).map
    (fun s => (s.row, s.region))

/-- The rows of all lines. -/
def fillRows? (words : List (List Char)) (region : Region) :
    List (Array Char) → Option (List (Array (Option Inner)))
  | [] => some []
  | line :: lines => do
    let filled ← fillRow? words region line
    let rows ← fillRows? words filled.2 lines
    return filled.1 :: rows

/-! ## Reads -/

section Reads

variable {chars : Array Char} {front rest : List Char} {c : Char}

theorem read_here (h : chars.toList = front ++ c :: rest) : chars[front.length]? = some c := by
  rw [← Array.getElem?_toList, h]
  simp

theorem read_next (h : chars.toList = front ++ c :: rest) :
    chars[front.length + 1]? = rest.head? := by
  rw [← Array.getElem?_toList, h, List.getElem?_append_right (Nat.le_add_right _ _),
    Nat.add_sub_cancel_left, List.getElem?_cons_succ, List.head?_eq_getElem?]

theorem size_eq (h : chars.toList = front ++ rest) : chars.size = front.length + rest.length := by
  rw [← Array.length_toList, h, List.length_append]

theorem slice?_take (h : chars.toList = front ++ rest) {n : Nat} (hn : n ≤ rest.length) :
    slice? chars front.length (front.length + n) = some (rest.take n) := by
  rw [slice?, if_pos ⟨by omega, by rw [size_eq h]; omega⟩, h, List.drop_left,
    Nat.add_sub_cancel_left]

theorem slice?_rest (h : chars.toList = front ++ rest) :
    slice? chars front.length chars.size = some rest := by
  rw [size_eq h, slice?_take h (Nat.le_refl _), List.take_length]

theorem closing_end (quote : Char) {i : Nat} (h : chars.size ≤ i) : closing chars quote i = i := by
  rw [closing, dif_neg (Nat.not_lt.2 h)]

/-- The search looks at one character and goes on behind it, or behind the one it escapes. -/
theorem closing_read (quote : Char) (h : chars.toList = front ++ c :: rest) :
    closing chars quote front.length =
      if c = quote then front.length
      else if c = '\\' then closing chars quote (front.length + 2)
      else closing chars quote (front.length + 1) := by
  have hlt : front.length < chars.size := by
    rw [size_eq h, List.length_cons]
    omega
  have hc : chars[front.length] = c :=
    Option.some.inj ((Array.getElem?_eq_getElem hlt).symm.trans (read_here h))
  rw [closing, dif_pos hlt, hc]

/-- The search for the closing quote ends where the string ends, once it is cut off at the end of
the line: behind a last backslash it jumps over that end. -/
theorem closing_eq (quote : Char) (h : chars.toList = front ++ rest) :
    min (closing chars quote front.length + 1) chars.size =
      front.length + quotedLength quote rest := by
  have hsize := size_eq h
  fun_induction quotedLength quote rest generalizing front with
  | case1 =>
    rw [List.length_nil] at hsize
    rw [closing_end quote (by omega)]
    omega
  | case2 rest =>
    rw [List.length_cons] at hsize
    rw [closing_read quote h, if_pos rfl]
    omega
  | case3 hquote =>
    rw [List.length_singleton] at hsize
    rw [closing_read quote h, if_neg hquote, if_pos rfl, closing_end quote (by omega)]
    omega
  | case4 d rest hquote ih =>
    have hbehind : chars.toList = (front ++ ['\\', d]) ++ rest := by simp [h]
    have hlength : (front ++ ['\\', d]).length = front.length + 2 := by simp
    have hrest := ih hbehind (size_eq hbehind)
    rw [hlength] at hrest
    rw [closing_read quote h, if_neg hquote, if_pos rfl, hrest]
    omega
  | case5 c rest hquote hescape ih =>
    have hbehind : chars.toList = (front ++ [c]) ++ rest := by simp [h]
    have hrest := ih hbehind (size_eq hbehind)
    rw [List.length_append, List.length_singleton] at hrest
    rw [closing_read quote h, if_neg hquote, if_neg hescape, hrest]
    omega

end Reads

/-! ## Rounds -/

section Rounds

variable {chars : Array Char} {front rest : List Char} {c : Char}

/-- The lexeme at index `i` carries the scope that the step of its first character holds on to, with
`rest` behind that character, and it does not go beyond the line. -/
def Carries (rest : List Char) (i : Nat) (result : Option Inner × Mode) (lexeme : Option Lexeme) :
    Prop :=
  ∃ scope count next, result = (scope, hold scope count next) ∧ count ≤ rest.length ∧
    lexeme = some ⟨scope, i + 1 + count, next⟩

theorem nameLength_le (cs : List Char) : nameLength cs ≤ cs.length :=
  (List.takeWhile_prefix isNameChar).length_le

theorem take_nameLength (cs : List Char) : cs.take (nameLength cs) = cs.takeWhile isNameChar :=
  (List.prefix_iff_eq_take.1 (List.takeWhile_prefix isNameChar)).symm

theorem carries_string (scope : Inner) (h : chars.toList = front ++ c :: rest) :
    Carries rest front.length (some scope, hold (some scope) (quotedLength c rest) .code)
      (some ⟨some scope, min (closing chars c (front.length + 1) + 1) chars.size, .code⟩) := by
  have hclose := closing_eq c (show chars.toList = (front ++ [c]) ++ rest by simp [h])
  rw [List.length_append, List.length_singleton] at hclose
  have hsize := size_eq h
  rw [List.length_cons] at hsize
  refine ⟨some scope, quotedLength c rest, .code, rfl, by omega, ?_⟩
  rw [hclose]

theorem carries_sign (scope : Option Inner) (next : Region) (i : Nat) :
    Carries rest i (scope, .inside next) (some ⟨scope, i + 1, next⟩) :=
  ⟨scope, 0, next, rfl, Nat.zero_le _, rfl⟩

/-- A lexeme of two signs lies in the line, because both were read. -/
theorem carries_pair {d : Char} (scope : Inner) (next : Region) (hrest : rest.head? = some d)
    (i : Nat) : Carries rest i (some scope, .held (some scope) 0 next)
      (some ⟨some scope, i + 2, next⟩) := by
  cases rest with
  | nil => cases hrest
  | cons _ rest => exact ⟨some scope, 1, next, rfl, by simp, rfl⟩

/-- A name is cut out from its first character on. -/
theorem slice?_name (h : chars.toList = front ++ c :: rest) (hc : isNameChar c = true) :
    slice? chars front.length (front.length + nameLength (c :: rest)) =
      some (c :: rest.takeWhile isNameChar) := by
  rw [slice?_take h (nameLength_le _), take_nameLength, List.takeWhile_cons_of_pos hc]

/-- Both sides decide alike, and then their answers fit in either case. -/
theorem carries_ite {p q : Prop} [Decidable p] [Decidable q] {i : Nat}
    {first second : Option Inner × Mode} {lexeme other : Option Lexeme} (hiff : p ↔ q)
    (hthen : p → Carries rest i first lexeme) (helse : ¬ p → Carries rest i second other) :
    Carries rest i (if p then first else second) (if q then lexeme else other) := by
  by_cases h : p
  · rw [if_pos h, if_pos (hiff.1 h)]
    exact hthen h
  · rw [if_neg h, if_neg (fun hq => h (hiff.2 hq))]
    exact helse h

/-- In code the lexeme under the cursor is what the step of its first character holds on to. -/
theorem codeLexeme?_carries (words : List (List Char)) (h : chars.toList = front ++ c :: rest) :
    Carries rest front.length (codeStep words c rest) (codeLexeme? words chars front.length c) := by
  have hle := nameLength_le rest
  have hnext := read_next h
  refine carries_ite (by rw [hnext]) (fun _ => ?_) fun _ => ?_
  · have hsize : chars.size = front.length + 1 + rest.length := by
      rw [size_eq h, List.length_cons]
      omega
    exact ⟨_, rest.length, _, rfl, Nat.le_refl _, by rw [hsize]⟩
  refine carries_ite (by rw [hnext]) (fun hopen => ?_) fun _ => ?_
  · exact carries_pair .blockComment .blockComment hopen.2 front.length
  refine carries_ite .rfl (fun _ => carries_sign _ _ _) fun _ => ?_
  refine carries_ite .rfl (fun _ => carries_string .doubleString h) fun _ => ?_
  refine carries_ite .rfl (fun _ => carries_string .singleString h) fun _ => ?_
  refine carries_ite (by rw [hnext, nameLength_pos_iff]) (fun _ => ?_) fun _ => ?_
  · have hslice := slice?_rest (show chars.toList = (front ++ [c]) ++ rest by simp [h])
    rw [List.length_append, List.length_singleton] at hslice
    refine ⟨_, nameLength rest, _, rfl, hle, ?_⟩
    rw [hslice, Nat.add_assoc]
    rfl
  refine carries_ite .rfl (fun _ => carries_sign _ _ _) fun _ => ?_
  refine carries_ite .rfl (fun hdigit => ?_) fun _ => ?_
  · refine ⟨_, nameLength rest, _, rfl, hle, ?_⟩
    rw [slice?_rest h, Nat.add_assoc, Nat.add_comm 1,
      ← nameLength_name (isNameChar_of_isDigit hdigit)]
    rfl
  refine carries_ite .rfl (fun hname => ?_) fun _ => carries_sign _ _ _
  refine ⟨_, nameLength rest, _, rfl, hle, ?_⟩
  rw [slice?_rest h, Nat.add_assoc, Nat.add_comm 1, ← nameLength_name hname, Option.bind_eq_bind,
    Option.bind_some, slice?_name h hname]
  rfl

/-- So it is in every region. -/
theorem lexeme?_carries (words : List (List Char)) (region : Region)
    (h : chars.toList = front ++ c :: rest) :
    Carries rest front.length (step words (.inside region) c rest)
      (lexeme? words chars region front.length) := by
  rw [lexeme?, read_here h, Option.bind_eq_bind, Option.bind_some]
  cases region with
  | code => exact codeLexeme?_carries words h
  | blockComment =>
    refine carries_ite (by rw [read_next h]) (fun hclose => ?_) fun _ => carries_sign _ _ _
    exact carries_pair .blockComment .code hclose.2 front.length
  | inlineCode => exact carries_sign _ _ _

/-- A held lexeme that does not go beyond the line gives its scope to its characters, and then the
next region goes on. -/
theorem scopesFrom_hold (words : List (List Char)) (scope : Option Inner) (next : Region)
    {count : Nat} (h : count ≤ rest.length) :
    scopesFrom words (hold scope count next) rest =
      (List.replicate count scope ++ (scopesFrom words (.inside next) (rest.drop count)).1,
        (scopesFrom words (.inside next) (rest.drop count)).2) := by
  induction count generalizing rest with
  | zero => rfl
  | succ count ih =>
    cases rest with
    | nil => exact absurd h (Nat.not_succ_le_zero count)
    | cons c rest =>
      have hrest := ih (Nat.le_of_succ_le_succ h)
      show (scope :: (scopesFrom words (hold scope count next) rest).1,
        (scopesFrom words (hold scope count next) rest).2) = _
      rw [hrest]
      rfl

/-- The row when the cursor has got to a place of the line, with `rest` behind it: `done` is written
and nothing else. -/
def pendingRow (done : List (Option Inner)) (rest : List Char) : Array (Option Inner) :=
  (done ++ List.replicate rest.length none).toArray

/-- A part behind what is written can be written. -/
theorem write?_pendingRow (done : List (Option Inner)) (scope : Option Inner) {count : Nat}
    (h : count ≤ rest.length) :
    write? (pendingRow done rest) done.length (done.length + count) scope =
      some (pendingRow (done ++ List.replicate count scope) (rest.drop count)) := by
  have hsplit : List.replicate rest.length (none : Option Inner) =
      List.replicate count none ++ List.replicate (rest.drop count).length none := by
    rw [List.length_drop, List.replicate_append_replicate, Nat.add_sub_cancel' h]
  cases scope with
  | none => rw [write?, pendingRow, pendingRow, hsplit, List.append_assoc]
  | some scope =>
    have hbounds : done.length ≤ done.length + count ∧
        done.length + count ≤ (pendingRow done rest).size := by
      simp [pendingRow, h]
    rw [write?, if_pos hbounds, pendingRow, pendingRow, hsplit]
    simp [List.drop_append]

/-- A round succeeds anywhere before the end of the line. -/
theorem advance?_eq (words : List (List Char)) (region : Region) {done : List (Option Inner)}
    (h : chars.toList = front ++ c :: rest) (hdone : done.length = front.length) :
    ∃ scope count next, step words (.inside region) c rest = (scope, hold scope count next) ∧
      count ≤ rest.length ∧
      advance? words chars ⟨pendingRow done (c :: rest), front.length, region⟩ =
        some ⟨pendingRow (done ++ List.replicate (count + 1) scope) (rest.drop count),
          front.length + (count + 1), next⟩ := by
  obtain ⟨scope, count, next, hstep, hcount, hlexeme⟩ := lexeme?_carries words region h
  have hwrite := write?_pendingRow done scope
    (show count + 1 ≤ (c :: rest).length from Nat.succ_le_succ hcount)
  rw [hdone, List.drop_succ_cons] at hwrite
  rw [Nat.add_assoc, Nat.add_comm 1] at hlexeme
  refine ⟨scope, count, next, hstep, hcount, ?_⟩
  rw [advance?, hlexeme, Option.bind_eq_bind, Option.bind_some, hwrite]
  rfl

/-- No round is made at the end of the line. -/
theorem run?_end (words : List (List Char)) (rounds : Nat) (row : Array (Option Inner))
    (region : Region) (h : chars.toList = front) :
    run? words chars rounds ⟨row, front.length, region⟩ = some ⟨row, chars.size, region⟩ := by
  have hend : front.length = chars.size := by rw [← h, Array.length_toList]
  rw [hend]
  cases rounds with
  | zero => exact if_neg (Nat.lt_irrefl _)
  | succ rounds => exact if_neg (Nat.lt_irrefl _)

/-- All rounds succeed from any place of the line, and write what the classifier gives from there
on. A round passes over one character and over those that are held behind it. -/
theorem run?_eq (words : List (List Char)) {rounds : Nat} (region : Region)
    (done : List (Option Inner)) (h : chars.toList = front ++ rest)
    (hdone : done.length = front.length) (hrounds : rest.length ≤ rounds) :
    run? words chars rounds ⟨pendingRow done rest, front.length, region⟩ =
      some ⟨(done ++ (scopesFrom words (.inside region) rest).1).toArray, chars.size,
        (scopesFrom words (.inside region) rest).2⟩ := by
  induction rounds generalizing front rest region done with
  | zero =>
    obtain rfl : rest = [] := List.length_eq_zero_iff.1 (Nat.le_zero.1 hrounds)
    exact run?_end words 0 _ region (h.trans (List.append_nil front))
  | succ rounds ih =>
    cases rest with
    | nil => exact run?_end words _ _ region (h.trans (List.append_nil front))
    | cons c rest =>
      obtain ⟨scope, count, next, hstep, hcount, hround⟩ := advance?_eq words region h hdone
      have hbefore : front.length < chars.size := by
        rw [size_eq h, List.length_cons]
        omega
      have hpassed : chars.toList = (front ++ c :: rest.take count) ++ rest.drop count := by
        simp [h]
      have hlength : (front ++ c :: rest.take count).length = front.length + (count + 1) := by
        simp [hcount]
      have hwritten : (done ++ List.replicate (count + 1) scope).length =
          (front ++ c :: rest.take count).length := by
        rw [hlength, List.length_append, List.length_replicate, hdone]
      have hleft : (rest.drop count).length ≤ rounds := by
        rw [List.length_cons] at hrounds
        rw [List.length_drop]
        omega
      have hrun := ih next _ hpassed hwritten hleft
      rw [hlength] at hrun
      rw [run?, if_pos hbefore, hround, Option.bind_some, hrun]
      simp only [scopesFrom, hstep, scopesFrom_hold words scope next hcount]
      simp [List.replicate_succ]

/-- A row is filled with what the classifier gives. -/
theorem fillRow?_eq (words : List (List Char)) (region : Region) (chars : Array Char) :
    fillRow? words region chars = some ((scopesFrom words (.inside region) chars.toList).1.toArray,
      (scopesFrom words (.inside region) chars.toList).2) := by
  have hrun := run?_eq words region [] (show chars.toList = [] ++ chars.toList from rfl) rfl
    (show chars.toList.length ≤ chars.size from Nat.le_refl _)
  have hempty : pendingRow [] chars.toList = Array.replicate chars.size none := by
    simp [pendingRow]
  rw [hempty] at hrun
  rw [fillRow?, show (0 : Nat) = ([] : List Char).length from rfl, hrun]
  rfl

end Rounds

/-- So are all rows. -/
theorem fillRows?_eq (words : List (List Char)) (region : Region) (lines : List (Array Char)) :
    fillRows? words region lines =
      some ((scopesOf words region (lines.map (·.toList))).map (·.toArray)) := by
  induction lines generalizing region with
  | nil => rfl
  | cons line lines ih =>
    rw [fillRows?, fillRow?_eq, Option.bind_eq_bind, Option.bind_some, ih]
    rfl

end InPlace

end Lexical

end ScopeLint
