import Mathlib.Data.List.Induction
import Mathlib.Order.Hom.Basic
import ScopeLint.Document

/-!
# Coordinates of a document

A text can be cut in two between any two characters.  A cut has a byte offset, the length of what
stands before it, and a position, the one reached by reading what stands before it.  Both grow
from cut to cut.  The positions of the document are those of all cuts but the ones that fall
behind the carriage return of a line end, so offsets and positions translate into each other.
-/

namespace ScopeLint

namespace Position

/-- The position after reading a text. -/
def after (p : Position) (cs : List Char) : Position := cs.foldl step p

@[simp] theorem after_nil (p : Position) : p.after [] = p := rfl

@[simp] theorem after_cons (p : Position) (c : Char) (cs : List Char) :
    p.after (c :: cs) = (p.step c).after cs := rfl

@[simp] theorem after_append (p : Position) (cs ds : List Char) :
    p.after (cs ++ ds) = (p.after cs).after ds := List.foldl_append

theorem lt_irrefl (p : Position) : ¬ p < p := by
  simp [lt_def]

theorem lt_trans {p q r : Position} (hpq : p < q) (hqr : q < r) : p < r := by
  rw [lt_def] at *
  omega

theorem le_iff_lt_or_eq {p q : Position} : p ≤ q ↔ p < q ∨ p = q := by
  obtain ⟨row, column⟩ := p
  obtain ⟨row', column'⟩ := q
  simp only [le_def, lt_def, Position.mk.injEq]
  omega

theorem le_refl (p : Position) : p ≤ p := le_iff_lt_or_eq.2 (.inr rfl)

theorem not_lt_of_le {p q : Position} (h : p ≤ q) : ¬ q < p := by
  rw [le_def] at h
  rw [lt_def]
  omega

theorem lt_step (p : Position) (c : Char) : p < p.step c := by
  rw [step, lt_def]
  split <;> simp

theorem lt_after (p : Position) {cs : List Char} (h : cs ≠ []) : p < p.after cs := by
  induction cs generalizing p with
  | nil => exact absurd rfl h
  | cons c cs ih =>
    rw [after_cons]
    by_cases hcs : cs = []
    · rw [hcs]; exact p.lt_step c
    · exact lt_trans (p.lt_step c) (ih (p.step c) hcs)

theorem lt_after_take (p : Position) {cs : List Char} {i j : Nat} (hij : i < j)
    (hj : j ≤ cs.length) : p.after (cs.take i) < p.after (cs.take j) := by
  have hcut : cs.take j = cs.take i ++ (cs.drop i).take (j - i) := by
    rw [← List.take_add, Nat.add_sub_cancel' (Nat.le_of_lt hij)]
  have hmore : (cs.drop i).take (j - i) ≠ [] := by
    intro hnil
    have hlength := congrArg List.length hnil
    rw [List.length_take, List.length_drop, List.length_nil] at hlength
    omega
  rw [hcut, after_append]
  exact lt_after _ hmore

theorem le_after (p : Position) (cs : List Char) : p ≤ p.after cs := by
  by_cases hcs : cs = []
  · rw [hcs]; exact p.le_refl
  · exact le_iff_lt_or_eq.2 (.inl (p.lt_after hcs))

theorem after_line (p : Position) {cs : List Char} (h : '\n' ∉ cs) :
    p.after cs = ⟨p.row, p.column + cs.length⟩ := by
  induction cs generalizing p with
  | nil => rfl
  | cons c cs ih =>
    obtain ⟨hc, hcs⟩ : ¬ '\n' = c ∧ '\n' ∉ cs := by simpa using h
    rw [after_cons, ih (p.step c) hcs, step, if_neg (fun h => hc h.symm)]
    simp [Nat.add_assoc, Nat.add_comm 1]

/-- Reading is the same wherever it starts: only columns of the first row move. -/
theorem after_eq (p : Position) (cs : List Char) :
    p.after cs = ⟨p.row + (origin.after cs).row,
      if (origin.after cs).row = 0 then p.column + (origin.after cs).column
      else (origin.after cs).column⟩ := by
  induction cs using List.reverseRecOn with
  | nil => simp [origin]
  | append_singleton cs c ih =>
    rw [after_append, after_append, ih]
    generalize origin.after cs = q
    by_cases hc : c = '\n'
    · simp [step, hc, Nat.add_assoc]
    · by_cases hq : q.row = 0 <;> simp [step, hc, hq, Nat.add_assoc]

theorem after_feed (cs : List Char) (row column : Nat) :
    (origin.step '\n').after cs = ⟨row, column⟩ ↔
      ∃ r, row = r + 1 ∧ origin.after cs = ⟨r, column⟩ := by
  rw [after_eq]
  obtain ⟨r, k⟩ := origin.after cs
  simp only [step, origin, if_true, Nat.zero_add, Position.mk.injEq]
  constructor
  · rintro ⟨rfl, hk⟩
    exact ⟨r, Nat.add_comm 1 r, rfl, by split at hk <;> exact hk⟩
  · rintro ⟨_, rfl, rfl, rfl⟩
    exact ⟨Nat.add_comm 1 r, ite_self k⟩

theorem after_first {c : Char} (hc : c ≠ '\n') (cs : List Char) (column : Nat) :
    (origin.step c).after cs = ⟨0, column⟩ ↔
      ∃ k, column = k + 1 ∧ origin.after cs = ⟨0, k⟩ := by
  rw [after_eq]
  obtain ⟨r, k⟩ := origin.after cs
  cases r with
  | zero => simp [step, origin, hc, Nat.add_comm 1 k, eq_comm]
  | succ r => simp [step, origin, hc]

theorem after_later {c : Char} (hc : c ≠ '\n') (cs : List Char) (row column : Nat) :
    (origin.step c).after cs = ⟨row + 1, column⟩ ↔ origin.after cs = ⟨row + 1, column⟩ := by
  rw [after_eq]
  obtain ⟨r, k⟩ := origin.after cs
  cases r <;> simp [step, origin, hc]

theorem after_eq_origin {cs : List Char} : origin.after cs = origin ↔ cs = [] := by
  constructor
  · intro h
    by_contra hcs
    have hlt := origin.lt_after hcs
    rw [h] at hlt
    exact origin.lt_irrefl hlt
  · intro h
    rw [h, after_nil]

end Position

theorem Span.contains_iff {s : Span} {p : Position} :
    s.contains p = true ↔ s.start ≤ p ∧ p < s.stop := by
  rw [contains, Bool.and_eq_true, decide_eq_true_eq, decide_eq_true_eq]

namespace Text

@[simp] theorem byteLength_nil : byteLength [] = 0 := rfl

theorem foldl_utf8Size (cs : List Char) (n : Nat) :
    cs.foldl (fun n c => n + c.utf8Size) n = n + byteLength cs := by
  induction cs generalizing n with
  | nil => rfl
  | cons c cs ih =>
    rw [byteLength, List.foldl_cons, List.foldl_cons, ih, ih]
    omega

@[simp] theorem byteLength_cons (c : Char) (cs : List Char) :
    byteLength (c :: cs) = c.utf8Size + byteLength cs := by
  rw [byteLength, List.foldl_cons, foldl_utf8Size, Nat.zero_add]

@[simp] theorem byteLength_append (cs ds : List Char) :
    byteLength (cs ++ ds) = byteLength cs + byteLength ds := by
  rw [byteLength, List.foldl_append, foldl_utf8Size, foldl_utf8Size, Nat.zero_add]

theorem byteLength_pos {cs : List Char} (h : cs ≠ []) : 0 < byteLength cs := by
  cases cs with
  | nil => exact absurd rfl h
  | cons c cs =>
    have hc := c.utf8Size_pos
    rw [byteLength_cons]
    omega

/-- The bytes of a text that is not empty, as they are counted off character by character. -/
theorem byteLength_cons_succ (c : Char) (cs : List Char) :
    ∃ n, byteLength (c :: cs) = n + 1 ∧ c.utf8Size ≤ n + 1 ∧
      n + 1 - c.utf8Size = byteLength cs := by
  obtain ⟨n, hn⟩ := Nat.exists_eq_add_one.2 (byteLength_pos (List.cons_ne_nil c cs))
  have hcons := byteLength_cons c cs
  exact ⟨n, hn, by omega, by omega⟩

/-- There is always a first piece; it is empty where the text is or starts with the separator. -/
theorem splitAt_ne_nil (sep : Char) (cs : List Char) : splitAt sep cs ≠ [] := by
  cases cs with
  | nil => simp [splitAt]
  | cons c cs =>
    rw [splitAt, List.foldr_cons]
    split
    · simp
    · cases List.foldr (fun c pieces => if c = sep then [] :: pieces else consFirst c pieces) [[]] cs <;>
        simp [consFirst]

theorem splitAt_sep (sep : Char) (cs : List Char) :
    splitAt sep (sep :: cs) = [] :: splitAt sep cs := by
  simp [splitAt]

theorem splitAt_cons {sep c : Char} (h : c ≠ sep) (cs : List Char) :
    splitAt sep (c :: cs) = consFirst c (splitAt sep cs) := by
  simp [splitAt, h]

theorem splitAt_eq_splitOn (sep : Char) (cs : List Char) : splitAt sep cs = cs.splitOn sep := by
  induction cs with
  | nil => rfl
  | cons c cs ih =>
    rw [List.splitOn, List.splitOnP_cons_eq_if_modifyHead, ← List.splitOn, ← ih]
    by_cases hc : c = sep
    · rw [hc, splitAt_sep, if_pos (beq_self_eq_true sep)]
    · rw [splitAt_cons hc, if_neg (by simpa using hc)]
      obtain ⟨piece, pieces, hpieces⟩ := List.exists_cons_of_ne_nil (splitAt_ne_nil sep cs)
      rw [hpieces]
      rfl

end Text

/-- Does the cut between two texts fall behind a carriage return that belongs to a line end? -/
def CutsLineEnd (before behind : List Char) : Prop :=
  before.getLast? = some '\r' ∧ (behind = [] ∨ behind.head? = some '\n')

theorem not_cutsLineEnd_nil (behind : List Char) : ¬ CutsLineEnd [] behind := by
  simp [CutsLineEnd]

/-- A cut behind a first character falls into a line end where it does so without that character, or
where the character is the carriage return. -/
theorem cutsLineEnd_cons {c : Char} {before behind : List Char} :
    CutsLineEnd (c :: before) behind ↔
      (before = [] ∧ c = '\r' ∧ (behind = [] ∨ behind.head? = some '\n')) ∨
        CutsLineEnd before behind := by
  cases before with
  | nil => simp [CutsLineEnd]
  | cons b before => simp [CutsLineEnd]

/-- Does a position lie in the lines of a text? -/
def InLines (cs : List Char) (p : Position) : Prop :=
  ∃ line, (Text.splitAt '\n' cs)[p.row]? = some line ∧ p.column ≤ (dropReturn line).length

theorem dropReturn_cons (c : Char) (cs : List Char) :
    (dropReturn (c :: cs)).length =
      if cs = [] then (if c = '\r' then 0 else 1) else (dropReturn cs).length + 1 := by
  cases cs with
  | nil => by_cases hc : c = '\r' <;> simp [dropReturn, hc]
  | cons d cs =>
    by_cases hl : (d :: cs).getLast? = some '\r' <;> simp [dropReturn, hl]

theorem inLines_nil (p : Position) : InLines [] p ↔ p = Position.origin := by
  obtain ⟨row, column⟩ := p
  cases row <;> simp [InLines, Text.splitAt, dropReturn, Position.origin]

theorem inLines_feed (cs : List Char) (row column : Nat) :
    InLines ('\n' :: cs) ⟨row, column⟩ ↔
      (row = 0 ∧ column = 0) ∨ ∃ r, row = r + 1 ∧ InLines cs ⟨r, column⟩ := by
  rw [InLines, Text.splitAt_sep]
  cases row with
  | zero => simp [dropReturn]
  | succ row => simp [InLines]

/-- The first piece is empty where a cut in front of the text falls into a line end. -/
theorem head_splitAt (cs : List Char) :
    ∃ piece pieces, Text.splitAt '\n' cs = piece :: pieces ∧
      (piece = [] ↔ cs = [] ∨ cs.head? = some '\n') := by
  cases cs with
  | nil => exact ⟨[], [], rfl, by simp⟩
  | cons c cs =>
    by_cases hc : c = '\n'
    · subst hc
      exact ⟨[], _, Text.splitAt_sep _ cs, by simp⟩
    · obtain ⟨piece, pieces, hp⟩ := List.exists_cons_of_ne_nil (Text.splitAt_ne_nil '\n' cs)
      refine ⟨c :: piece, pieces, ?_, by simp [hc]⟩
      rw [Text.splitAt_cons hc, hp, Text.consFirst]

theorem inLines_first {c : Char} (hc : c ≠ '\n') (cs : List Char) (column : Nat) :
    InLines (c :: cs) ⟨0, column + 1⟩ ↔
      InLines cs ⟨0, column⟩ ∧
        ¬ (column = 0 ∧ c = '\r' ∧ (cs = [] ∨ cs.head? = some '\n')) := by
  obtain ⟨piece, pieces, hp, hempty⟩ := head_splitAt cs
  rw [InLines, InLines, Text.splitAt_cons hc, hp, ← hempty]
  simp only [Text.consFirst, List.getElem?_cons_zero, Option.some.injEq, exists_eq_left',
    dropReturn_cons]
  by_cases hpiece : piece = []
  · by_cases hr : c = '\r' <;> simp [hpiece, hr, dropReturn]
  · simp [hpiece]

theorem inLines_later {c : Char} (hc : c ≠ '\n') (cs : List Char) (row column : Nat) :
    InLines (c :: cs) ⟨row + 1, column⟩ ↔ InLines cs ⟨row + 1, column⟩ := by
  obtain ⟨piece, pieces, hp, -⟩ := head_splitAt cs
  rw [InLines, InLines, Text.splitAt_cons hc, hp]
  simp [Text.consFirst]

theorem inLines_origin (cs : List Char) : InLines cs Position.origin := by
  obtain ⟨piece, pieces, hp, -⟩ := head_splitAt cs
  exact ⟨piece, by simp [hp, Position.origin], Nat.zero_le _⟩

theorem exists_cut_cons (c : Char) (cs : List Char) (P : List Char → List Char → Prop) :
    (∃ before behind, c :: cs = before ++ behind ∧ P before behind) ↔
      P [] (c :: cs) ∨ ∃ before behind, cs = before ++ behind ∧ P (c :: before) behind := by
  constructor
  · rintro ⟨before, behind, hcut, h⟩
    cases before with
    | nil =>
      obtain rfl : c :: cs = behind := hcut
      exact .inl h
    | cons b before =>
      obtain ⟨rfl, rfl⟩ := List.cons.inj hcut
      exact .inr ⟨before, behind, rfl, h⟩
  · rintro (h | ⟨before, behind, rfl, h⟩)
    · exact ⟨[], c :: cs, rfl, h⟩
    · exact ⟨c :: before, behind, rfl, h⟩

/-- Is the position that of a cut that leaves line ends whole? -/
def IsCut (cs : List Char) (p : Position) : Prop :=
  ∃ before behind, cs = before ++ behind ∧ ¬ CutsLineEnd before behind ∧
    Position.origin.after before = p

theorem isCut_nil (p : Position) : IsCut [] p ↔ p = Position.origin := by
  constructor
  · rintro ⟨before, behind, hcut, -, hp⟩
    obtain ⟨rfl, rfl⟩ := List.nil_eq_append_iff.1 hcut
    exact hp.symm
  · intro hp
    exact ⟨[], [], rfl, not_cutsLineEnd_nil [], hp.symm⟩

theorem isCut_feed (cs : List Char) (row column : Nat) :
    IsCut ('\n' :: cs) ⟨row, column⟩ ↔
      (row = 0 ∧ column = 0) ∨ ∃ r, row = r + 1 ∧ IsCut cs ⟨r, column⟩ := by
  rw [IsCut, exists_cut_cons]
  simp only [Position.after_cons, Position.after_nil, Position.after_feed, cutsLineEnd_cons]
  constructor
  · rintro (⟨-, hp⟩ | ⟨before, behind, rfl, hwhole, r, rfl, hp⟩)
    · obtain ⟨rfl, rfl⟩ := Position.mk.inj hp
      exact .inl ⟨rfl, rfl⟩
    · exact .inr ⟨r, rfl, before, behind, rfl, by simpa using hwhole, hp⟩
  · rintro (⟨rfl, rfl⟩ | ⟨r, rfl, before, behind, rfl, hwhole, hp⟩)
    · exact .inl ⟨not_cutsLineEnd_nil _, rfl⟩
    · exact .inr ⟨before, behind, rfl, by simp [hwhole], r, rfl, hp⟩

theorem isCut_later {c : Char} (hc : c ≠ '\n') (cs : List Char) (row column : Nat) :
    IsCut (c :: cs) ⟨row + 1, column⟩ ↔ IsCut cs ⟨row + 1, column⟩ := by
  rw [IsCut, exists_cut_cons]
  simp only [Position.after_cons, Position.after_nil, Position.after_later hc, cutsLineEnd_cons]
  constructor
  · rintro (⟨-, hp⟩ | ⟨before, behind, rfl, hwhole, hp⟩)
    · simp [Position.origin] at hp
    · exact ⟨before, behind, rfl, fun h => hwhole (.inr h), hp⟩
  · rintro ⟨before, behind, rfl, hwhole, hp⟩
    refine .inr ⟨before, behind, rfl, ?_, hp⟩
    rintro (⟨rfl, -⟩ | h)
    · simp [Position.origin] at hp
    · exact hwhole h

theorem isCut_first {c : Char} (hc : c ≠ '\n') (cs : List Char) (column : Nat) :
    IsCut (c :: cs) ⟨0, column + 1⟩ ↔
      IsCut cs ⟨0, column⟩ ∧
        ¬ (column = 0 ∧ c = '\r' ∧ (cs = [] ∨ cs.head? = some '\n')) := by
  rw [IsCut, exists_cut_cons]
  simp only [Position.after_cons, Position.after_nil, Position.after_first hc, cutsLineEnd_cons]
  constructor
  · rintro (⟨-, hp⟩ | ⟨before, behind, rfl, hwhole, k, hk, hp⟩)
    · simp [Position.origin] at hp
    · obtain rfl : column = k := by omega
      refine ⟨⟨before, behind, rfl, fun h => hwhole (.inr h), hp⟩, ?_⟩
      rintro ⟨rfl, hr, hend⟩
      obtain rfl := Position.after_eq_origin.1 hp
      exact hwhole (.inl ⟨rfl, hr, hend⟩)
  · rintro ⟨⟨before, behind, rfl, hwhole, hp⟩, hfirst⟩
    refine .inr ⟨before, behind, rfl, ?_, column, rfl, hp⟩
    rintro (⟨rfl, hr, hend⟩ | h)
    · exact hfirst ⟨(Position.mk.inj hp).2.symm, hr, hend⟩
    · exact hwhole h

theorem isCut_origin (cs : List Char) : IsCut cs Position.origin :=
  ⟨[], cs, rfl, not_cutsLineEnd_nil cs, rfl⟩

/-- The positions in the lines are those of the cuts that leave line ends whole: a character in
front changes the positions of both kinds in the same way. -/
theorem inLines_iff (cs : List Char) (p : Position) : InLines cs p ↔ IsCut cs p := by
  induction cs generalizing p with
  | nil => rw [inLines_nil, isCut_nil]
  | cons c cs ih =>
    obtain ⟨row, column⟩ := p
    by_cases hc : c = '\n'
    · rw [hc, inLines_feed, isCut_feed]
      simp only [ih]
    · cases row with
      | succ row => rw [inLines_later hc, isCut_later hc, ih]
      | zero =>
        cases column with
        | zero => exact iff_of_true (inLines_origin _) (isCut_origin _)
        | succ column => rw [inLines_first hc, isCut_first hc, ih]

namespace Document

theorem contains_iff_inLines (d : Document) (p : Position) :
    d.contains p = true ↔ InLines d.chars.toList p := by
  rw [contains, lineLength?, line?, d.lines_eq, linesOf, InLines]
  cases h : (Text.splitAt '\n' d.chars.toList)[p.row]? with
  | none => simp [h]
  | some line => simp [h]

/-- A position is in the document when it is that of a cut that leaves line ends whole. -/
theorem contains_iff (d : Document) (p : Position) :
    d.contains p = true ↔ ∃ before behind, d.chars.toList = before ++ behind ∧
      ¬ CutsLineEnd before behind ∧ Position.origin.after before = p := by
  rw [contains_iff_inLines, inLines_iff, IsCut]

theorem contains_of_charAt? {d : Document} {p : Position} {c : Char} (h : d.charAt? p = some c) :
    d.contains p = true := by
  rw [charAt?] at h
  split at h
  case h_1 chars hchars =>
    have hlt := (Array.getElem?_eq_some_iff.1 h).1
    simp [contains, lineLength?, hchars]
    omega
  case h_2 => cases h

theorem walk_append (p : Position) (before behind : List Char) :
    walk p (Text.byteLength before) (before ++ behind) = some (p.after before) := by
  induction before generalizing p with
  | nil => simp [walk]
  | cons c before ih =>
    obtain ⟨n, hn, hle, hrest⟩ := Text.byteLength_cons_succ c before
    rw [hn, List.cons_append, walk, if_pos hle, hrest, ih, Position.after_cons]

theorem bytesUntil_append (p : Position) (offset : Nat) (before behind : List Char) :
    bytesUntil (p.after before) p offset (before ++ behind) =
      offset + Text.byteLength before := by
  induction before generalizing p offset with
  | nil => cases behind <;> simp [bytesUntil]
  | cons c before ih =>
    have hne : p ≠ p.after (c :: before) := by
      intro h
      have hlt := p.lt_after (List.cons_ne_nil c before)
      rw [← h] at hlt
      exact p.lt_irrefl hlt
    rw [List.cons_append, bytesUntil, if_neg hne, Position.after_cons, ih, Text.byteLength_cons]
    omega

theorem dropBytes_append (before behind : List Char) :
    dropBytes (Text.byteLength before) (before ++ behind) = behind := by
  induction before with
  | nil => cases behind <;> simp [dropBytes]
  | cons c before ih =>
    obtain ⟨n, hn, -, hrest⟩ := Text.byteLength_cons_succ c before
    rw [hn, List.cons_append, dropBytes, hrest, ih]

theorem takeBytes_append (before behind : List Char) :
    takeBytes (Text.byteLength before) (before ++ behind) = before := by
  induction before with
  | nil => cases behind <;> simp [takeBytes]
  | cons c before ih =>
    obtain ⟨n, hn, -, hrest⟩ := Text.byteLength_cons_succ c before
    rw [hn, List.cons_append, takeBytes, hrest, ih]

/-- Two cuts of one text are in the same order by offset as by position. -/
theorem cut_compare {before behind before' behind' : List Char}
    (h : before ++ behind = before' ++ behind') :
    (Text.byteLength before < Text.byteLength before' ∧
        Position.origin.after before < Position.origin.after before') ∨
      before = before' ∨
      (Text.byteLength before' < Text.byteLength before ∧
        Position.origin.after before' < Position.origin.after before) := by
  have hgrow : ∀ {cs ds : List Char}, cs <+: ds → cs = ds ∨
      (Text.byteLength cs < Text.byteLength ds ∧
        Position.origin.after cs < Position.origin.after ds) := by
    rintro cs _ ⟨more, rfl⟩
    by_cases hmore : more = []
    · exact .inl (by rw [hmore, List.append_nil])
    · have hpos := Text.byteLength_pos hmore
      rw [Position.after_append, Text.byteLength_append]
      exact .inr ⟨by omega, Position.lt_after _ hmore⟩
  have hp : before <+: before' ++ behind' := ⟨behind, h⟩
  rcases List.prefix_or_prefix_of_prefix hp (List.prefix_append _ _) with hle | hle
  · rcases hgrow hle with heq | hlt
    · exact .inr (.inl heq)
    · exact .inl hlt
  · rcases hgrow hle with heq | hlt
    · exact .inr (.inl heq.symm)
    · exact .inr (.inr hlt)

/-- A cut is determined by its byte offset. -/
theorem cut_eq_of_byteLength {before behind before' behind' : List Char}
    (h : before ++ behind = before' ++ behind')
    (hlength : Text.byteLength before = Text.byteLength before') :
    before = before' ∧ behind = behind' := by
  rcases cut_compare h with ⟨hlt, -⟩ | heq | ⟨hlt, -⟩
  · omega
  · subst heq
    exact ⟨rfl, List.append_cancel_left h⟩
  · omega

/-- A cut is determined by its position. -/
theorem cut_eq_of_after {before behind before' behind' : List Char}
    (h : before ++ behind = before' ++ behind')
    (hafter : Position.origin.after before = Position.origin.after before') :
    before = before' ∧ behind = behind' := by
  rcases cut_compare h with ⟨-, hlt⟩ | heq | ⟨-, hlt⟩
  · rw [hafter] at hlt
    exact absurd hlt (Position.lt_irrefl _)
  · subst heq
    exact ⟨rfl, List.append_cancel_left h⟩
  · rw [hafter] at hlt
    exact absurd hlt (Position.lt_irrefl _)

section Cut

variable {d : Document} {before behind : List Char}

theorem positionAt?_cut (h : d.chars.toList = before ++ behind) :
    d.positionAt? (Text.byteLength before) = some (Position.origin.after before) := by
  rw [positionAt?, h, walk_append]

/-- A cut has a position in the document unless it falls into a line end. -/
theorem contains_cut (h : d.chars.toList = before ++ behind) :
    d.contains (Position.origin.after before) = true ↔ ¬ CutsLineEnd before behind := by
  rw [contains_iff]
  constructor
  · rintro ⟨before', behind', h', hwhole, hafter⟩
    obtain ⟨rfl, rfl⟩ := cut_eq_of_after (h'.symm.trans h) hafter
    exact hwhole
  · intro hwhole
    exact ⟨before, behind, h, hwhole, rfl⟩

/-- The offset of a cut that leaves line ends whole is told for its position. -/
theorem offsetOf_cut (h : d.chars.toList = before ++ behind) (hwhole : ¬ CutsLineEnd before behind) :
    d.offsetOf (Position.origin.after before) = .ok (Text.byteLength before) := by
  rw [offsetOf, if_pos ((contains_cut h).2 hwhole), h, bytesUntil_append, Nat.zero_add]

end Cut

theorem offsetOf_outside {d : Document} {p : Position} (h : d.contains p = false) :
    d.offsetOf p = .error (d.outside p) := by
  rw [offsetOf, if_neg (by simp [h])]

theorem contains_of_offsetOf {d : Document} {p : Position} {offset : Nat}
    (h : d.offsetOf p = .ok offset) : d.contains p = true := by
  rw [offsetOf] at h
  split at h
  case isTrue hin => exact hin
  case isFalse => cases h

theorem check_inside {d : Document} {p : Position} (h : d.contains p = true) :
    d.check p = .ok () := by
  rw [check, if_pos h]

theorem check_outside {d : Document} {p : Position} (h : d.contains p = false) :
    d.check p = .error (d.outside p) := by
  rw [check, if_neg (by simp [h])]

theorem checkSpan_inside {d : Document} {s : Span} (hstart : d.contains s.start = true)
    (hstop : d.contains s.stop = true) (hle : s.start ≤ s.stop) : d.checkSpan s = .ok s := by
  rw [checkSpan, check_inside hstart, check_inside hstop]
  simp only [bind, Except.bind, if_neg (Position.not_lt_of_le hle)]

/-- A span with an end outside the document is refused for its first such end, and so is reading
its text. -/
theorem refused_outside {d : Document} {s : Span}
    (h : d.contains s.start = false ∨ d.contains s.stop = false) :
    ∃ q, (q = s.start ∨ q = s.stop) ∧ d.checkSpan s = .error (d.outside q) ∧
      d.textIn s = .error (d.outside q) := by
  by_cases hstart : d.contains s.start = true
  · have hstop : d.contains s.stop = false := h.resolve_left (by simp [hstart])
    refine ⟨s.stop, .inr rfl, ?_, ?_⟩
    · rw [checkSpan, check_inside hstart, check_outside hstop]
      rfl
    · rw [textIn, offsetOf_outside hstop, offsetOf, if_pos hstart]
      rfl
  · have hstart' : d.contains s.start = false := by simpa using hstart
    refine ⟨s.start, .inl rfl, ?_, ?_⟩
    · rw [checkSpan, check_outside hstart']
      rfl
    · rw [textIn, offsetOf_outside hstart']
      rfl

/-- The text between two cuts that leave line ends whole. -/
theorem textIn_cut {d : Document} {before inside behind : List Char}
    (h : d.chars.toList = before ++ inside ++ behind)
    (hfirst : ¬ CutsLineEnd before (inside ++ behind))
    (hlast : ¬ CutsLineEnd (before ++ inside) behind) :
    d.textIn ⟨Position.origin.after before, Position.origin.after (before ++ inside)⟩ =
      .ok (some (String.ofList inside)) := by
  have hle : ¬ Text.byteLength (before ++ inside) < Text.byteLength before := by
    rw [Text.byteLength_append]
    omega
  have hsub : Text.byteLength (before ++ inside) - Text.byteLength before =
      Text.byteLength inside := by
    rw [Text.byteLength_append]
    omega
  have h' : d.chars.toList = before ++ (inside ++ behind) := by rw [h, List.append_assoc]
  rw [textIn, offsetOf_cut h' hfirst, offsetOf_cut h hlast]
  simp only [bind, Except.bind, if_neg hle, slice]
  rw [hsub, h', dropBytes_append, takeBytes_append]

/-- Is the offset one between two characters, or at an end of the text? -/
def IsBoundary (d : Document) (offset : Nat) : Prop :=
  ∃ before behind, d.chars.toList = before ++ behind ∧ Text.byteLength before = offset

/-- Does the offset fall behind a carriage return that belongs to a line end? -/
def IsInLineEnd (d : Document) (offset : Nat) : Prop :=
  ∃ before behind, d.chars.toList = before ++ behind ∧ Text.byteLength before = offset ∧
    CutsLineEnd before behind

/-- Is the offset one between two characters that does not fall into a line end? -/
def IsPlace (d : Document) (offset : Nat) : Prop := d.IsBoundary offset ∧ ¬ d.IsInLineEnd offset

theorem isInLineEnd_cut {d : Document} {before behind : List Char}
    (h : d.chars.toList = before ++ behind) :
    d.IsInLineEnd (Text.byteLength before) ↔ CutsLineEnd before behind := by
  constructor
  · rintro ⟨before', behind', h', hlength, hcuts⟩
    obtain ⟨rfl, rfl⟩ := cut_eq_of_byteLength (h'.symm.trans h) hlength
    exact hcuts
  · intro hcuts
    exact ⟨before, behind, h, rfl, hcuts⟩

theorem isPlace_cut {d : Document} {before behind : List Char}
    (h : d.chars.toList = before ++ behind) :
    d.IsPlace (Text.byteLength before) ↔ ¬ CutsLineEnd before behind := by
  rw [IsPlace, isInLineEnd_cut h]
  exact and_iff_right ⟨before, behind, h, rfl⟩

/-- Every position of the document is that of such a cut. -/
theorem exists_cut_of_contains {d : Document} {p : Position} (h : d.contains p = true) :
    ∃ before behind, d.chars.toList = before ++ behind ∧ ¬ CutsLineEnd before behind ∧
      p = Position.origin.after before ∧ d.offsetOf p = .ok (Text.byteLength before) := by
  obtain ⟨before, behind, hcut, hwhole, rfl⟩ := (d.contains_iff p).1 h
  exact ⟨before, behind, hcut, hwhole, rfl, offsetOf_cut hcut hwhole⟩

/-- The offset of a position of the document. -/
def placeOf (d : Document) (p : {p : Position // d.contains p = true}) :
    {offset : Nat // d.IsPlace offset} :=
  ⟨bytesUntil p.1 Position.origin 0 d.chars.toList, by
    obtain ⟨before, behind, hcut, hwhole, hp, -⟩ := exists_cut_of_contains p.2
    rw [hp, hcut, bytesUntil_append, Nat.zero_add]
    exact (isPlace_cut hcut).2 hwhole⟩

theorem offsetOf_eq_placeOf (d : Document) (p : {p : Position // d.contains p = true}) :
    d.offsetOf p.1 = .ok (d.placeOf p).1 := by
  rw [offsetOf, if_pos p.2, placeOf]

theorem positionAt?_placeOf (d : Document) (p : {p : Position // d.contains p = true}) :
    d.positionAt? (d.placeOf p).1 = some p.1 := by
  obtain ⟨before, behind, hcut, hwhole, hp, hoffset⟩ := exists_cut_of_contains p.2
  rw [offsetOf_eq_placeOf] at hoffset
  rw [Except.ok.inj hoffset, positionAt?_cut hcut, hp]

theorem placeOf_lt_iff (d : Document) (p q : {p : Position // d.contains p = true}) :
    (d.placeOf p).1 < (d.placeOf q).1 ↔ p.1 < q.1 := by
  obtain ⟨before, behind, hcut, -, hp, hoffset⟩ := exists_cut_of_contains p.2
  obtain ⟨before', behind', hcut', -, hq, hoffset'⟩ := exists_cut_of_contains q.2
  rw [offsetOf_eq_placeOf] at hoffset hoffset'
  rw [Except.ok.inj hoffset, Except.ok.inj hoffset', hp, hq]
  rcases cut_compare (hcut.symm.trans hcut') with ⟨hlt, hlt'⟩ | rfl | ⟨hlt, hlt'⟩
  · exact iff_of_true hlt hlt'
  · exact iff_of_false (Nat.lt_irrefl _) (Position.lt_irrefl _)
  · exact iff_of_false (by omega)
      (fun h => Position.lt_irrefl _ (Position.lt_trans h hlt'))

/-- Each place has one position, and each position one place. -/
theorem placeOf_bijective (d : Document) : Function.Bijective d.placeOf := by
  constructor
  · intro p q h
    have hp := d.positionAt?_placeOf p
    rw [h, positionAt?_placeOf] at hp
    exact Subtype.ext (Option.some.inj hp).symm
  · rintro ⟨_, ⟨before, behind, hcut, rfl⟩, hplace⟩
    have hwhole : ¬ CutsLineEnd before behind := fun h => hplace ⟨before, behind, hcut, rfl, h⟩
    refine ⟨⟨_, (contains_cut hcut).2 hwhole⟩, Subtype.ext ?_⟩
    have hoffset := offsetOf_cut hcut hwhole
    exact Except.ok.inj ((d.offsetOf_eq_placeOf ⟨_, (contains_cut hcut).2 hwhole⟩).symm.trans hoffset)

/-- Offsets and positions translate into each other.  The positions of the document correspond,
in order, to the boundaries outside line ends; a boundary in a line end has a position that the
document refuses; and positions grow with all boundaries. -/
theorem offsets_correspond_to_positions (d : Document) :
    (∃ e : {p : Position // d.contains p = true} ≃ {offset : Nat // d.IsPlace offset},
      (∀ p q, p.1 < q.1 ↔ (e p).1 < (e q).1) ∧
      (∀ p, d.offsetOf p.1 = .ok (e p).1) ∧
      (∀ offset, d.positionAt? offset.1 = some (e.symm offset).1)) ∧
    (∀ offset, d.IsInLineEnd offset → ∃ p, d.positionAt? offset = some p ∧ d.contains p = false ∧
      d.offsetOf p = .error (.positionOutOfRange p d.lineCount)) ∧
    (∀ first last, d.IsBoundary first → d.IsBoundary last → first < last →
      ∃ p q, d.positionAt? first = some p ∧ d.positionAt? last = some q ∧ p < q) ∧
    (∀ p, (∃ refusal, d.offsetOf p = .error refusal) ↔ d.contains p = false) := by
  refine ⟨⟨Equiv.ofBijective d.placeOf d.placeOf_bijective, ?_, ?_, ?_⟩, ?_, ?_, ?_⟩
  · intro p q
    exact (d.placeOf_lt_iff p q).symm
  · exact d.offsetOf_eq_placeOf
  · intro offset
    have h := d.positionAt?_placeOf
      ((Equiv.ofBijective d.placeOf d.placeOf_bijective).symm offset)
    rwa [Equiv.ofBijective_apply_symm_apply d.placeOf d.placeOf_bijective offset] at h
  · rintro _ ⟨before, behind, hcut, rfl, hcuts⟩
    have hout : d.contains (Position.origin.after before) = false := by
      rw [← Bool.not_eq_true, contains_cut hcut]
      exact not_not_intro hcuts
    exact ⟨_, positionAt?_cut hcut, hout, offsetOf_outside hout⟩
  · rintro _ _ ⟨before, behind, hcut, rfl⟩ ⟨before', behind', hcut', rfl⟩ hlt
    refine ⟨_, _, positionAt?_cut hcut, positionAt?_cut hcut', ?_⟩
    rcases cut_compare (hcut.symm.trans hcut') with ⟨-, h⟩ | rfl | ⟨h, -⟩
    · exact h
    · omega
    · omega
  · intro p
    constructor
    · rintro ⟨refusal, h⟩
      by_contra hin
      rw [offsetOf, if_pos (by simpa using hin)] at h
      cases h
    · intro hout
      exact ⟨_, offsetOf_outside hout⟩

end Document

end ScopeLint
