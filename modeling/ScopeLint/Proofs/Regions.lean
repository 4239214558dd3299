import ScopeLint.Proofs.Borders

/-!
# Where regions end

A block comment goes on to the first `*/`, inline code to the next backtick and a line comment to
the line feed, whatever stands between.  Behind the region the classifier starts afresh: the rest of
the text is read as if it stood alone.

The proofs go through the text character by character.  `Closes` says what is left of a region from
one place on; a line end and a character of the region take it one place back.
-/

namespace ScopeLint

theorem Document.lines_ofString (text : String) :
    (ofString text).lines.toList.map (·.toList) = Text.lines text.toList := toList_lines _

/-- The place of `p` in a text once another text that ends at `start` stands in front of it. -/
def Position.behind (start p : Position) : Position :=
  ⟨start.row + p.row, if p.row = 0 then start.column + p.column else p.column⟩

namespace Lexical

/-! ## Regions, character by character -/

/-- The scopes of all lines, of which the first is read from `mode` on. -/
def scopesAfter (words : List (List Char)) (mode : Mode) :
    List (List Char) → List (List (Option Inner))
  | [] => []
  | line :: lines =>
    (scopesFrom words mode line).1 :: scopesOf words (scopesFrom words mode line).2 lines

theorem scopesOf_eq (words : List (List Char)) (region : Region) (lines : List (List Char)) :
    scopesOf words region lines = scopesAfter words (.inside region) lines := by
  cases lines <;> rfl

/-- Read from `mode` on, all characters of `front` have the scope, and `rest` behind it has the
scopes that it has alone. -/
def Closes (words : List (List Char)) (mode : Mode) (front rest : List Char) (scope : Inner) :
    Prop :=
  ∃ done row first more,
    scopesAfter words mode (Text.lines (front ++ rest)) = done ++ (row ++ first) :: more ∧
    scopesAfter words (.inside .code) (Text.lines rest) = first :: more ∧
    Position.origin.after front = ⟨done.length, row.length⟩ ∧
    ∀ scopes ∈ row :: done, ∀ s ∈ scopes, s = some scope

variable {words : List (List Char)} {mode next : Mode} {front rest : List Char} {scope : Inner}
  {c : Char}

namespace Closes

theorem nil : Closes words (.inside .code) [] rest scope := by
  obtain ⟨line, lines, hlines⟩ := Text.exists_lines rest
  have hrest : scopesAfter words (.inside .code) (Text.lines rest) =
      (scopesFrom words (.inside .code) line).1 ::
        scopesOf words (scopesFrom words (.inside .code) line).2 lines := by
    rw [hlines]
    rfl
  exact ⟨[], [], _, _, hrest, hrest, rfl, by simp⟩

/-- A line feed takes the region to the next row. -/
theorem feed (h : Closes words (.inside mode.region) front rest scope) :
    Closes words mode ('\n' :: front) rest scope := by
  obtain ⟨done, row, first, more, hread, hrest, hplace, hscope⟩ := h
  refine ⟨[] :: done, row, first, more, ?_, hrest, ?_, ?_⟩
  · rw [List.cons_append, Text.lines_feed, List.cons_append, ← hread, ← scopesOf_eq]
    rfl
  · rw [Position.after_cons, Position.after_eq, hplace]
    simp [Position.step, Position.origin, Nat.add_comm]
  · simpa using hscope

/-- The carriage return of a line end is no character. -/
theorem return_feed (h : Closes words mode front rest scope) (hfront : front.head? = some '\n') :
    Closes words mode ('\r' :: front) rest scope := by
  obtain ⟨front', rfl⟩ : ∃ front', front = '\n' :: front' := List.head?_eq_some_iff.1 hfront
  obtain ⟨done, row, first, more, hread, hrest, hplace, hscope⟩ := h
  refine ⟨done, row, first, more, ?_, hrest, hplace, hscope⟩
  rw [List.cons_append, List.cons_append, Text.lines_return_feed]
  exact hread

/-- A character of the region. -/
theorem char (h : Closes words next front rest scope) (hc : c ≠ '\n')
    (hreturn : c = '\r' → front ++ rest ≠ [] ∧ (front ++ rest).head? ≠ some '\n')
    (hstep : ∀ line more, Text.lines (front ++ rest) = line :: more →
      step words mode c line = (some scope, next)) :
    Closes words mode (c :: front) rest scope := by
  obtain ⟨done, row, first, more, hread, hrest, hplace, hscope⟩ := h
  obtain ⟨line, lines, hlines, hcons⟩ := Text.lines_cons hc hreturn
  have hstart : Position.origin.after (c :: front) =
      ⟨done.length, if done.length = 0 then row.length + 1 else row.length⟩ := by
    rw [Position.after_cons, Position.after_eq, hplace]
    simp [Position.step, Position.origin, hc, Nat.add_comm]
  have hscopes : scopesAfter words mode (Text.lines (c :: front ++ rest)) =
      (some scope :: (scopesFrom words next line).1) ::
        scopesOf words (scopesFrom words next line).2 lines := by
    rw [List.cons_append, hcons, scopesAfter, scopesFrom, hstep line lines hlines]
  rw [hlines, scopesAfter] at hread
  cases done with
  | nil =>
    obtain ⟨hfirst, hmore⟩ := List.cons.inj hread
    refine ⟨[], some scope :: row, first, more, ?_, hrest, hstart, by simpa using hscope⟩
    rw [hscopes, hfirst, hmore]
    rfl
  | cons scopes done =>
    obtain ⟨hfirst, hmore⟩ := List.cons.inj hread
    refine ⟨(some scope :: scopes) :: done, row, first, more, ?_, hrest, hstart, ?_⟩
    · rw [hscopes, hfirst, hmore]
      rfl
    · simpa using hscope

/-- A character that is never part of a line end. -/
theorem sign (h : Closes words next front rest scope) (hc : c ≠ '\n' ∧ c ≠ '\r')
    (hstep : ∀ line more, Text.lines (front ++ rest) = line :: more →
      step words mode c line = (some scope, next)) :
    Closes words mode (c :: front) rest scope :=
  h.char hc.1 (fun heq => absurd heq hc.2) hstep

/-- The body of a region that goes on over line ends. -/
theorem body {region : Region} {body closer : List Char} (hcloser : closer ≠ [])
    (hstep : ∀ c behind, c :: behind <:+ body → ∀ line more,
      Text.lines (behind ++ closer ++ rest) = line :: more →
        step words (.inside region) c line = (some scope, .inside region))
    (h : Closes words (.inside region) closer rest scope) :
    Closes words (.inside region) (body ++ closer) rest scope := by
  induction body with
  | nil => exact h
  | cons c body ih =>
    have hbody := ih fun d behind hd => hstep d behind (hd.trans (List.suffix_cons c body))
    by_cases hfeed : c = '\n'
    · rw [hfeed]
      exact hbody.feed
    · by_cases hreturn : c = '\r' ∧ (body ++ closer).head? = some '\n'
      · rw [hreturn.1]
        exact hbody.return_feed hreturn.2
      · have hfront : body ++ closer ≠ [] := by simp [hcloser]
        refine hbody.char hfeed (fun hc => ⟨by simp [hcloser], fun hhead => ?_⟩)
          (hstep c body List.suffix_rfl)
        rw [List.head?_append_of_ne_nil _ hfront] at hhead
        exact hreturn ⟨hc, hhead⟩

end Closes

/-! ## The three regions -/

/-- A character other than those of line ends stands in front of its line. -/
theorem head?_lines (hc : c ≠ '\n' ∧ c ≠ '\r') {cs line : List Char}
    {more : List (List Char)} (h : Text.lines (c :: cs) = line :: more) :
    line.head? = some c := by
  obtain ⟨line', more', -, hlines⟩ := Text.lines_cons hc.1 (fun heq => absurd heq hc.2)
  obtain ⟨rfl, -⟩ := List.cons.inj (h.symm.trans hlines)
  rfl

/-- A block comment goes on over line ends up to its closer; a star with a slash behind it would end
it within its body. -/
theorem closes_blockComment {body : List Char} (h : ¬ ['*', '/'] <:+: body) :
    Closes words (.inside .code) (['/', '*'] ++ (body ++ ['*', '/'])) rest .blockComment := by
  have hslash : Closes words (.held (some .blockComment) 0 .code) ['/'] rest .blockComment :=
    Closes.nil.sign (by decide) (fun _ _ _ => rfl)
  have hcloser : Closes words (.inside .blockComment) ['*', '/'] rest .blockComment := by
    refine hslash.sign (by decide) fun line more hlines => ?_
    rw [step, if_pos ⟨rfl, head?_lines (by decide) hlines⟩]
  have hbody : Closes words (.inside .blockComment) (body ++ ['*', '/']) rest .blockComment := by
    refine Closes.body (by decide) (fun c behind hsuffix line more hlines => ?_) hcloser
    rw [step, if_neg]
    rintro ⟨rfl, hhead⟩
    have hslash := Text.head?_of_lines hlines hhead
    cases behind with
    | nil => exact absurd (Option.some.inj hslash) (by decide)
    | cons d behind =>
      obtain rfl : d = '/' := Option.some.inj hslash
      exact h ((List.prefix_append ['*', '/'] behind).isInfix.trans hsuffix.isInfix)
  have hstar : Closes words (.held (some .blockComment) 0 .blockComment)
      ('*' :: (body ++ ['*', '/'])) rest .blockComment :=
    hbody.sign (by decide) (fun _ _ _ => rfl)
  refine hstar.sign (by decide) fun line more hlines => ?_
  have hhead := head?_lines (by decide) hlines
  rw [step, codeStep, if_neg (by simp [hhead]), if_pos ⟨rfl, hhead⟩]

theorem closes_inlineCode {body : List Char} (h : '\x60' ∉ body) :
    Closes words (.inside .code) (['\x60'] ++ (body ++ ['\x60'])) rest .inlineCode := by
  have hcloser : Closes words (.inside .inlineCode) ['\x60'] rest .inlineCode :=
    Closes.nil.sign (by decide) (fun _ _ _ => rfl)
  have hbody : Closes words (.inside .inlineCode) (body ++ ['\x60']) rest .inlineCode := by
    refine Closes.body (by decide) (fun c behind hsuffix line more hlines => ?_) hcloser
    have hc : c ≠ '\x60' := by
      rintro rfl
      exact h (hsuffix.subset List.mem_cons_self)
    rw [step, if_neg hc]
  exact hbody.sign (by decide) (fun _ _ _ => rfl)

/-- A line comment is held over the rest of its line. -/
theorem closes_held {body : List Char} (h : '\n' ∉ body) {line : List Char}
    {more : List (List Char)} (hlines : Text.lines (body ++ ['\n'] ++ rest) = line :: more) :
    Closes words (hold (some scope) line.length .code) (body ++ ['\n']) rest scope := by
  induction body generalizing line more with
  | nil =>
    obtain ⟨rfl, -⟩ := List.cons.inj ((Text.lines_feed rest).symm.trans hlines)
    exact Closes.nil.feed
  | cons c body ih =>
    obtain ⟨hc, hbody⟩ : c ≠ '\n' ∧ '\n' ∉ body := by simpa [eq_comm] using h
    by_cases hreturn : c = '\r' ∧ (body ++ ['\n']).head? = some '\n'
    · obtain ⟨rfl, hhead⟩ := hreturn
      obtain ⟨front, hfront⟩ := List.head?_eq_some_iff.1 hhead
      have hsame : Text.lines (body ++ ['\n'] ++ rest) = line :: more := by
        rw [← hlines, List.cons_append, List.cons_append, hfront, List.cons_append,
          Text.lines_return_feed]
      exact (ih hbody hsame).return_feed hhead
    · have hfront : body ++ ['\n'] ≠ [] := by simp
      have hchar : c = '\r' → body ++ ['\n'] ++ rest ≠ [] ∧
          (body ++ ['\n'] ++ rest).head? ≠ some '\n' := by
        intro heq
        rw [List.head?_append_of_ne_nil _ hfront]
        exact ⟨by simp, fun hhead => hreturn ⟨heq, hhead⟩⟩
      obtain ⟨line', more', hlines', hcons⟩ := Text.lines_cons hc hchar
      obtain ⟨rfl, -⟩ := List.cons.inj (hlines.symm.trans hcons)
      exact (ih hbody hlines').char hc hchar (fun line more h => by
        obtain ⟨rfl, -⟩ := List.cons.inj (h.symm.trans hlines')
        rfl)

theorem closes_lineComment {body : List Char} (h : '\n' ∉ body) :
    Closes words (.inside .code) (['/', '/'] ++ (body ++ ['\n'])) rest .lineComment := by
  obtain ⟨line, more, hlines⟩ := Text.exists_lines ('/' :: body ++ ['\n'] ++ rest)
  have hheld : Closes words (hold (some .lineComment) line.length .code)
      ('/' :: body ++ ['\n']) rest .lineComment :=
    closes_held (by simpa using h) hlines
  refine hheld.sign (by decide) fun line' more' hlines' => ?_
  obtain ⟨rfl, -⟩ := List.cons.inj (hlines.symm.trans hlines')
  rw [step, codeStep, if_pos ⟨rfl, head?_lines (by decide) hlines⟩]

/-! ## Regions in documents -/

/-- The keywords as the classifier compares them. -/
def lowered (keywords : List String) : List (List Char) :=
  keywords.map (fun k => Text.lowerChars k.toList)

/-- Have all characters of `front` the scope, with `rest` behind them? -/
def Covers (keywords : List String) (front rest : String) (scope : Inner) : Prop :=
  ∀ p c, (Document.ofString (front ++ rest)).charAt? p = some c →
    p < Position.origin.after front.toList →
    (classifier keywords (.ofString (front ++ rest))).pathAt p = [Scope.root, scope.name]

/-- Have all places of `rest` behind `front` the scopes that they have alone? -/
def Restarts (keywords : List String) (front rest : String) : Prop :=
  ∀ p, (classifier keywords (.ofString (front ++ rest))).pathAt
      ((Position.origin.after front.toList).behind p) =
    (classifier keywords (.ofString rest)).pathAt p

theorem length_scopesAfter (words : List (List Char)) (mode : Mode) (lines : List (List Char)) :
    (scopesAfter words mode lines).map List.length = lines.map List.length := by
  induction lines generalizing mode with
  | nil => rfl
  | cons line lines ih =>
    rw [scopesAfter, scopesOf_eq, List.map_cons, List.map_cons, scopesFrom_length, ih]

theorem innerAt_toArray (table : List (List (Option Inner))) (p : Position) :
    innerAt (table.map (·.toArray)).toArray p =
      ((table[p.row]?).bind (·[p.column]?)).getD none := by
  rw [innerAt, List.getElem?_toArray, List.getElem?_map]
  cases table[p.row]? <;> simp

/-- The scope of a place is looked up in the lines of the text. -/
theorem pathAt_ofString (keywords : List String) (text : String) (p : Position) :
    (classifier keywords (.ofString text)).pathAt p =
      match ((scopesAfter (lowered keywords) (.inside .code) (Text.lines text.toList))[p.row]?.bind
        (·[p.column]?)).getD none with
      | some scope => [Scope.root, scope.name]
      | none => [Scope.root] := by
  rw [← innerAt_toArray, ← scopesOf_eq, ← Document.lines_ofString]
  rfl

/-- Each character has an entry, and nothing else has. -/
theorem isSome_entry (words : List (List Char)) (mode : Mode) (text : String) (p : Position) :
    ((scopesAfter words mode (Text.lines text.toList))[p.row]?.bind (·[p.column]?)).isSome =
      ((Document.ofString text).charAt? p).isSome := by
  have hlength := congrArg (·[p.row]?) (length_scopesAfter words mode (Text.lines text.toList))
  simp only [List.getElem?_map] at hlength
  rw [Document.charAt?_eq, Document.lines_ofString]
  cases hline : (Text.lines text.toList)[p.row]? with
  | none =>
    rw [hline, Option.map_none, Option.map_eq_none_iff] at hlength
    rw [hlength]
    rfl
  | some line =>
    rw [hline, Option.map_some, Option.map_eq_some_iff] at hlength
    obtain ⟨scopes, hscopes, hsame⟩ := hlength
    rw [hscopes, Option.bind_some, Option.bind_some, Bool.eq_iff_iff]
    simp [hsame]

theorem pathAt_of_charAt?_eq_none (keywords : List String) {text : String} {p : Position}
    (h : (Document.ofString text).charAt? p = none) :
    (classifier keywords (.ofString text)).pathAt p = [Scope.root] := by
  have hentry := isSome_entry (lowered keywords) (.inside .code) text p
  rw [h, Option.isSome_none, Option.isSome_eq_false_iff, Option.isNone_iff_eq_none] at hentry
  rw [pathAt_ofString, hentry]
  rfl

section Documents

variable {keywords : List String} {front rest : String}

/-- Where a region closes behind `front`, all places of it have the scope. -/
theorem Closes.covers
    (h : Closes (lowered keywords) (.inside .code) front.toList rest.toList scope) :
    Covers keywords front rest scope := by
  intro p c hchar hlt
  have hsome := isSome_entry (lowered keywords) (.inside .code) (front ++ rest) p
  rw [hchar, Option.isSome_some] at hsome
  obtain ⟨s, hs⟩ := Option.isSome_iff_exists.1 hsome
  have hentry : s = some scope := by
    obtain ⟨done, row, first, more, hread, -, hplace, hscope⟩ := h
    rw [String.toList_append, hread] at hs
    rw [hplace, Position.lt_def] at hlt
    rcases hlt with hrow | ⟨hrow, hcolumn⟩
    · rw [List.getElem?_append_left hrow, List.getElem?_eq_getElem hrow, Option.bind_some] at hs
      exact hscope _ (List.mem_cons_of_mem row (List.getElem_mem hrow)) s
        (List.mem_of_getElem? hs)
    · rw [hrow, List.getElem?_append_right (Nat.le_refl _), Nat.sub_self, List.getElem?_cons_zero,
        Option.bind_some, List.getElem?_append_left hcolumn] at hs
      exact hscope row List.mem_cons_self s (List.mem_of_getElem? hs)
  rw [pathAt_ofString, hs, hentry]
  rfl

theorem Closes.restarts
    (h : Closes (lowered keywords) (.inside .code) front.toList rest.toList scope) :
    Restarts keywords front rest := by
  intro p
  obtain ⟨done, row, first, more, hread, hrest, hplace, -⟩ := h
  have hentry : ((done ++ (row ++ first) :: more)[done.length + p.row]?.bind
        (·[if p.row = 0 then row.length + p.column else p.column]?)) =
      ((first :: more)[p.row]?.bind (·[p.column]?)) := by
    rw [List.getElem?_append_right (Nat.le_add_right _ _), Nat.add_sub_cancel_left]
    cases p.row with
    | zero =>
      rw [if_pos rfl, List.getElem?_cons_zero, List.getElem?_cons_zero, Option.bind_some,
        Option.bind_some, List.getElem?_append_right (Nat.le_add_right _ _),
        Nat.add_sub_cancel_left]
    | succ row => rfl
  rw [pathAt_ofString, pathAt_ofString, String.toList_append, hread, hrest, hplace, ← hentry]
  rfl

end Documents

/-- Regions end at their closers and the classifier then starts afresh.  For every body without its
closer, all characters of a block comment, of inline code and of a line comment, the marks at both
ends included, have the scope of the region, and every place of the text behind it has the scope
that it has there alone.  A line comment takes up the first row.  Line ends and places outside the
text have the root scope only. -/
theorem regions_end_at_their_closers (keywords : List String) (body rest : String) :
    (¬ ['*', '/'] <:+: body.toList →
      Covers keywords ("/*" ++ body ++ "*/") rest .blockComment ∧
        Restarts keywords ("/*" ++ body ++ "*/") rest) ∧
    ('\x60' ∉ body.toList →
      Covers keywords ("\x60" ++ body ++ "\x60") rest .inlineCode ∧
        Restarts keywords ("\x60" ++ body ++ "\x60") rest) ∧
    ('\n' ∉ body.toList →
      Covers keywords ("//" ++ body ++ "\n") rest .lineComment ∧
        Restarts keywords ("//" ++ body ++ "\n") rest ∧
        Position.origin.after ("//" ++ body ++ "\n").toList = ⟨1, 0⟩) ∧
    ∀ (text : String) (p : Position), (Document.ofString text).charAt? p = none →
      (classifier keywords (.ofString text)).pathAt p = [Scope.root] := by
  have hfront : ∀ opener closer : String, (opener ++ body ++ closer).toList =
      opener.toList ++ (body.toList ++ closer.toList) := by
    intro opener closer
    rw [String.toList_append, String.toList_append, List.append_assoc]
  refine ⟨fun h => ?_, fun h => ?_, fun h => ?_, fun text p => pathAt_of_charAt?_eq_none keywords⟩
  · have hcloses : Closes (lowered keywords) (.inside .code)
        ("/*" ++ body ++ "*/").toList rest.toList .blockComment := by
      rw [hfront]
      exact closes_blockComment h
    exact ⟨hcloses.covers, hcloses.restarts⟩
  · have hcloses : Closes (lowered keywords) (.inside .code)
        ("\x60" ++ body ++ "\x60").toList rest.toList .inlineCode := by
      rw [hfront]
      exact closes_inlineCode h
    exact ⟨hcloses.covers, hcloses.restarts⟩
  · have hcloses : Closes (lowered keywords) (.inside .code)
        ("//" ++ body ++ "\n").toList rest.toList .lineComment := by
      rw [hfront]
      exact closes_lineComment h
    have hline : '\n' ∉ "//".toList ++ body.toList := by
      rw [List.mem_append]
      exact not_or.2 ⟨by decide, h⟩
    refine ⟨hcloses.covers, hcloses.restarts, ?_⟩
    rw [hfront, ← List.append_assoc, Position.after_append, Position.after_line _ hline]
    rfl

/-- A body that starts with a slash, has a star at a line end with a slash on the next row, and
opens a line comment and inline code; the text behind it starts with a slash again. -/
theorem regions_end_at_their_closers_slashes :
    ¬ ['*', '/'] <:+: "/ *\r\n/ \x60 //".toList ∧
    Covers ["eoi"] ("/*" ++ "/ *\r\n/ \x60 //" ++ "*/") "/EOI" .blockComment ∧
    (classifier ["eoi"] (.ofString ("/*" ++ "/ *\r\n/ \x60 //" ++ "*/" ++ "/EOI"))).pathAt ⟨1, 9⟩ =
      [Scope.root, Inner.name .constant] ∧
    '\x60' ∉ "*/\n//".toList ∧ Covers [] ("\x60" ++ "*/\n//" ++ "\x60") "\x60" .inlineCode ∧
    '\n' ∉ "/*\x60\r".toList ∧ Covers [] ("//" ++ "/*\x60\r" ++ "\n") "*/" .lineComment ∧
    Restarts [] ("//" ++ "/*\x60\r" ++ "\n") "*/" := by
  obtain ⟨hblock, -⟩ := regions_end_at_their_closers ["eoi"] "/ *\r\n/ \x60 //" "/EOI"
  obtain ⟨-, hinline, -⟩ := regions_end_at_their_closers [] "*/\n//" "\x60"
  obtain ⟨-, -, hline, -⟩ := regions_end_at_their_closers [] "/*\x60\r" "*/"
  have hbody : ¬ ['*', '/'] <:+: "/ *\r\n/ \x60 //".toList := by decide +kernel
  have hbody' : '\x60' ∉ "*/\n//".toList := by decide
  have hbody'' : '\n' ∉ "/*\x60\r".toList := by decide
  have hkeyword : (classifier ["eoi"] (.ofString "/EOI")).pathAt ⟨0, 1⟩ =
      [Scope.root, Inner.name .constant] := by
    decide +kernel
  have hplace : (Position.origin.after ("/*" ++ "/ *\r\n/ \x60 //" ++ "*/").toList).behind ⟨0, 1⟩ =
      ⟨1, 9⟩ := by
    decide +kernel
  have hbehind := ((hblock hbody).2 ⟨0, 1⟩).trans hkeyword
  rw [hplace] at hbehind
  exact ⟨hbody, (hblock hbody).1, hbehind, hbody',
    (hinline hbody').1, hbody'', (hline hbody'').1, (hline hbody'').2.1⟩

end Lexical

end ScopeLint
