import ScopeLint.Proofs.BuiltIn

/-!
# Reading the pattern of a keyword

A keyword is escaped, put in a group between two word edges and read as a pattern without regard to
case.  Whatever characters it holds, each of them is read as a literal, one after the other.  So the
pattern can be read, and it is the sequence of the keyword's characters.
-/

namespace ScopeLint.Pattern

/-! ## Reading an escaped text -/

theorem Flags.skip_eq {f : Flags} (h : f.spaced = false) (cs : List Char) : f.skip cs = cs := by
  rw [skip, h]
  rfl

theorem ne_of_isMeta {c x : Char} (hc : isMeta c = false) (hx : isMeta x = true) : c ≠ x := by
  rintro rfl
  rw [hc] at hx
  cases hx

variable {p : Progress}

theorem readItem_plain {c : Char} (hc : isMeta c = false) (rest : List Char) :
    readItem p c rest = some (p.pushPrimitive (.literal c), rest) := by
  unfold readItem
  split
  all_goals first | rfl | exact absurd rfl (ne_of_isMeta hc (by decide))

theorem readEscape_meta {c : Char} (hc : isMeta c = true) (f : Flags) (rest : List Char) :
    readEscape f (c :: rest) = some (.literal c, rest) := by
  unfold readEscape
  exact if_pos (by rw [hc, Bool.true_or])

theorem readBody_item (hp : p.flags.spaced = false) {c : Char}
    (hc : c ≠ ')' ∧ c ≠ '|' ∧ c ≠ '(') {rest rest' : List Char} {p' : Progress}
    (hitem : readItem p c rest = some (p', rest')) (fuel : Nat) :
    readBody (fuel + 1) p (c :: rest) = readBody fuel p' rest' := by
  rw [readBody, Flags.skip_eq hp]
  split
  case h_1 h => cases h
  case h_2 h => exact absurd (List.cons.inj h).1 hc.1
  case h_3 h => exact absurd (List.cons.inj h).1 hc.2.1
  case h_4 h => exact absurd (List.cons.inj h).1 hc.2.2
  case h_5 h =>
    obtain ⟨rfl, rfl⟩ := List.cons.inj h
    rw [hitem]

/-- The progress after literal characters. -/
def Progress.pushLiterals (p : Progress) (cs : List Char) : Progress :=
  cs.foldl (fun p c => p.pushPrimitive (.literal c)) p

theorem Progress.pushPrimitive_flags (p : Progress) (a : Primitive) :
    (p.pushPrimitive a).flags = p.flags := by
  cases a <;> rfl

/-- An escaped text is read character by character, each for itself. -/
theorem readBody_escaped (hp : p.flags.spaced = false) (fuel : Nat) (cs rest : List Char) :
    readBody (cs.length + fuel) p (escapeChars cs ++ rest) =
      readBody fuel (p.pushLiterals cs) rest := by
  induction cs generalizing p with
  | nil => rw [List.length_nil, Nat.zero_add]; rfl
  | cons c cs ih =>
    have hnext := ih (p := p.pushPrimitive (.literal c)) (by rw [Progress.pushPrimitive_flags, hp])
    have hstep : readBody (cs.length + fuel + 1) p (escapeChars (c :: cs) ++ rest) =
        readBody (cs.length + fuel) (p.pushPrimitive (.literal c)) (escapeChars cs ++ rest) := by
      rw [escapeChars]
      split
      case isTrue hc =>
        apply readBody_item hp (by decide)
        show (readEscape p.flags (c :: (escapeChars cs ++ rest))).map _ = _
        rw [readEscape_meta hc]
        rfl
      case isFalse hc =>
        have hplain : isMeta c = false := by simpa using hc
        exact readBody_item hp ⟨ne_of_isMeta hplain (by decide), ne_of_isMeta hplain (by decide),
          ne_of_isMeta hplain (by decide)⟩ (readItem_plain hplain _) _
    rw [List.length_cons, Nat.add_right_comm, hstep, hnext]
    rfl

theorem head?_escapeChars (cs rest : List Char) (hrest : rest.head? ≠ some '?') :
    (escapeChars cs ++ rest).head? ≠ some '?' := by
  cases cs with
  | nil => exact hrest
  | cons c cs =>
    rw [escapeChars]
    split
    · simp
    case isFalse hc =>
      intro h
      obtain rfl := Option.some.inj h
      exact hc (by decide)

theorem readGroupStart_plain {f : Flags} (hf : f.spaced = false) (names : List String)
    {cs : List Char} (h : cs.head? ≠ some '?') :
    readGroupStart f names cs = some (.capture none, cs) := by
  rw [readGroupStart, Flags.skip_eq hf]
  split
  all_goals first | rfl | exact absurd rfl h

namespace Progress

theorem current_push (p : Progress) (a : Item) : (p.push a).current = p.current.push a := rfl

theorem pushLiterals_current (cs : List Char) :
    (p.pushLiterals cs).current =
      ⟨(cs.map (fun c => Node.char (.letter p.flags.caseRule c))).reverse ++ p.current.nodes,
        p.current.parts + cs.length, p.current.height⟩ ∧
    (p.pushLiterals cs).flags = p.flags ∧ (p.pushLiterals cs).names = p.names ∧
    (p.pushLiterals cs).branches = p.branches := by
  induction cs generalizing p with
  | nil => exact ⟨rfl, rfl, rfl, rfl⟩
  | cons c cs ih =>
    obtain ⟨hcurrent, hflags, hnames, hbranches⟩ := ih (p := p.pushPrimitive (.literal c))
    refine ⟨?_, hflags, hnames, hbranches⟩
    show ((p.pushPrimitive (.literal c)).pushLiterals cs).current = _
    rw [hcurrent]
    simp only [pushPrimitive, current_push, Branch.push, List.map_cons, List.reverse_cons,
      List.append_assoc, List.singleton_append, List.length_cons, Nat.max_zero]
    congr 1
    omega

end Progress

theorem readBody_close (hp : p.flags.spaced = false) (fuel : Nat) (rest : List Char) :
    readBody (fuel + 1) p (')' :: rest) = some (p, ')' :: rest) := by
  rw [readBody, Flags.skip_eq hp]
  rfl

/-- A plain group is one part, made of what is read between its brackets. -/
theorem readBody_group (hp : p.flags.spaced = false) {fuel : Nat} {cs rest : List Char}
    {inner : Progress} (hstart : cs.head? ≠ some '?')
    (hinner : readBody fuel { flags := p.flags, names := p.names } cs =
      some (inner, ')' :: rest)) :
    readBody (fuel + 1) p ('(' :: cs) =
      readBody fuel { p.push ⟨.group none inner.whole.node, inner.whole.height + 1⟩ with
        names := inner.names } rest := by
  rw [readBody, Flags.skip_eq hp]
  simp only
  rw [readGroupStart_plain hp p.names hstart]
  simp only [Option.toList_none, List.nil_append]
  rw [hinner]
  rfl

theorem readItem_boundary {rest : List Char} (h : rest.head? ≠ some '\x7b') :
    readItem p '\\' ('b' :: rest) =
      some (p.push ⟨.assertion (.word .boundary !p.flags.allScripts), 0⟩, rest) := by
  have hboundary : readEscape p.flags ('b' :: rest) = readBoundary p.flags rest := rfl
  have hread : readBoundary p.flags rest = some (p.flags.edge .boundary, rest) := by
    unfold readBoundary
    split
    · exact absurd rfl h
    · rfl
  show (readEscape p.flags ('b' :: rest)).map _ = _
  rw [hboundary, hread]
  rfl

theorem readBody_end (hp : p.flags.spaced = false) (fuel : Nat) :
    readBody (fuel + 1) p [] = some (p, []) := by
  rw [readBody, Flags.skip_eq hp]

theorem Progress.whole_eq (h : p.branches = []) : p.whole = p.current.whole := by
  unfold whole
  rw [h]

theorem Branch.height_whole_le (b : Branch) : b.whole.height ≤ b.height + 1 := by
  unfold whole
  simp only
  split
  · exact Nat.le_succ _
  · exact Nat.le_refl _

/-- Read up to a closing bracket, an escaped text is the sequence of its characters. -/
theorem readBody_letters {flags : Flags} (hf : flags.spaced = false) (names : List String)
    (fuel : Nat) (cs rest : List Char) :
    ∃ p, readBody (cs.length + (fuel + 1)) { flags, names } (escapeChars cs ++ ')' :: rest) =
        some (p, ')' :: rest) ∧
      p.names = names ∧
      p.whole.node = .sequence (cs.map (fun c => Node.char (.letter flags.caseRule c))) ∧
      p.whole.height ≤ 1 := by
  obtain ⟨hcurrent, hflags, hnames, hbranches⟩ :=
    Progress.pushLiterals_current (p := { flags, names }) cs
  refine ⟨_, ?_, hnames, ?_, ?_⟩
  · rw [readBody_escaped hf, readBody_close (by rw [hflags]; exact hf)]
  · rw [Progress.whole_eq hbranches, hcurrent, Branch.whole]
    simp only [Progress.current, List.append_nil, List.reverse_reverse]
  · rw [Progress.whole_eq hbranches, hcurrent]
    exact Branch.height_whole_le _

theorem length_le_escapeChars (cs : List Char) : cs.length ≤ (escapeChars cs).length := by
  induction cs with
  | nil => exact Nat.le_refl 0
  | cons c cs ih =>
    unfold escapeChars
    split <;> simp only [List.length_cons] <;> omega

open BuiltIn (keywordNode)

/-- The pattern of a keyword is read as the sequence of its characters between word edges. -/
theorem read?_keyword (cs : List Char) :
    Node.read? true ('\\' :: 'b' :: '(' :: (escapeChars cs ++ [')', '\\', 'b'])) =
      some (keywordNode cs) := by
  obtain ⟨extra, hextra⟩ := Nat.exists_eq_add_of_le (length_le_escapeChars cs)
  have hlength : ('\\' :: 'b' :: '(' :: (escapeChars cs ++ [')', '\\', 'b'])).length + 1 =
      cs.length + (extra + 4 + 1) + 1 + 1 := by
    simp only [List.length_cons, List.length_append, List.length_nil]
    omega
  obtain ⟨inner, hinner, hnames, hnode, hheight⟩ :=
    @readBody_letters { ignoreCase := true } rfl [] (extra + 4) cs ['\\', 'b']
  have hfuel : cs.length + (extra + 4 + 1) = cs.length + extra + 3 + 1 + 1 := by omega
  rw [Node.read?, hlength, readBody_item rfl (by decide) (readItem_boundary (by simp)),
    readBody_group rfl (head?_escapeChars _ _ (by decide)) hinner, hfuel,
    readBody_item rfl (by decide) (readItem_boundary (by decide)), readBody_end rfl]
  generalize hq : Progress.push _ _ = q
  have hwhole : q.whole = q.current.whole := Progress.whole_eq (by rw [← hq]; rfl)
  have hnodes : q.current.nodes = [.assertion (.word .boundary false),
      .group none inner.whole.node, .assertion (.word .boundary false)] := by
    rw [← hq]
    rfl
  have hlow : q.current.height ≤ 2 := by
    rw [← hq]
    show max (max (max 0 0) (inner.whole.height + 1)) 0 ≤ 2
    omega
  have hlimit : q.whole.height ≤ heightLimit := by
    have hle := q.current.height_whole_le
    rw [hwhole]
    unfold heightLimit
    omega
  show (if q.whole.height ≤ heightLimit then some q.whole.node else none) = _
  rw [if_pos hlimit, hwhole, Branch.whole, hnodes, hnode]
  rfl

end ScopeLint.Pattern

namespace ScopeLint.RuleTable

open Pattern (Node)
open BuiltIn (keywordNode)

theorem read?_keywordSource (keyword : String) :
    Node.read? true (keywordSource keyword).toList = some (keywordNode keyword.toList) := by
  have hsource : ∀ front back : String, front.toList = ['\\', 'b', '('] →
      back.toList = [')', '\\', 'b'] → (front ++ Pattern.escape keyword ++ back).toList =
        '\\' :: 'b' :: '(' :: (Pattern.escapeChars keyword.toList ++ [')', '\\', 'b']) := by
    intro front back hfront hback
    rw [String.toList_append, String.toList_append, hfront, hback, Pattern.escape,
      String.toList_ofList]
    rfl
  unfold keywordSource
  rw [hsource _ _ (by decide) (by decide)]
  exact Pattern.read?_keyword _

/-- A keyword that is not blank is refused for its weight only. -/
theorem compileKeyword_cases (index : Nat) {keyword : String}
    (h : Text.trimChars keyword.toList ≠ []) :
    compileKeyword index keyword = if (keywordNode keyword.toList).isLight then
        .ok (BuiltIn.keyword keyword)
      else .error (.invalidPattern (.keyword index) (keywordSource keyword)) := by
  have hcompile : Pattern.compile (.keyword index) true (keywordSource keyword) =
      if (keywordNode keyword.toList).isLight then .ok (BuiltIn.keyword keyword).pattern
      else .error (.invalidPattern (.keyword index) (keywordSource keyword)) := by
    rw [Pattern.compile, read?_keywordSource]
    rfl
  rw [compileKeyword, if_neg h, hcompile]
  split <;> rfl

end ScopeLint.RuleTable
