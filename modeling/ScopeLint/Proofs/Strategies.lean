import ScopeLint.Proofs.Balance

/-!
# What the strategies leave, and where they agree

An opening that is reported has waited since it was read.  So it waited while every closing behind
it was read, and one of these that is reported could not take it: otherwise the closing would have
taken that opening or a later one.

The strategies differ in which of the waiting openings a closing takes.  Where it may take all of
them, it takes the last one under either strategy, and both scans go through the same states.
-/

namespace ScopeLint

/-- A text of one line has no line feed. -/
theorem Document.no_feed_of_lineCount {d : Document} (h : d.lineCount = 1) :
    '\n' ∉ d.chars.toList := by
  have hlines : (Text.splitAt '\n' d.chars.toList).length = 1 := by
    rw [← h, lineCount, d.lines_eq, linesOf]
    simp
  obtain ⟨line, hline, hrest | ⟨rest, hrest⟩⟩ := Text.exists_line '\n' d.chars.toList
  · rwa [hrest]
  · have hmore := List.length_pos_iff.2 (Text.splitAt_ne_nil '\n' rest)
    rw [hrest, Text.splitAt_line_sep hline, List.length_cons] at hlines
    omega

namespace Brackets

/-- The openings or the closings without a partner. -/
def Unpaired.side (u : Unpaired) : Bool → List Position
  | true => u.openings
  | false => u.closings

section Word

variable {strategy : BracketStrategy} {word : List Match}

theorem exists_of_mem_side (hword : word.Pairwise Precedes) {side : Bool} {p : Position}
    (hp : p ∈ (unpaired strategy (word.map toBracket)).side side) :
    ∃ m ∈ word, opens m = side ∧ m.span.start = p := by
  obtain ⟨q, hq⟩ := exists_represents strategy hword
  have hmem : ∀ m ∈ q.openers ++ q.closers, m ∈ word := fun m hm =>
    hq.accounts.perm.subset (List.mem_append_left _ hm)
  cases side with
  | true =>
    have hp' := List.mem_reverse.2 hp
    unfold Unpaired.side at hp'
    rw [hq.openings_eq] at hp'
    obtain ⟨o, ho, hstart⟩ := List.mem_map.1 hp'
    exact ⟨o, hmem o (List.mem_append_left _ ho), hq.accounts.openers_open o ho, hstart⟩
  | false =>
    have hp' := List.mem_reverse.2 hp
    unfold Unpaired.side at hp'
    rw [hq.closings_eq] at hp'
    obtain ⟨c, hc, hstart⟩ := List.mem_map.1 hp'
    exact ⟨c, hmem c (List.mem_append_right _ hc), hq.accounts.closers_close c hc, hstart⟩

/-- A bracket without a partner is counted on its own side. -/
theorem mem_side (hword : word.Pairwise Precedes) {m : Match} (hm : m ∈ word)
    (hp : m.span.start ∈ (unpaired strategy (word.map toBracket)).positions) :
    m.span.start ∈ (unpaired strategy (word.map toBracket)).side (opens m) := by
  obtain ⟨side, hside⟩ : ∃ side,
      m.span.start ∈ (unpaired strategy (word.map toBracket)).side side := by
    rcases List.mem_append.1 hp with hp | hp
    · exact ⟨true, List.mem_reverse.1 hp⟩
    · exact ⟨false, List.mem_reverse.1 hp⟩
  obtain ⟨n, hn, hopens, hstart⟩ := exists_of_mem_side hword hside
  have hsame : n = m := List.inj_on_of_nodup_map (start_injOn hword) hn hm hstart
  rwa [← hsame, hopens, hsame]

/-! ## What is left -/

/-- No closing was given up behind a waiting opening that it may take. -/
def Unpaired.IsSettled (strategy : BracketStrategy) (u : Unpaired) : Prop :=
  ∀ o ∈ u.openings, ∀ c ∈ u.closings, o < c → mayPair strategy o c = false

/-- One more bracket leaves nothing unsettled: a new opening stands behind all closings so far. -/
theorem Unpaired.IsSettled.step {u : Unpaired} {b : Bracket} (h : u.IsSettled strategy)
    (hlater : ∀ c ∈ u.closings, c < b.position) : (u.step strategy b).IsSettled strategy := by
  unfold Unpaired.step
  split
  · intro o ho c hc hlt
    rcases List.mem_cons.1 ho with rfl | ho
    · exact absurd (Position.lt_trans hlt (hlater c hc)) (Position.lt_irrefl _)
    · exact h o ho c hc hlt
  · split
    case isTrue =>
      intro o ho c hc hlt
      exact h o (List.mem_of_mem_eraseP ho) c hc hlt
    case isFalse hnone =>
      intro o ho c hc hlt
      rcases List.mem_cons.1 hc with rfl | hc
      · rw [Bool.not_eq_true, List.any_eq_false] at hnone
        exact Bool.not_eq_true _ ▸ hnone o ho
      · exact h o ho c hc hlt

theorem isSettled_unpaired (hword : word.Pairwise Precedes) :
    (unpaired strategy (word.map toBracket)).IsSettled strategy := by
  induction word using List.reverseRecOn with
  | nil =>
    intro o ho
    cases ho
  | append_singleton word m ih =>
    obtain ⟨hfront, -, hlater⟩ := List.pairwise_append.1 hword
    rw [List.map_append, List.map_singleton, unpaired_snoc]
    apply (ih hfront).step
    intro c (hc : c ∈ (unpaired strategy (word.map toBracket)).side false)
    obtain ⟨n, hn, -, rfl⟩ := exists_of_mem_side hfront hc
    exact hlater n hn m (List.mem_singleton_self m)

end Word

section Pair

variable {ctx : Context} {severity : Severity} {pair : Pattern} {block : Findings}

/-- A bracket that is reported is counted on its side at the end of the scan. -/
theorem mem_side_of_lonely (h : pairFindings ctx severity pair = .ok block) {m : Match}
    (hm : m ∈ wordOf ctx pair) (hlonely : lonely severity m ∈ block.diagnostics) :
    m.span.start ∈
      (unpaired ctx.table.strategy ((wordOf ctx pair).map toBracket)).side (opens m) := by
  have h' : pairFindings (ctx.withStrategy ctx.table.strategy) severity pair = .ok block := h
  have hstart : m.span.start ∈ starts block := List.mem_map.2 ⟨_, hlonely, rfl⟩
  rw [starts_of_ok h'] at hstart
  exact mem_side (wordOf_pairwise ctx pair) hm hstart

/-- Where an opening and a later closing are both reported, the strategy does not let the closing
take the opening. -/
theorem mayPair_of_lonely (h : pairFindings ctx severity pair = .ok block) {o c : Match}
    (ho : o ∈ wordOf ctx pair) (hc : c ∈ wordOf ctx pair) (hopens : opens o = true)
    (hcloses : opens c = false) (hlonely : lonely severity o ∈ block.diagnostics)
    (hlonely' : lonely severity c ∈ block.diagnostics) (hlt : Precedes o c) :
    mayPair ctx.table.strategy o.span.start c.span.start = false := by
  have hwaits := mem_side_of_lonely h ho hlonely
  have hgiven := mem_side_of_lonely h hc hlonely'
  rw [hopens] at hwaits
  rw [hcloses] at hgiven
  exact isSettled_unpaired (wordOf_pairwise ctx pair) _ hwaits _ hgiven hlt

end Pair

/-- What is reported for a pair are brackets of that pair in code.  Of these no opening could still
be taken by a closing behind it: under the heuristic strategy the two share neither row nor column,
and under the strict one no opening that is reported stands before a closing that is. -/
theorem no_partners_left (ctx : Context) (severity : Severity) (found : Findings)
    (h : findings ctx severity = .ok found) :
    ∃ blocks : List Findings, found = .concat blocks ∧ List.Forall₂ (fun pair block =>
      pairFindings ctx severity pair = .ok block ∧
      (∀ x ∈ block.diagnostics, ∃ m ∈ wordOf ctx pair, x = lonely severity m) ∧
      ∀ o ∈ wordOf ctx pair, ∀ c ∈ wordOf ctx pair, opens o = true → opens c = false →
        lonely severity o ∈ block.diagnostics → lonely severity c ∈ block.diagnostics →
        Precedes o c →
          (ctx.table.strategy = .heuristic → o.span.start.row ≠ c.span.start.row ∧
            o.span.start.column ≠ c.span.start.column) ∧
          ctx.table.strategy ≠ .strict)
      ctx.table.brackets blocks := by
  obtain ⟨blocks, hblocks, h⟩ := bind_eq_ok.1 h
  refine ⟨blocks, (Except.ok.inj h).symm, (mapM_eq_ok_iff.1 hblocks).imp ?_⟩
  intro pair block hpair
  refine ⟨hpair, ?_, ?_⟩
  · intro x hx
    obtain ⟨q, hq, hblock⟩ := exists_accounts ctx severity pair
    rw [pairFindings_of_ok hpair, hblock] at hx
    obtain ⟨m, hm, rfl⟩ := List.mem_map.1 hx
    exact ⟨m, hq.perm.subset (List.mem_append_left _ hm), rfl⟩
  · intro o ho c hc hopens hcloses hlonely hlonely' hlt
    have hmay := mayPair_of_lonely hpair ho hc hopens hcloses hlonely hlonely' hlt
    constructor
    · intro hstrategy
      rw [hstrategy] at hmay
      simpa [mayPair, and_comm] using hmay
    · intro hstrategy
      rw [hstrategy] at hmay
      cases hmay

/-- An opening bracket, and a closing one to the left of it on the next row. -/
def slanted : Context := ⟨.ofString "foo(\n)", ⟨fun _ => [Scope.root]⟩, BuiltIn.table⟩

def slantedOpening : Match := ⟨Span.charAt ⟨0, 3⟩, 3, 4, "(", ["open"]⟩

def slantedClosing : Match := ⟨Span.charAt ⟨1, 0⟩, 5, 6, ")", ["close"]⟩

/-- Both are reported, and they share neither row nor column. -/
theorem no_partners_left_slanted :
    ∃ found block, findings slanted .error = .ok found ∧
      pairFindings slanted .error roundPair = .ok block ∧
      block.diagnostics = [lonely .error slantedOpening, lonely .error slantedClosing] ∧
      slantedOpening ∈ wordOf slanted roundPair ∧ slantedClosing ∈ wordOf slanted roundPair ∧
      Precedes slantedOpening slantedClosing ∧
      slantedOpening.span.start.row ≠ slantedClosing.span.start.row ∧
      slantedOpening.span.start.column ≠ slantedClosing.span.start.column := by
  have hfound : findings slanted .error =
      .ok ⟨2, [lonely .error slantedOpening, lonely .error slantedClosing]⟩ := by
    decide +kernel
  have hpair : pairFindings slanted .error roundPair =
      .ok ⟨2, [lonely .error slantedOpening, lonely .error slantedClosing]⟩ := by
    decide +kernel
  have ho : slantedOpening ∈ wordOf slanted roundPair := by decide +kernel
  have hc : slantedClosing ∈ wordOf slanted roundPair := by decide +kernel
  have hlt : Precedes slantedOpening slantedClosing := .inl (by decide)
  obtain ⟨blocks, -, hblocks⟩ := no_partners_left _ _ _ hfound
  obtain ⟨block, rest, ⟨hblock, -, hleft⟩, -, -⟩ := List.forall₂_cons_left_iff.1 hblocks
  obtain rfl := Except.ok.inj (hpair.symm.trans hblock)
  exact ⟨_, _, hfound, hpair, rfl, ho, hc, hlt, (hleft _ ho _ hc rfl rfl List.mem_cons_self
    (List.mem_cons_of_mem _ List.mem_cons_self) hlt).1 rfl⟩

/-! ## Where the strategies agree -/

/-- Every opening is on the row or in the column of every closing behind it. -/
def IsAligned (word : List Match) : Prop :=
  ∀ o ∈ word, ∀ c ∈ word, opens o = true → opens c = false → Precedes o c →
    o.span.start.row = c.span.start.row ∨ o.span.start.column = c.span.start.column

instance (word : List Match) : Decidable (IsAligned word) :=
  inferInstanceAs (Decidable (∀ o ∈ word, ∀ c ∈ word, opens o = true → opens c = false →
    o.span.start < c.span.start →
      o.span.start.row = c.span.start.row ∨ o.span.start.column = c.span.start.column))

theorem step_take {strategy : BracketStrategy} {o : Position} {openings closings : List Position}
    {b : Bracket} (hcloses : b.isOpening = false) (hmay : mayPair strategy o b.position = true) :
    Unpaired.step strategy ⟨o :: openings, closings⟩ b = ⟨openings, closings⟩ := by
  unfold Unpaired.step
  rw [if_neg (by simp [hcloses]), if_pos (by simp [hmay])]
  exact congrArg (Unpaired.mk · closings)
    (List.eraseP_cons_of_pos (p := (mayPair strategy · b.position)) hmay)

/-- A closing that may take all openings that wait takes the last one, if any. -/
theorem step_eq_of_mayPair {u : Unpaired} {b : Bracket}
    (h : b.isOpening = false → ∀ o ∈ u.openings, mayPair .heuristic o b.position = true) :
    u.step .heuristic b = u.step .strict b := by
  obtain ⟨openings, closings⟩ := u
  cases hside : b.isOpening with
  | true =>
    unfold Unpaired.step
    rw [if_pos hside, if_pos hside]
  | false =>
    cases openings with
    | nil => rfl
    | cons o openings => rw [step_take hside (h hside o List.mem_cons_self), step_take hside rfl]

/-- In an aligned word every closing may take any opening before it, so both strategies take the
same. -/
theorem unpaired_eq_of_isAligned {word : List Match} (hword : word.Pairwise Precedes)
    (h : IsAligned word) :
    unpaired .heuristic (word.map toBracket) = unpaired .strict (word.map toBracket) := by
  induction word using List.reverseRecOn with
  | nil => rfl
  | append_singleton word m ih =>
    obtain ⟨hfront, -, hlater⟩ := List.pairwise_append.1 hword
    have hsame := ih hfront fun o ho c hc =>
      h o (List.mem_append_left _ ho) c (List.mem_append_left _ hc)
    rw [List.map_append, List.map_singleton, unpaired_snoc, unpaired_snoc, hsame]
    apply step_eq_of_mayPair
    intro hcloses p (hp : p ∈ (unpaired .strict (word.map toBracket)).side true)
    obtain ⟨o, ho, hopens, rfl⟩ := exists_of_mem_side hfront hp
    have hshare := h o (List.mem_append_left _ ho) m
      (List.mem_append_right _ (List.mem_singleton_self m)) hopens hcloses
      (hlater o ho m (List.mem_singleton_self m))
    simpa [mayPair, toBracket, or_comm] using hshare

theorem pairFindings_withStrategy (ctx : Context) (strategy : BracketStrategy) (severity : Severity)
    (pair : Pattern) :
    pairFindings (ctx.withStrategy strategy) severity pair = (do
      let brackets ← (pair.scan ctx.document).mapM (bracket? ctx)
      let diagnostics ← (unpaired strategy (brackets.filterMap (fun b => b))).positions.mapM
        (fun p => ctx.report .brackets severity message (Span.charAt p))
      return ⟨(pair.scan ctx.document).length, diagnostics⟩) := rfl

/-- What is found depends on the strategy through the brackets without a partner only. -/
theorem pairFindings_congr {ctx : Context} {pair : Pattern} {strategy strategy' : BracketStrategy}
    (h : unpaired strategy ((wordOf ctx pair).map toBracket) =
      unpaired strategy' ((wordOf ctx pair).map toBracket)) (severity : Severity) :
    pairFindings (ctx.withStrategy strategy) severity pair =
      pairFindings (ctx.withStrategy strategy') severity pair := by
  rw [pairFindings_withStrategy, pairFindings_withStrategy]
  cases hbrackets : (pair.scan ctx.document).mapM (bracket? ctx) with
  | error e => rfl
  | ok brackets =>
    have hword : brackets.filterMap (fun b => b) = (wordOf ctx pair).map toBracket := by
      rw [eq_map_of_mapM hbrackets (fun m _ b hb => bracket?_of_ok hb), List.filterMap_map]
      exact filterMap_codeBracket? ctx _
    simp only [bind, Except.bind, hword, h]

/-- On a single row all brackets share it. -/
theorem isAligned_of_lineCount {ctx : Context} (h : ctx.document.lineCount = 1) (pair : Pattern) :
    IsAligned (wordOf ctx pair) := by
  have hrow : ∀ m ∈ wordOf ctx pair, m.span.start.row = 0 := by
    intro m hm
    obtain ⟨before, inside, behind, hcut, -, -, hspan, -⟩ :=
      Pattern.exists_stretch (List.mem_of_mem_filter hm)
    have hfeed : '\n' ∉ before := by
      intro hmem
      apply Document.no_feed_of_lineCount h
      rw [hcut]
      exact List.mem_append_left _ (List.mem_append_left _ hmem)
    rw [hspan, Position.after_line _ hfeed]
    rfl
  intro o ho c hc _ _ _
  left
  rw [hrow o ho, hrow c hc]

/-- Where every opening of a pair in code is on the row or in the column of every closing behind it,
both strategies give the same answer for the pair, be it findings or a failure.  In a text of one
line they do for every pair, and so for the table as a whole. -/
theorem strategies_agree (ctx : Context) (severity : Severity) :
    (∀ pair, IsAligned (wordOf ctx pair) →
      pairFindings (ctx.withStrategy .heuristic) severity pair =
        pairFindings (ctx.withStrategy .strict) severity pair) ∧
    (ctx.document.lineCount = 1 →
      (∀ pair, IsAligned (wordOf ctx pair) ∧
        pairFindings (ctx.withStrategy .heuristic) severity pair =
          pairFindings (ctx.withStrategy .strict) severity pair) ∧
      findings (ctx.withStrategy .heuristic) severity =
        findings (ctx.withStrategy .strict) severity) := by
  have hpair : ∀ pair, IsAligned (wordOf ctx pair) →
      pairFindings (ctx.withStrategy .heuristic) severity pair =
        pairFindings (ctx.withStrategy .strict) severity pair := fun pair h =>
    pairFindings_congr (unpaired_eq_of_isAligned (wordOf_pairwise ctx pair) h) severity
  refine ⟨hpair, fun h => ?_⟩
  have hrow : ∀ pair, IsAligned (wordOf ctx pair) := isAligned_of_lineCount h
  have hpairs : pairFindings (ctx.withStrategy .heuristic) severity =
      pairFindings (ctx.withStrategy .strict) severity := funext fun pair => hpair pair (hrow pair)
  refine ⟨fun pair => ⟨hrow pair, hpair pair (hrow pair)⟩, ?_⟩
  unfold findings
  rw [hpairs]
  rfl

/-- A closing bracket, and behind it an opening one with a closing one below. -/
def plumb : Context := ⟨.ofString ")(\n )", ⟨fun _ => [Scope.root]⟩, BuiltIn.table⟩

/-- Either strategy reports the first closing of one text and the first opening of another. -/
theorem strategies_agree_plumb :
    IsAligned (wordOf plumb roundPair) ∧
    pairFindings (plumb.withStrategy .heuristic) .error roundPair =
      pairFindings (plumb.withStrategy .strict) .error roundPair ∧
    pairFindings (plumb.withStrategy .strict) .error roundPair =
      .ok ⟨3, [.ofMessage "bracket-match" .error message (Span.charAt ⟨0, 0⟩)]⟩ ∧
    ∃ flat : Context, flat.document = .ofString "(()" ∧ flat.document.lineCount = 1 ∧
      findings (flat.withStrategy .heuristic) .error =
        findings (flat.withStrategy .strict) .error ∧
      findings (flat.withStrategy .strict) .error =
        .ok ⟨3, [.ofMessage "bracket-match" .error message (Span.charAt ⟨0, 0⟩)]⟩ := by
  have haligned : IsAligned (wordOf plumb roundPair) := by decide +kernel
  refine ⟨haligned, (strategies_agree plumb .error).1 roundPair haligned, by decide +kernel,
    { plumb with document := .ofString "(()" }, rfl, rfl, ?_, by decide +kernel⟩
  exact ((strategies_agree { plumb with document := .ofString "(()" } .error).2 rfl).2

end Brackets

end ScopeLint
