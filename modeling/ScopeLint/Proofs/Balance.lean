import Mathlib.Data.Finset.Card
import Mathlib.Data.List.Nodup
import Mathlib.Order.Bounds.Basic
import ScopeLint.Proofs.Pairing

/-!
# Balance of brackets

A word of brackets is balanced when it has as many closings as openings, and no part at its front
has more.  Without the brackets that are reported a word is balanced, whichever the strategy.  The
strict strategy reports as few as can be: whoever deletes brackets until the word is balanced has to
delete a closing for each closing that it reports, and so an opening for each opening.
-/

namespace ScopeLint

def Context.withStrategy (ctx : Context) (strategy : BracketStrategy) : Context :=
  { ctx with table := { ctx.table with strategy } }

namespace Brackets

def opened (word : List Match) : Nat := word.countP opens

def closed (word : List Match) : Nat := word.countP (fun m => !opens m)

/-- As many closings as openings, and nowhere more closings so far. -/
structure IsBalanced (word : List Match) : Prop where
  total : opened word = closed word
  front : ∀ front, front <+: word → closed front ≤ opened front

/-- The word without the brackets in some positions. -/
def without (word : List Match) (deleted : Finset Position) : List Match :=
  word.filter (fun m => m.span.start ∉ deleted)

/-- The brackets of the word in some positions. -/
def deletedFrom (word : List Match) (deleted : Finset Position) : List Match :=
  word.filter (fun m => m.span.start ∈ deleted)

@[simp] theorem opened_append (front back : List Match) :
    opened (front ++ back) = opened front + opened back := List.countP_append

@[simp] theorem closed_append (front back : List Match) :
    closed (front ++ back) = closed front + closed back := List.countP_append

theorem countP_without (word : List Match) (deleted : Finset Position) (p : Match → Bool) :
    word.countP p = (without word deleted).countP p + (deletedFrom word deleted).countP p := by
  rw [List.countP_eq_countP_filter_add word p (fun m => m.span.start ∉ deleted), without,
    deletedFrom]
  simp

theorem opened_eq (word : List Match) (deleted : Finset Position) :
    opened word = opened (without word deleted) + opened (deletedFrom word deleted) :=
  countP_without word deleted _

theorem closed_eq (word : List Match) (deleted : Finset Position) :
    closed word = closed (without word deleted) + closed (deletedFrom word deleted) :=
  countP_without word deleted _

theorem opened_add_closed (word : List Match) : opened word + closed word = word.length := by
  induction word with
  | nil => rfl
  | cons m word ih =>
    simp only [opened, closed, List.countP_cons, List.length_cons] at ih ⊢
    cases opens m <;> simp <;> omega

theorem start_injOn {word : List Match} (hword : word.Pairwise Precedes) :
    (word.map (·.span.start)).Nodup := by
  rw [List.Nodup, List.pairwise_map]
  refine hword.imp ?_
  intro m n hmn heq
  rw [Precedes, heq] at hmn
  exact Position.lt_irrefl _ hmn

theorem length_deletedFrom_le {word : List Match} (hword : word.Pairwise Precedes)
    (deleted : Finset Position) : (deletedFrom word deleted).length ≤ deleted.card := by
  have hnodup : ((deletedFrom word deleted).map (·.span.start)).Nodup :=
    start_injOn (hword.filter _)
  rw [← List.length_map (·.span.start), ← List.toFinset_card_of_nodup hnodup]
  apply Finset.card_le_card
  intro p hp
  obtain ⟨m, hm, rfl⟩ := List.mem_map.1 (List.mem_toFinset.1 hp)
  simpa using (List.mem_filter.1 hm).2

theorem mem_of_precedes {word front : List Match} (hword : word.Pairwise Precedes)
    (hfront : front <+: word) {o c : Match} (ho : o ∈ word) (hc : c ∈ front)
    (hlt : Precedes o c) : o ∈ front := by
  obtain ⟨rest, rfl⟩ := hfront
  rcases List.mem_append.1 ho with ho | ho
  · exact ho
  · have hgt := (List.pairwise_append.1 hword).2.2 c hc o ho
    exact absurd (Position.lt_trans hlt hgt) (Position.lt_irrefl _)

/-! ## Partners are balanced -/

theorem countP_partners (q : Pairing) (p : Match → Bool) :
    q.partners.countP p = q.pairs.countP (fun r => p r.1) + q.pairs.countP (fun r => p r.2) := by
  rw [Pairing.partners]
  induction q.pairs with
  | nil => rfl
  | cons r pairs ih =>
    simp only [List.flatMap_cons, List.countP_append, List.countP_cons, List.countP_nil, ih]
    omega

namespace Pairing.Accounts

variable {q : Pairing} {strategy : BracketStrategy} {word : List Match}

/-- The positions of the brackets without a partner. -/
theorem nodup_starts (h : q.Accounts strategy word) (hword : word.Pairwise Precedes) :
    ((q.openers ++ q.closers).map (·.span.start)).Nodup := by
  have hall := (h.perm.map (·.span.start)).nodup_iff.2 (start_injOn hword)
  rw [List.map_append] at hall
  exact (List.nodup_append.1 hall).1

/-- What is left without the brackets that have no partner are the partners. -/
theorem mem_without_iff (h : q.Accounts strategy word) (hword : word.Pairwise Precedes)
    {m : Match} :
    m ∈ without word ((q.openers ++ q.closers).map (·.span.start)).toFinset ↔ m ∈ q.partners := by
  have hnodup := List.nodup_append.1 (h.nodup hword)
  have hinj := List.inj_on_of_nodup_map (start_injOn hword)
  rw [without, List.mem_filter]
  simp only [decide_eq_true_eq, List.mem_toFinset]
  constructor
  · rintro ⟨hm, hlone⟩
    rcases List.mem_append.1 (h.perm.mem_iff.2 hm) with hm | hm
    · exact absurd (List.mem_map_of_mem hm) hlone
    · exact hm
  · intro hm
    have hword' : m ∈ word := h.perm.mem_iff.1 (List.mem_append_right _ hm)
    refine ⟨hword', fun hlone => ?_⟩
    obtain ⟨n, hn, hstart⟩ := List.mem_map.1 hlone
    have hnword : n ∈ word := h.perm.mem_iff.1 (List.mem_append_left _ hn)
    exact hnodup.2.2 n hn m hm (hinj hnword hword' hstart)

/-- Of a part at the front of the word, the partners in it are left. -/
theorem without_perm (h : q.Accounts strategy word) (hword : word.Pairwise Precedes)
    {front : List Match} (hfront : front <+: word) :
    (without front ((q.openers ++ q.closers).map (·.span.start)).toFinset).Perm
      (q.partners.filter (· ∈ front)) := by
  have hnodup := (List.nodup_append.1 (h.nodup hword)).2.1
  have hfront' : front.Nodup := (nodup_of_pairwise hword).sublist hfront.sublist
  refine (List.perm_ext_iff_of_nodup (hfront'.filter _) (hnodup.filter _)).2 fun m => ?_
  rw [List.mem_filter, List.mem_filter, ← h.mem_without_iff hword, without, List.mem_filter]
  simp only [decide_eq_true_eq]
  exact ⟨fun hm => ⟨⟨hfront.subset hm.1, hm.2⟩, hm.1⟩, fun hm => ⟨hm.2, hm.1.2⟩⟩

theorem opened_without (h : q.Accounts strategy word) (hword : word.Pairwise Precedes)
    {front : List Match} (hfront : front <+: word) :
    opened (without front ((q.openers ++ q.closers).map (·.span.start)).toFinset) =
      q.pairs.countP (fun r => r.1 ∈ front) := by
  rw [opened, (h.without_perm hword hfront).countP_eq, List.countP_filter, countP_partners]
  have hnone : q.pairs.countP (fun r => opens r.2 && decide (r.2 ∈ front)) = 0 := by
    rw [List.countP_eq_zero]
    intro r hr
    simp [h.pairs_close r hr]
  rw [hnone, Nat.add_zero]
  refine List.countP_congr fun r hr => ?_
  simp [h.pairs_open r hr]

theorem closed_without (h : q.Accounts strategy word) (hword : word.Pairwise Precedes)
    {front : List Match} (hfront : front <+: word) :
    closed (without front ((q.openers ++ q.closers).map (·.span.start)).toFinset) =
      q.pairs.countP (fun r => r.2 ∈ front) := by
  rw [closed, (h.without_perm hword hfront).countP_eq, List.countP_filter, countP_partners]
  have hnone : q.pairs.countP (fun r => !opens r.1 && decide (r.1 ∈ front)) = 0 := by
    rw [List.countP_eq_zero]
    intro r hr
    simp [h.pairs_open r hr]
  rw [hnone, Nat.zero_add]
  refine List.countP_congr fun r hr => ?_
  simp [h.pairs_close r hr]

theorem mem_word (h : q.Accounts strategy word) {r : Match × Match} (hr : r ∈ q.pairs) :
    r.1 ∈ word ∧ r.2 ∈ word := by
  have hpartner : ∀ m ∈ [r.1, r.2], m ∈ word := fun m hm =>
    h.perm.mem_iff.1 (List.mem_append_right _ (List.mem_flatMap.2 ⟨r, hr, hm⟩))
  exact ⟨hpartner _ (by simp), hpartner _ (by simp)⟩

/-- Without the brackets that have no partner a word is balanced.  A front that holds a closer holds
its partner too, which comes before it. -/
theorem isBalanced (h : q.Accounts strategy word) (hword : word.Pairwise Precedes) :
    IsBalanced (without word ((q.openers ++ q.closers).map (·.span.start)).toFinset) := by
  constructor
  · rw [h.opened_without hword List.prefix_rfl, h.closed_without hword List.prefix_rfl]
    refine List.countP_congr fun r hr => ?_
    simp [(h.mem_word hr).1, (h.mem_word hr).2]
  · intro front hfront
    obtain ⟨part, hpart, rfl⟩ := List.prefix_filter_iff.1 hfront
    have hle : q.pairs.countP (fun r => r.2 ∈ part) ≤ q.pairs.countP (fun r => r.1 ∈ part) := by
      refine List.countP_mono_left fun r hr hmem => ?_
      simp only [decide_eq_true_eq] at hmem ⊢
      exact mem_of_precedes hword hpart (h.mem_word hr).1 hmem (h.pairs_precede r hr)
    rwa [← h.opened_without hword hpart, ← h.closed_without hword hpart] at hle

/-- How openings and closings of the word compare with those that have no partner. -/
theorem length_add (h : q.Accounts strategy word) :
    q.openers.length + closed word = q.closers.length + opened word := by
  have hopened : opened word = q.openers.length + q.pairs.length := by
    rw [opened, ← h.perm.countP_eq, List.countP_append, List.countP_append, countP_partners,
      List.countP_eq_length.2 h.openers_open,
      List.countP_eq_zero.2 (by simpa using h.closers_close),
      List.countP_eq_length.2 h.pairs_open, List.countP_eq_zero.2 (by simpa using h.pairs_close)]
    omega
  have hclosed : closed word = q.closers.length + q.pairs.length := by
    rw [closed, ← h.perm.countP_eq, List.countP_append, List.countP_append, countP_partners,
      List.countP_eq_zero.2 (by simpa using h.openers_open),
      List.countP_eq_length.2 (by simpa using h.closers_close),
      List.countP_eq_zero.2 (by simpa using h.pairs_open),
      List.countP_eq_length.2 (by simpa using h.pairs_close)]
    omega
  omega

end Pairing.Accounts

/-! ## The strict strategy reports as few as can be -/

/-- Openings and closings without a partner differ in number as those of the whole word do. -/
theorem length_unpaired {word : List Match} (hword : word.Pairwise Precedes)
    (strategy : BracketStrategy) :
    (unpaired strategy (word.map toBracket)).openings.length + closed word =
      (unpaired strategy (word.map toBracket)).closings.length + opened word := by
  obtain ⟨q, hq⟩ := exists_represents strategy hword
  have hopenings := congrArg List.length hq.openings_eq
  have hclosings := congrArg List.length hq.closings_eq
  rw [List.length_reverse, List.length_map] at hopenings hclosings
  rw [hopenings, hclosings]
  exact hq.accounts.length_add

theorem without_snoc (word : List Match) (m : Match) (deleted : Finset Position) :
    without (word ++ [m]) deleted =
      without word deleted ++ if m.span.start ∈ deleted then [] else [m] := by
  rw [without, List.filter_append, ← without]
  by_cases hm : m.span.start ∈ deleted <;> simp [hm]

theorem closed_deletedFrom_snoc (word : List Match) (m : Match) (deleted : Finset Position) :
    closed (deletedFrom (word ++ [m]) deleted) =
      closed (deletedFrom word deleted) +
        if m.span.start ∈ deleted ∧ opens m = false then 1 else 0 := by
  rw [closed, closed, deletedFrom, List.filter_append, List.countP_append, ← deletedFrom]
  by_cases hm : m.span.start ∈ deleted <;> cases hside : opens m <;> simp [hm, hside]

/-- The strict strategy gives up a closing only where nothing waits. -/
theorem closings_step (u : Unpaired) (b : Bracket) :
    (u.step .strict b).closings.length =
      u.closings.length + if u.openings = [] ∧ b.isOpening = false then 1 else 0 := by
  rw [Unpaired.step]
  cases hside : b.isOpening with
  | true => simp
  | false => cases u.openings <;> simp [mayPair]

/-- Where no front of what is left has more closings than openings, at least as many closings have
been deleted as the strict strategy gives up. -/
theorem closings_le_deleted {word : List Match} (hword : word.Pairwise Precedes)
    (deleted : Finset Position)
    (hfront : ∀ front, front <+: without word deleted → closed front ≤ opened front) :
    (unpaired .strict (word.map toBracket)).closings.length ≤
      closed (deletedFrom word deleted) := by
  induction word using List.reverseRecOn with
  | nil => exact Nat.zero_le _
  | append_singleton word m ih =>
    have hpart := (List.pairwise_append.1 hword).1
    have hle := ih hpart (fun front hprefix => hfront front (by
      rw [without_snoc]
      exact hprefix.trans (List.prefix_append _ _)))
    rw [List.map_append, List.map_singleton, unpaired_snoc, closings_step, closed_deletedFrom_snoc]
    by_cases hwait : (unpaired .strict (word.map toBracket)).openings = [] ∧ opens m = false
    · rw [if_pos (show _ ∧ (toBracket m).isOpening = false from hwait)]
      by_cases hm : m.span.start ∈ deleted
      · rw [if_pos ⟨hm, hwait.2⟩]
        omega
      · -- The closing stays, so the openings that stay outnumber the other closings.
        have hlast := hfront _ List.prefix_rfl
        have hone : closed [m] = 1 := by simp [closed, hwait.2]
        have hnone : opened [m] = 0 := by simp [opened, hwait.2]
        rw [without_snoc, if_neg hm, closed_append, opened_append, hone, hnone] at hlast
        have htotal := length_unpaired hpart .strict
        rw [hwait.1, List.length_nil, closed_eq word deleted, opened_eq word deleted] at htotal
        rw [if_neg (fun h => hm h.1)]
        omega
    · rw [if_neg (show ¬ (_ ∧ (toBracket m).isOpening = false) from hwait)]
      omega

/-- No deletion that leaves a balanced word is smaller than what the strict strategy reports. -/
theorem length_strict_le {word : List Match} (hword : word.Pairwise Precedes)
    {deleted : Finset Position} (h : IsBalanced (without word deleted)) :
    (unpaired .strict (word.map toBracket)).positions.length ≤ deleted.card := by
  have hcard := length_deletedFrom_le hword deleted
  have hclosings := closings_le_deleted hword deleted h.front
  have htotal := length_unpaired hword .strict
  have hclosed := closed_eq word deleted
  have hopened := opened_eq word deleted
  have hsides := opened_add_closed (deletedFrom word deleted)
  have hbalance := h.total
  rw [Unpaired.positions, List.length_append, List.length_reverse, List.length_reverse]
  omega

/-! ## What is reported -/

def starts (block : Findings) : List Position := block.diagnostics.map (·.span.start)

/-- The positions reported for a pair are those of the brackets without a partner. -/
theorem starts_of_ok {ctx : Context} {strategy : BracketStrategy} {severity : Severity}
    {pair : Pattern} {block : Findings}
    (h : pairFindings (ctx.withStrategy strategy) severity pair = .ok block) :
    starts block = (unpaired strategy ((wordOf ctx pair).map toBracket)).positions := by
  rw [pairFindings_of_ok h, starts, pairVerdict, codeBrackets, filterMap_codeBracket?, List.map_map]
  exact List.map_id _

/-- The positions reported are distinct, and without them the word is balanced. -/
theorem isBalanced_without_starts {ctx : Context} {strategy : BracketStrategy}
    {severity : Severity} {pair : Pattern} {block : Findings}
    (h : pairFindings (ctx.withStrategy strategy) severity pair = .ok block) :
    (starts block).Nodup ∧ IsBalanced (without (wordOf ctx pair) (starts block).toFinset) := by
  have hword := wordOf_pairwise ctx pair
  obtain ⟨q, hq⟩ := exists_represents strategy hword
  rw [starts_of_ok h, hq.positions_eq]
  exact ⟨hq.accounts.nodup_starts hword, hq.accounts.isBalanced hword⟩

/-- What the strict strategy reports for a pair is no larger than any deletion that balances it. -/
theorem length_starts_le {ctx : Context} {severity : Severity} {pair : Pattern} {block : Findings}
    (h : pairFindings (ctx.withStrategy .strict) severity pair = .ok block)
    {deleted : Finset Position} (hdeleted : IsBalanced (without (wordOf ctx pair) deleted)) :
    (starts block).length ≤ deleted.card := by
  rw [starts_of_ok h]
  exact length_strict_le (wordOf_pairwise ctx pair) hdeleted

theorem without_empty (word : List Match) : without word ∅ = word := by
  simp [without]

/-- Deleting what is reported for a pair leaves a balanced word, whichever the strategy.  What the
strict strategy reports is a smallest deletion that does so.  Hence it reports nothing just for
balanced words, and the heuristic one never reports less. -/
theorem bracket_reports_repair (ctx : Context) (severity : Severity) :
    (∀ strategy found, findings (ctx.withStrategy strategy) severity = .ok found →
      ∃ blocks, found = .concat blocks ∧ List.Forall₂ (fun pair block =>
        pairFindings (ctx.withStrategy strategy) severity pair = .ok block)
          ctx.table.brackets blocks) ∧
    ∀ pair : Pattern,
      (∀ strategy block, pairFindings (ctx.withStrategy strategy) severity pair = .ok block →
        (starts block).Nodup ∧ (∀ p ∈ starts block, ∃ m ∈ wordOf ctx pair, m.span.start = p) ∧
          IsBalanced (without (wordOf ctx pair) (starts block).toFinset)) ∧
      (∀ block, pairFindings (ctx.withStrategy .strict) severity pair = .ok block →
        IsLeast {n | ∃ deleted : Finset Position,
          IsBalanced (without (wordOf ctx pair) deleted) ∧ deleted.card = n}
            (starts block).length ∧
        (starts block = [] ↔ IsBalanced (wordOf ctx pair))) ∧
      (∀ strict heuristic,
        pairFindings (ctx.withStrategy .strict) severity pair = .ok strict →
        pairFindings (ctx.withStrategy .heuristic) severity pair = .ok heuristic →
          (starts strict).length ≤ (starts heuristic).length) := by
  refine ⟨?_, fun pair => ⟨?_, ?_, ?_⟩⟩
  · intro strategy found h
    obtain ⟨blocks, hblocks, h⟩ := bind_eq_ok.1 h
    exact ⟨blocks, (Except.ok.inj h).symm, mapM_eq_ok_iff.1 hblocks⟩
  · intro strategy block h
    obtain ⟨hnodup, hbalanced⟩ := isBalanced_without_starts h
    refine ⟨hnodup, fun p hp => ?_, hbalanced⟩
    rw [starts_of_ok h] at hp
    obtain ⟨b, hb, rfl⟩ := mem_unpaired hp
    obtain ⟨m, hm, rfl⟩ := List.mem_map.1 hb
    exact ⟨m, hm, rfl⟩
  · intro block h
    obtain ⟨hnodup, hbalanced⟩ := isBalanced_without_starts h
    refine ⟨⟨⟨_, hbalanced, List.toFinset_card_of_nodup hnodup⟩, ?_⟩, ?_, ?_⟩
    · rintro _ ⟨deleted, hdeleted, rfl⟩
      exact length_starts_le h hdeleted
    · intro hnil
      rwa [hnil, List.toFinset_nil, without_empty] at hbalanced
    · intro hword
      rw [← without_empty (wordOf ctx pair)] at hword
      exact List.eq_nil_of_length_eq_zero (Nat.le_zero.1 (length_starts_le h hword))
  · intro strict heuristic hstrict hheuristic
    obtain ⟨hnodup, hbalanced⟩ := isBalanced_without_starts hheuristic
    rw [← List.toFinset_card_of_nodup hnodup]
    exact length_starts_le hstrict hbalanced

/-- Each strategy reports one opening of the stairs, and not the same one. -/
theorem bracket_reports_repair_stairs :
    ∃ found strict heuristic,
      findings (stairs.withStrategy .strict) .error = .ok found ∧
      (∃ blocks : List Findings, found = .concat blocks ∧ blocks.length = 3) ∧
      pairFindings (stairs.withStrategy .strict) .error roundPair = .ok strict ∧
      pairFindings (stairs.withStrategy .heuristic) .error roundPair = .ok heuristic ∧
      starts strict = [⟨0, 0⟩] ∧ starts heuristic = [⟨1, 2⟩] ∧
      IsBalanced (without (wordOf stairs roundPair) (starts heuristic).toFinset) ∧
      IsLeast {n | ∃ deleted : Finset Position,
        IsBalanced (without (wordOf stairs roundPair) deleted) ∧ deleted.card = n} 1 ∧
      ¬ IsBalanced (wordOf stairs roundPair) ∧
      (starts strict).length ≤ (starts heuristic).length := by
  have hfound : findings (stairs.withStrategy .strict) .error =
      .ok ⟨3, [.ofMessage "bracket-match" .error message (Span.charAt ⟨0, 0⟩)]⟩ := by
    decide +kernel
  have hstrict : pairFindings (stairs.withStrategy .strict) .error roundPair =
      .ok ⟨3, [.ofMessage "bracket-match" .error message (Span.charAt ⟨0, 0⟩)]⟩ := by
    decide +kernel
  have hheuristic : pairFindings (stairs.withStrategy .heuristic) .error roundPair =
      .ok ⟨3, [.ofMessage "bracket-match" .error message (Span.charAt ⟨1, 2⟩)]⟩ := by
    decide +kernel
  obtain ⟨hfamily, hpair⟩ := bracket_reports_repair stairs .error
  obtain ⟨hbalanced, hleast, hless⟩ := hpair roundPair
  obtain ⟨blocks, hblocks, hlength⟩ := hfamily _ _ hfound
  refine ⟨_, _, _, hfound, ⟨blocks, hblocks, hlength.length_eq.symm⟩, hstrict, hheuristic, rfl, rfl,
    (hbalanced _ _ hheuristic).2.2, (hleast _ hstrict).1, ?_, hless _ _ hstrict hheuristic⟩
  rw [← (hleast _ hstrict).2]
  exact List.cons_ne_nil _ _

end Brackets

end ScopeLint
