import Mathlib.Data.List.Induction
import ScopeLint.Proofs.Reported

/-!
# Partners of brackets

The brackets of a pair are its matches in code, each of them an opening or a closing one.  While
they are read, the openings that wait for a partner, the closings that found none, and the partners
found so far account for every bracket read, each once.  What is reported in the end are the
brackets without a partner.
-/

namespace ScopeLint

namespace Pattern

theorem Chain.pairwise {text : Array Char} {i : Nat} {fs : List Found} (h : Chain text i fs) :
    fs.Pairwise (fun f g => f.start < g.start) := by
  induction fs generalizing i with
  | nil => exact .nil
  | cons f fs ih =>
    obtain ⟨-, -, -, hrest⟩ := h
    refine List.pairwise_cons.2 ⟨fun g hg => ?_, ih hrest⟩
    have hstart := (hrest.bounds hg).1
    omega

/-- The matches of a scan start one behind the other. -/
theorem scan_pairwise (p : Pattern) (d : Document) :
    (p.scan d).Pairwise (fun m n => m.span.start < n.span.start) := by
  have hchain := found_chain p d.chars
  rw [scan_eq_map, List.pairwise_map]
  refine hchain.pairwise.imp_of_mem ?_
  intro f g _ hg hlt
  obtain ⟨-, hle, hstop⟩ := hchain.bounds hg
  refine Position.lt_after_take _ hlt ?_
  rw [Array.length_toList]
  omega

end Pattern

theorem eq_map_of_mapM {α β : Type} {f : α → Except LintError β} {g : α → β} {xs : List α}
    {ys : List β} (h : xs.mapM f = .ok ys) (hg : ∀ x ∈ xs, ∀ y, f x = .ok y → y = g x) :
    ys = xs.map g := by
  have hall := mapM_eq_ok_iff.1 h
  clear h
  induction hall with
  | nil => rfl
  | cons hx _ ih =>
    rw [List.map_cons, hg _ List.mem_cons_self _ hx,
      ih (fun z hz => hg z (List.mem_cons_of_mem _ hz))]

namespace Brackets

/-! ## The brackets of a pair -/

def inCode (ctx : Context) (m : Match) : Bool := Scope.isTypical (ctx.path m.span.start)

/-- The matches of a pair in code, in the order of the document. -/
def wordOf (ctx : Context) (pair : Pattern) : List Match :=
  (pair.scan ctx.document).filter (inCode ctx)

def opens (m : Match) : Bool := m.hasGroup openingGroup

def toBracket (m : Match) : Bracket := ⟨opens m, m.span.start⟩

/-- What is reported of a bracket without a partner. -/
def lonely (severity : Severity) (m : Match) : Diagnostic :=
  .ofMessage Family.brackets.id severity message (Span.charAt m.span.start)

/-- Does the one match start before the other? -/
def Precedes (m n : Match) : Prop := m.span.start < n.span.start

theorem wordOf_pairwise (ctx : Context) (pair : Pattern) :
    (wordOf ctx pair).Pairwise Precedes := (pair.scan_pairwise ctx.document).filter _

theorem nodup_of_pairwise {word : List Match} (h : word.Pairwise Precedes) : word.Nodup := by
  refine h.imp ?_
  rintro m n hmn rfl
  exact Position.lt_irrefl _ hmn

theorem pairwise_snoc {word : List Match} {m : Match} (h : word.Pairwise Precedes)
    (hlater : ∀ n ∈ word, Precedes n m) : (word ++ [m]).Pairwise Precedes :=
  List.pairwise_append.2 ⟨h, List.pairwise_singleton _ _, by simpa using hlater⟩

theorem forall_mem_snoc {α : Type} {P : α → Prop} {xs : List α} {a : α} (h : ∀ x ∈ xs, P x)
    (ha : P a) : ∀ x ∈ xs ++ [a], P x :=
  List.forall_mem_append.2 ⟨h, by simpa using ha⟩

theorem filterMap_codeBracket? (ctx : Context) (found : List Match) :
    found.filterMap (codeBracket? ctx) = (found.filter (inCode ctx)).map toBracket := by
  induction found with
  | nil => rfl
  | cons m found ih =>
    rw [List.filterMap_cons, List.filter_cons, codeBracket?, inCode]
    cases Scope.isTypical (ctx.path m.span.start) with
    | false => simpa using ih
    | true => simpa using ⟨rfl, ih⟩

/-! ## Partners -/

/-- Partners, and the brackets that have none. -/
structure Pairing where
  openers : List Match
  closers : List Match
  pairs : List (Match × Match)

namespace Pairing

def partners (q : Pairing) : List Match := q.pairs.flatMap (fun r => [r.1, r.2])

/-- Each bracket of the word is a partner in one pair, or an opener or a closer without a partner.
A pair is an opener and a later closer that the strategy lets take it. -/
structure Accounts (q : Pairing) (strategy : BracketStrategy) (word : List Match) : Prop where
  perm : (q.openers ++ q.closers ++ q.partners).Perm word
  openers_pairwise : q.openers.Pairwise Precedes
  closers_pairwise : q.closers.Pairwise Precedes
  openers_open : ∀ m ∈ q.openers, opens m = true
  closers_close : ∀ m ∈ q.closers, opens m = false
  pairs_open : ∀ r ∈ q.pairs, opens r.1 = true
  pairs_close : ∀ r ∈ q.pairs, opens r.2 = false
  pairs_precede : ∀ r ∈ q.pairs, Precedes r.1 r.2
  pairs_fit : ∀ r ∈ q.pairs, strategy = .heuristic →
    r.1.span.start.row = r.2.span.start.row ∨ r.1.span.start.column = r.2.span.start.column

theorem Accounts.nodup {q : Pairing} {strategy : BracketStrategy} {word : List Match}
    (h : q.Accounts strategy word) (hword : word.Pairwise Precedes) :
    (q.openers ++ q.closers ++ q.partners).Nodup :=
  h.perm.nodup_iff.2 (nodup_of_pairwise hword)

end Pairing

/-- The brackets that wait or were given up, last ones first, are those without a partner. -/
structure Represents (strategy : BracketStrategy) (word : List Match) (u : Unpaired)
    (q : Pairing) : Prop where
  openings_eq : u.openings.reverse = q.openers.map (·.span.start)
  closings_eq : u.closings.reverse = q.closers.map (·.span.start)
  accounts : q.Accounts strategy word

namespace Represents

variable {strategy : BracketStrategy} {word : List Match} {u : Unpaired} {q : Pairing} {m : Match}

theorem nil (strategy : BracketStrategy) : Represents strategy [] ⟨[], []⟩ ⟨[], [], []⟩ :=
  ⟨rfl, rfl, by constructor <;> simp [Pairing.partners]⟩

/-- An opening bracket waits. -/
theorem opening (h : Represents strategy word u q) (hm : opens m = true)
    (hlater : ∀ n ∈ word, Precedes n m) :
    Represents strategy (word ++ [m]) { u with openings := m.span.start :: u.openings }
      { q with openers := q.openers ++ [m] } := by
  have hmem : ∀ n ∈ q.openers, n ∈ word := fun n hn =>
    h.accounts.perm.subset (List.mem_append_left _ (List.mem_append_left _ hn))
  refine ⟨by simp [h.openings_eq], h.closings_eq, ?_⟩
  refine { h.accounts with perm := ?_, openers_pairwise := ?_, openers_open := ?_ }
  · rw [List.perm_iff_count]
    intro x
    have hcount := List.perm_iff_count.1 h.accounts.perm x
    simp only [List.count_append, Pairing.partners] at hcount ⊢
    omega
  · exact pairwise_snoc h.accounts.openers_pairwise (fun n hn => hlater n (hmem n hn))
  · exact forall_mem_snoc h.accounts.openers_open hm

/-- A closing bracket that may take none of the waiting ones is given up. -/
theorem closing (h : Represents strategy word u q) (hm : opens m = false)
    (hlater : ∀ n ∈ word, Precedes n m) :
    Represents strategy (word ++ [m]) { u with closings := m.span.start :: u.closings }
      { q with closers := q.closers ++ [m] } := by
  have hmem : ∀ n ∈ q.closers, n ∈ word := fun n hn =>
    h.accounts.perm.subset (List.mem_append_left _ (List.mem_append_right _ hn))
  refine ⟨h.openings_eq, by simp [h.closings_eq], ?_⟩
  refine { h.accounts with perm := ?_, closers_pairwise := ?_, closers_close := ?_ }
  · rw [List.perm_iff_count]
    intro x
    have hcount := List.perm_iff_count.1 h.accounts.perm x
    simp only [List.count_append, Pairing.partners] at hcount ⊢
    omega
  · exact pairwise_snoc h.accounts.closers_pairwise (fun n hn => hlater n (hmem n hn))
  · exact forall_mem_snoc h.accounts.closers_close hm

/-- A closing bracket takes the last one of the waiting ones that it may take: an opener, which
leaves those without a partner. -/
theorem pair (h : Represents strategy word u q) (hm : opens m = false)
    (hlater : ∀ n ∈ word, Precedes n m)
    (hany : u.openings.any (mayPair strategy · m.span.start) = true) :
    ∃ q', Represents strategy (word ++ [m])
      { u with openings := u.openings.eraseP (mayPair strategy · m.span.start) } q' := by
  obtain ⟨p, hp, hfit⟩ := List.any_eq_true.1 hany
  obtain ⟨p, later, earlier, -, hfit, hopenings, herase⟩ := List.exists_of_eraseP
    (p := (mayPair strategy · m.span.start)) hp hfit
  have hsplit : q.openers.map (·.span.start) = earlier.reverse ++ p :: later.reverse := by
    rw [← h.openings_eq, hopenings]
    simp
  obtain ⟨front, rest, hopeners, hfront, hrest⟩ := List.map_eq_append_iff.1 hsplit
  obtain ⟨o, back, rfl, rfl, hback⟩ := List.map_eq_cons_iff.1 hrest
  have ho : o ∈ q.openers := by rw [hopeners]; simp
  have howord : o ∈ word :=
    h.accounts.perm.subset (List.mem_append_left _ (List.mem_append_left _ ho))
  have hsub : (front ++ back).Sublist q.openers := by
    rw [hopeners]
    exact (List.sublist_cons_self o back).append_left front
  refine ⟨⟨front ++ back, q.closers, q.pairs ++ [(o, m)]⟩, ?_, h.closings_eq, ?_⟩
  · rw [herase]
    simp [hfront, hback]
  · constructor
    · rw [List.perm_iff_count]
      intro x
      have hcount := List.perm_iff_count.1 h.accounts.perm x
      rw [hopeners] at hcount
      simp only [Pairing.partners, List.flatMap_append, List.flatMap_singleton, List.count_append,
        List.count_cons, List.count_nil] at hcount ⊢
      omega
    · exact h.accounts.openers_pairwise.sublist hsub
    · exact h.accounts.closers_pairwise
    · exact fun n hn => h.accounts.openers_open n (hsub.subset hn)
    · exact h.accounts.closers_close
    · exact forall_mem_snoc h.accounts.pairs_open (h.accounts.openers_open o ho)
    · exact forall_mem_snoc h.accounts.pairs_close hm
    · exact forall_mem_snoc h.accounts.pairs_precede (hlater o howord)
    · refine forall_mem_snoc h.accounts.pairs_fit ?_
      rintro rfl
      simp only [mayPair, Bool.or_eq_true, beq_iff_eq] at hfit
      exact hfit.symm

/-- Reading one more bracket keeps the account. -/
theorem step (h : Represents strategy word u q) (hlater : ∀ n ∈ word, Precedes n m) :
    ∃ q', Represents strategy (word ++ [m]) (u.step strategy (toBracket m)) q' := by
  rw [Unpaired.step]
  cases hm : opens m with
  | true =>
    rw [if_pos (show (toBracket m).isOpening = true from hm)]
    exact ⟨_, h.opening hm hlater⟩
  | false =>
    rw [if_neg (show ¬ (toBracket m).isOpening = true by simp [toBracket, hm])]
    split
    case isTrue hany => exact h.pair hm hlater hany
    case isFalse => exact ⟨_, h.closing hm hlater⟩

end Represents

theorem unpaired_snoc (strategy : BracketStrategy) (brackets : List Bracket) (b : Bracket) :
    unpaired strategy (brackets ++ [b]) = (unpaired strategy brackets).step strategy b := by
  rw [unpaired, List.foldl_append]
  rfl

/-- Reading a whole word accounts for all of its brackets. -/
theorem exists_represents (strategy : BracketStrategy) {word : List Match}
    (h : word.Pairwise Precedes) :
    ∃ q, Represents strategy word (unpaired strategy (word.map toBracket)) q := by
  induction word using List.reverseRecOn with
  | nil => exact ⟨_, .nil strategy⟩
  | append_singleton word m ih =>
    obtain ⟨hword, -, hlater⟩ := List.pairwise_append.1 h
    obtain ⟨q, hq⟩ := ih hword
    rw [List.map_append, List.map_singleton, unpaired_snoc]
    exact hq.step (fun n hn => hlater n hn m (List.mem_singleton_self m))

end Brackets

/-! ## Findings -/

namespace Context

variable {ctx : Context}

theorem pathAt_of_ok {p : Position} {path : ScopePath} (h : ctx.pathAt p = .ok path) :
    ctx.document.contains p = true ∧ path = ctx.path p := by
  obtain ⟨_, hcheck, h⟩ := bind_eq_ok.1 h
  exact ⟨Document.check_eq_ok_iff.1 hcheck, (Except.ok.inj h).symm⟩

theorem isTypicalAt_of_ok {p : Position} {typical : Bool} (h : ctx.isTypicalAt p = .ok typical) :
    typical = Scope.isTypical (ctx.path p) := by
  obtain ⟨path, hpath, h⟩ := bind_eq_ok.1 h
  cases h
  rw [(pathAt_of_ok hpath).2]

theorem report_of_ok {f : Family} {severity : Severity} {message : String} {span : Span}
    {x : Diagnostic} (h : ctx.report f severity message span = .ok x) :
    x = .ofMessage f.id severity message span := by
  obtain ⟨span', hspan, rfl⟩ := Diagnostic.report_eq_ok_iff.1 h
  rw [(Document.checkSpan_eq_ok_iff.1 hspan).1]

theorem reportIf_of_ok {fault : Bool} {f : Family} {severity : Severity} {message : String}
    {span : Span} {verdict : Option Diagnostic}
    (h : ctx.reportIf fault f severity message span = .ok verdict) :
    verdict = if fault then some (.ofMessage f.id severity message span) else none := by
  cases fault with
  | false =>
    cases h
    rfl
  | true =>
    obtain ⟨x, hx, h⟩ := bind_eq_ok.1 h
    cases h
    rw [report_of_ok hx]
    rfl

end Context

namespace Brackets

theorem bracket?_of_ok {ctx : Context} {m : Match} {b : Option Bracket}
    (h : bracket? ctx m = .ok b) : b = codeBracket? ctx m := by
  obtain ⟨typical, htypical, h⟩ := bind_eq_ok.1 h
  rw [codeBracket?, ← Context.isTypicalAt_of_ok htypical]
  cases typical <;> cases h <;> rfl

/-- What is found for one pair, if it does not fail. -/
theorem pairFindings_of_ok {ctx : Context} {severity : Severity} {pair : Pattern}
    {block : Findings} (h : pairFindings ctx severity pair = .ok block) :
    block = pairVerdict ctx severity pair := by
  obtain ⟨brackets, hbrackets, h⟩ := bind_eq_ok.1 h
  obtain ⟨diagnostics, hdiagnostics, h⟩ := bind_eq_ok.1 h
  cases h
  have hmap := eq_map_of_mapM hbrackets (fun m _ b hb => bracket?_of_ok hb)
  rw [eq_map_of_mapM hdiagnostics (fun p _ x hx => Context.report_of_ok hx), hmap,
    List.filterMap_map]
  rfl

theorem Represents.positions_eq {strategy : BracketStrategy} {word : List Match} {u : Unpaired}
    {q : Pairing} (h : Represents strategy word u q) :
    u.positions = (q.openers ++ q.closers).map (·.span.start) := by
  rw [Unpaired.positions, h.openings_eq, h.closings_eq, List.map_append]

/-- What is found for one pair is one diagnostic for each bracket without a partner. -/
theorem exists_accounts (ctx : Context) (severity : Severity) (pair : Pattern) :
    ∃ q : Pairing, q.Accounts ctx.table.strategy (wordOf ctx pair) ∧
      (pairVerdict ctx severity pair).diagnostics =
        (q.openers ++ q.closers).map (lonely severity) := by
  obtain ⟨q, hq⟩ := exists_represents ctx.table.strategy (wordOf_pairwise ctx pair)
  refine ⟨q, hq.accounts, ?_⟩
  rw [pairVerdict, codeBrackets, filterMap_codeBracket?, ← wordOf, hq.positions_eq, List.map_map]
  rfl

/-- No bracket is lost or counted twice.  The findings are a block for each pair of the table in
turn.  Partners are disjoint, and a block has one diagnostic for each bracket in code without a
partner, the openers first, both in the order of the document.  At each moment of the scan the
brackets that wait, those given up and the partners are the brackets in code read so far. -/
theorem brackets_accounted_for (ctx : Context) (severity : Severity) (found : Findings)
    (h : findings ctx severity = .ok found) :
    ∃ blocks : List (List Diagnostic), found.diagnostics = blocks.flatten ∧
      List.Forall₂ (fun pair block =>
        (wordOf ctx pair).Pairwise Precedes ∧
        (∃ q : Pairing, q.Accounts ctx.table.strategy (wordOf ctx pair) ∧
          (q.openers ++ q.closers ++ q.partners).Nodup ∧
          block = (q.openers ++ q.closers).map (lonely severity)) ∧
        ∀ front, front <+: pair.scan ctx.document →
          ∃ q : Pairing, Represents ctx.table.strategy (front.filter (inCode ctx))
            (unpaired ctx.table.strategy (front.filterMap (codeBracket? ctx))) q)
        ctx.table.brackets blocks := by
  obtain ⟨parts, hparts, h⟩ := bind_eq_ok.1 h
  cases h
  obtain rfl := eq_map_of_mapM hparts (fun pair _ block hblock => pairFindings_of_ok hblock)
  refine ⟨ctx.table.brackets.map (fun pair => (pairVerdict ctx severity pair).diagnostics), ?_, ?_⟩
  · rw [Findings.concat, List.flatMap_map, List.flatMap_def]
  · rw [List.forall₂_map_right_iff, List.forall₂_same]
    intro pair _
    obtain ⟨q, hq, hblock⟩ := exists_accounts ctx severity pair
    refine ⟨wordOf_pairwise ctx pair, ⟨q, hq, hq.nodup (wordOf_pairwise ctx pair), hblock⟩, ?_⟩
    intro front hfront
    rw [filterMap_codeBracket?]
    exact exists_represents _
      (((pair.scan_pairwise ctx.document).sublist hfront.sublist).filter (inCode ctx))

/-- Two opening brackets on different rows, and a closing one below the first of them. -/
def stairs : Context := ⟨.ofString "(\n  (\n)", ⟨fun _ => [Scope.root]⟩, BuiltIn.table⟩

/-- The round brackets of the built-in table. -/
def roundPair : Pattern := ⟨"(?P<open>\\()|(?P<close>\\))", BuiltIn.pairNode '(' ')'⟩

/-- The closing bracket takes the opening one above it, and not the nearest. -/
theorem brackets_accounted_for_stairs :
    ∃ found, findings stairs .error = .ok found ∧
      found.diagnostics.map (·.span) = [Span.charAt ⟨1, 2⟩] ∧
      ∃ blocks : List (List Diagnostic), found.diagnostics = blocks.flatten ∧
        ∃ q : Pairing, q.Accounts .heuristic (wordOf stairs roundPair) ∧
          blocks.head? = some ((q.openers ++ q.closers).map (lonely .error)) := by
  have hfound : findings stairs .error =
      .ok ⟨3, [.ofMessage "bracket-match" .error message (Span.charAt ⟨1, 2⟩)]⟩ := by
    decide +kernel
  obtain ⟨blocks, hflat, hblocks⟩ := brackets_accounted_for _ _ _ hfound
  refine ⟨_, hfound, rfl, blocks, hflat, ?_⟩
  obtain ⟨block, rest, ⟨-, ⟨q, hq, -, hblock⟩, -⟩, -, rfl⟩ := List.forall₂_cons_left_iff.1 hblocks
  exact ⟨q, hq, congrArg some hblock⟩

end Brackets

end ScopeLint
