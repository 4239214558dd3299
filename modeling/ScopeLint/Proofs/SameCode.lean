import ScopeLint.Proofs.Borders

/-!
# Documents with the same code

Patterns are searched for in the whole text, in code as in comments and strings.  But where code
meets other text there is a border, and a tame pattern matches none.  So each stretch of code is
searched by itself: in two documents with the same code a tame pattern has the same matches there,
and a match that starts in code ends in it too.
-/

namespace ScopeLint

namespace Pattern

/-! ## Searches between barriers -/

section Tame

variable {node : Node} {text : Array Char} {i j b : Nat}

theorem matchAt?_barrier (h : node.IsTame) (hb : IsBarrier text b) :
    node.matchAt? text (outlooks node text) b = none := by
  cases hmatch : node.matchAt? text (outlooks node text) b with
  | none => rfl
  | some a =>
    obtain ⟨hlt, hinside⟩ := h.of_matchAt? hmatch
    exact absurd hb (hinside b (Nat.le_refl b) hlt)

theorem search_fresh (h : node.IsTame) (fresh : Bool) :
    search node text i fresh = search node text i true := by
  cases hmatch : node.matchAt? text (outlooks node text) i with
  | none => rw [search_none _ hmatch, search_none _ hmatch]
  | some a =>
    have hlt := (h.of_matchAt? hmatch).1
    rw [search_some _ hmatch hlt, search_some _ hmatch hlt]

/-- A search passes over barriers without a match. -/
theorem search_barriers (h : node.IsTame) (hij : i ≤ j)
    (hb : ∀ k, i ≤ k → k < j → IsBarrier text k) :
    search node text i true = search node text j true := by
  induction j, hij using Nat.le_induction with
  | base => rfl
  | succ j hij ih =>
    rw [ih (fun k hk hlt => hb k hk (Nat.lt_succ_of_lt hlt)),
      search_none true (matchAt?_barrier h (hb j hij (Nat.lt_succ_self j)))]

theorem search_end (h : node.IsTame) (hb : ∀ k, i ≤ k → IsBarrier text k) :
    search node text i true = [] := by
  rw [search_barriers h (Nat.le_add_right i (text.size + 1)) (fun k hk _ => hb k hk)]
  exact search_beyond true (by omega)

/-- A search arrives at every barrier, because no match reaches over it. -/
theorem search_until (h : node.IsTame) (hb : IsBarrier text b) (hib : i ≤ b) :
    ∃ fs, (∀ f ∈ fs, i ≤ f.start ∧ f.start < b) ∧
      search node text i true = fs ++ search node text b true := by
  induction hm : b - i using Nat.strong_induction_on generalizing i with
  | h m ih =>
    by_cases hi : i = b
    · exact ⟨[], by simp, by rw [hi]; rfl⟩
    cases hmatch : node.matchAt? text (outlooks node text) i with
    | none =>
      obtain ⟨fs, hfs, hsearch⟩ := ih _ (by omega) (show i + 1 ≤ b by omega) rfl
      refine ⟨fs, fun f hf => ⟨Nat.le_of_succ_le (hfs f hf).1, (hfs f hf).2⟩, ?_⟩
      rw [search_none true hmatch, hsearch]
    | some a =>
      obtain ⟨hlt, hinside⟩ := h.of_matchAt? hmatch
      have hstop : a.stop ≤ b := by
        by_contra hgt
        exact hinside b hib (by omega) hb
      obtain ⟨fs, hfs, hsearch⟩ := ih _ (by omega) hstop rfl
      refine ⟨⟨i, a.stop, a.groups⟩ :: fs, ?_, ?_⟩
      · intro f hf
        rcases List.mem_cons.1 hf with rfl | hf
        · exact ⟨Nat.le_refl i, Nat.lt_of_lt_of_le hlt hstop⟩
        · exact ⟨Nat.le_trans (Nat.le_of_lt hlt) (hfs f hf).1, (hfs f hf).2⟩
      · rw [search_some true hmatch hlt, search_fresh h, hsearch]
        rfl

end Tame

/-- A match that starts `i` characters later. -/
def Found.shift (i : Nat) (f : Found) : Found := ⟨i + f.start, i + f.stop, f.groups⟩

namespace Alike

variable {text₁ text₂ : Array Char} {i₁ i₂ n : Nat}

theorem drop (h : Alike text₁ text₂ i₁ i₂ n) {k : Nat} (hk : k ≤ n) :
    Alike text₁ text₂ (i₁ + k) (i₂ + k) (n - k) where
  same m hm := by
    rw [Nat.add_assoc, Nat.add_assoc]
    exact h.same (k + m) (by omega)
  before ascii := by
    cases k with
    | zero => exact h.before ascii
    | succ k => exact congrArg _ (h.same k hk)
  barrier₁ := by
    rw [Nat.add_assoc, Nat.add_sub_cancel' hk]
    exact h.barrier₁
  barrier₂ := by
    rw [Nat.add_assoc, Nat.add_sub_cancel' hk]
    exact h.barrier₂
  size₁ := by
    rw [Nat.add_assoc, Nat.add_sub_cancel' hk]
    exact h.size₁
  size₂ := by
    rw [Nat.add_assoc, Nat.add_sub_cancel' hk]
    exact h.size₂

/-- Searches in alike stretches find the same matches and arrive at the ends of both. -/
theorem search_eq {node : Node} (ht : node.IsTame) (h : Alike text₁ text₂ i₁ i₂ n) {k : Nat}
    (hk : k ≤ n) :
    ∃ fs : List Found, (∀ f ∈ fs, k ≤ f.start ∧ f.start < f.stop ∧ f.stop ≤ n) ∧
      search node text₁ (i₁ + k) true =
        fs.map (Found.shift i₁) ++ search node text₁ (i₁ + n) true ∧
      search node text₂ (i₂ + k) true =
        fs.map (Found.shift i₂) ++ search node text₂ (i₂ + n) true := by
  induction hm : n - k using Nat.strong_induction_on generalizing k with
  | h m ih =>
    by_cases hkn : k = n
    · exact ⟨[], by simp, by rw [hkn]; rfl, by rw [hkn]; rfl⟩
    rcases (h.drop hk).matchAt?_eq ht.simple ht.avoids with
      ⟨hnone₁, hnone₂⟩ | ⟨j, groups, hj, hsome₁, hsome₂⟩
    · obtain ⟨fs, hfs, hsearch₁, hsearch₂⟩ := ih _ (by omega) (show k + 1 ≤ n by omega) rfl
      refine ⟨fs, fun f hf => ⟨Nat.le_of_succ_le (hfs f hf).1, (hfs f hf).2⟩, ?_, ?_⟩
      · rw [search_none true hnone₁, Nat.add_assoc, hsearch₁]
      · rw [search_none true hnone₂, Nat.add_assoc, hsearch₂]
    · have hlt₁ := (ht.of_matchAt? hsome₁).1
      have hlt₂ := (ht.of_matchAt? hsome₂).1
      have hpos : 0 < j := by
        simp only at hlt₁
        omega
      obtain ⟨fs, hfs, hsearch₁, hsearch₂⟩ := ih _ (by omega) (show k + j ≤ n by omega) rfl
      refine ⟨⟨k, k + j, groups⟩ :: fs, ?_, ?_, ?_⟩
      · intro f hf
        rcases List.mem_cons.1 hf with rfl | hf
        · exact ⟨Nat.le_refl k, by simp only; omega, by simp only; omega⟩
        · exact ⟨Nat.le_trans (Nat.le_add_right k j) (hfs f hf).1, (hfs f hf).2⟩
      · rw [search_some true hsome₁ hlt₁, search_fresh ht, Nat.add_assoc, hsearch₁]
        rfl
      · rw [search_some true hsome₂ hlt₂, search_fresh ht, Nat.add_assoc, hsearch₂]
        rfl

end Alike

end Pattern

/-! ## Rows with the same code -/

open Pattern (IsBarrier Alike Node borders)

/-- Two documents of the same shape with the same characters in code. -/
structure SameCode (code : Position → Bool) (d₁ d₂ : Document) : Prop where
  length : ∀ row, d₁.lineLength? row = d₂.lineLength? row
  char : ∀ p, d₁.contains p = true → code p = true → d₁.charAt? p = d₂.charAt? p
  bordered₁ : d₁.IsBordered code
  bordered₂ : d₂.IsBordered code

/-- The same character in both documents, or a border in each. -/
def SameOrBorder (d₁ d₂ : Document) (p : Position) : Prop :=
  d₁.charAt? p = d₂.charAt? p ∨
    (∃ a ∈ borders, d₁.charAt? p = some a) ∧ ∃ a ∈ borders, d₂.charAt? p = some a

namespace SameCode

variable {code : Position → Bool} {d₁ d₂ : Document} {i₁ i₂ row n c : Nat}

theorem length₂ (h : SameCode code d₁ d₂) (hn : d₁.lineLength? row = some n) :
    d₂.lineLength? row = some n := by
  rw [← h.length, hn]

theorem char_column (h : SameCode code d₁ d₂) (hn : d₁.lineLength? row = some n) (hc : c ≤ n)
    (hcode : code ⟨row, c⟩ = true) : d₁.charAt? ⟨row, c⟩ = d₂.charAt? ⟨row, c⟩ :=
  h.char _ ((Document.contains_iff_column hn c).2 hc) hcode

/-- To the right of code both documents have the same character, or each has a border. -/
theorem right_of_code (h : SameCode code d₁ d₂) (hn : d₁.lineLength? row = some n)
    (hc : c + 1 ≤ n) (hcode : code ⟨row, c⟩ = true) : SameOrBorder d₁ d₂ ⟨row, c + 1⟩ := by
  cases hnext : code ⟨row, c + 1⟩ with
  | true => exact .inl (h.char_column hn hc hnext)
  | false =>
    by_cases hlt : c + 1 < n
    · exact .inr ⟨h.bordered₁.after_code hn hlt hcode hnext,
        h.bordered₂.after_code (h.length₂ hn) hlt hcode hnext⟩
    · obtain rfl : c + 1 = n := by omega
      exact .inl (by rw [Document.charAt?_lineEnd hn, Document.charAt?_lineEnd (h.length₂ hn)])

theorem left_of_code (h : SameCode code d₁ d₂) (hn : d₁.lineLength? row = some n)
    (hc : c + 1 < n) (hcode : code ⟨row, c + 1⟩ = true) : SameOrBorder d₁ d₂ ⟨row, c⟩ := by
  cases hprevious : code ⟨row, c⟩ with
  | true => exact .inl (h.char_column hn (by omega) hprevious)
  | false => exact .inr ⟨h.bordered₁.before_code hn hc hprevious hcode,
      h.bordered₂.before_code (h.length₂ hn) hc hprevious hcode⟩

end SameCode

namespace LineAt

variable {code : Position → Bool} {d : Document} {i row n c : Nat}

theorem barrier (h : LineAt d i row n) (hc : c < n)
    (hborder : ∃ a ∈ borders, d.charAt? ⟨row, c⟩ = some a) : IsBarrier d.chars (i + c) := by
  intro b hb
  obtain ⟨a, ha, hchar⟩ := hborder
  rw [h.char c hc, hchar] at hb
  rwa [← Option.some.inj hb]

/-- Code ends at a barrier: at the end of the line or at a border. -/
theorem barrier_after_code (h : LineAt d i row n) (hd : d.IsBordered code)
    (hstop : IsBarrier d.chars (i + n)) (hc : c + 1 ≤ n) (hcode : code ⟨row, c⟩ = true)
    (hend : c + 1 = n ∨ code ⟨row, c + 1⟩ = false) : IsBarrier d.chars (i + (c + 1)) := by
  by_cases hn : c + 1 = n
  · rw [hn]
    exact hstop
  · have hlt : c + 1 < n := by omega
    exact h.barrier hlt (hd.after_code h.length hlt hcode (hend.resolve_left hn))

theorem isWord_before (h : LineAt d i row n) (ascii : Bool) :
    Pattern.Assertion.isWord ascii (Pattern.Assertion.before? d.chars i) = false := by
  cases hb : Pattern.Assertion.before? d.chars i with
  | none => rfl
  | some b => exact Pattern.isWord_border (h.before b hb) ascii

end LineAt

theorem SameOrBorder.isWord {d₁ d₂ : Document} {p : Position} (h : SameOrBorder d₁ d₂ p)
    (ascii : Bool) :
    Pattern.Assertion.isWord ascii (d₁.charAt? p) =
      Pattern.Assertion.isWord ascii (d₂.charAt? p) := by
  rcases h with h | ⟨⟨a, ha, hchar₁⟩, b, hb, hchar₂⟩
  · rw [h]
  · rw [hchar₁, hchar₂, Pattern.isWord_border ha, Pattern.isWord_border hb]

namespace SameCode

variable {code : Position → Bool} {d₁ d₂ : Document} {i₁ i₂ row n c m : Nat}

/-- A stretch of code up to other text or to the line end is alike in both documents. -/
theorem alike (h : SameCode code d₁ d₂) (h₁ : LineAt d₁ i₁ row n) (h₂ : LineAt d₂ i₂ row n)
    (hstop₁ : IsBarrier d₁.chars (i₁ + n)) (hstop₂ : IsBarrier d₂.chars (i₂ + n))
    (hm : c + (m + 1) ≤ n) (hcode : ∀ k, k ≤ m → code ⟨row, c + k⟩ = true)
    (hend : c + (m + 1) = n ∨ code ⟨row, c + (m + 1)⟩ = false) :
    Alike d₁.chars d₂.chars (i₁ + c) (i₂ + c) (m + 1) where
  same k hk := by
    rw [Nat.add_assoc, Nat.add_assoc, h₁.char _ (by omega), h₂.char _ (by omega)]
    exact h.char_column h₁.length (by omega) (hcode k (by omega))
  before ascii := by
    cases c with
    | zero => rw [Nat.add_zero, Nat.add_zero, h₁.isWord_before, h₂.isWord_before]
    | succ c =>
      have hleft := h.left_of_code h₁.length (by omega) (hcode 0 (by omega))
      have hword := hleft.isWord ascii
      rw [← h₁.char c (by omega), ← h₂.char c (by omega)] at hword
      exact hword
  barrier₁ := by
    rw [Nat.add_assoc]
    exact h₁.barrier_after_code h.bordered₁ hstop₁ hm (hcode m (Nat.le_refl m)) hend
  barrier₂ := by
    rw [Nat.add_assoc]
    exact h₂.barrier_after_code h.bordered₂ hstop₂ hm (hcode m (Nat.le_refl m)) hend
  size₁ := by
    have hsize := h₁.size
    omega
  size₂ := by
    have hsize := h₂.size
    omega

end SameCode

/-! ## Matches in code -/

/-- A match without its byte offsets, which hidden text can move. -/
def Match.withoutOffsets (m : Match) : Match := { m with first := 0, last := 0 }

/-- The matches that start in code. -/
def codeMatches (code : Position → Bool) (found : List Match) : List Match :=
  (found.filter (fun m => code m.span.start)).map Match.withoutOffsets

theorem codeMatches_append (code : Position → Bool) (found rest : List Match) :
    codeMatches code (found ++ rest) = codeMatches code found ++ codeMatches code rest := by
  simp [codeMatches]

theorem codeMatches_hidden {code : Position → Bool} {found : List Match}
    (h : ∀ m ∈ found, code m.span.start = false) : codeMatches code found = [] := by
  simpa [codeMatches] using h

theorem codeMatches_code {code : Position → Bool} {found : List Match}
    (h : ∀ m ∈ found, code m.span.start = true) :
    codeMatches code found = found.map Match.withoutOffsets := by
  rw [codeMatches, List.filter_eq_self.2 h]

/-- The matches of a pattern that start in code, from an index of the text on. -/
def seenFrom (code : Position → Bool) (d : Document) (node : Node) (i : Nat) : List Match :=
  codeMatches code ((Pattern.search node d.chars i true).map (Pattern.matchOf d.chars))

/-- A stretch of one row of a document that is all code. -/
def Span.IsCodeIn (s : Span) (d : Document) (code : Position → Bool) : Prop :=
  ∃ row first last, s = Span.onRow row first last ∧ first < last ∧
    d.contains ⟨row, last⟩ = true ∧ ∀ c, first ≤ c → c < last → code ⟨row, c⟩ = true

/-- From two indices on a pattern finds the same in the code of two documents. -/
structure Agree (code : Position → Bool) (d₁ d₂ : Document) (node : Node) (i₁ i₂ : Nat) :
    Prop where
  same : seenFrom code d₁ node i₁ = seenFrom code d₂ node i₂
  inCode : ∀ m ∈ seenFrom code d₁ node i₁, m.span.IsCodeIn d₁ code

theorem LineAt.span_shift {d : Document} {i row n c : Nat} (h : LineAt d i row n)
    (f : Pattern.Found) (hle : f.start ≤ f.stop) (hstop : c + f.stop ≤ n) :
    (Pattern.matchOf d.chars (f.shift (i + c))).span =
      Span.onRow row (c + f.start) (c + f.stop) := by
  simp only [Pattern.matchOf, Pattern.Found.shift, Nat.add_assoc]
  rw [h.place _ (by omega), h.place _ hstop]
  rfl

theorem Pattern.Alike.extract_eq {text₁ text₂ : Array Char} {i₁ i₂ n : Nat}
    (h : Alike text₁ text₂ i₁ i₂ n) (first : Nat) {last : Nat} (hlast : last ≤ n) :
    text₁.extract (i₁ + first) (i₁ + last) = text₂.extract (i₂ + first) (i₂ + last) := by
  have hsize₁ := h.size₁
  have hsize₂ := h.size₂
  apply Array.ext_getElem?
  intro k
  rw [Array.getElem?_extract, Array.getElem?_extract]
  by_cases hk : first + k < last
  · rw [if_pos (by omega), if_pos (by omega), Nat.add_assoc, Nat.add_assoc]
    exact h.same (first + k) (by omega)
  · rw [if_neg (by omega), if_neg (by omega)]

namespace Agree

variable {code : Position → Bool} {d₁ d₂ : Document} {node : Node} {i₁ i₂ j₁ j₂ : Nat}

theorem seenFrom_hidden {d : Document} {fs : List Pattern.Found} {i j : Nat}
    (hsearch : Pattern.search node d.chars i true = fs ++ Pattern.search node d.chars j true)
    (hidden : ∀ f ∈ fs, code (Pattern.placeAt d.chars f.start).position = false) :
    seenFrom code d node i = seenFrom code d node j := by
  have hnone : codeMatches code (fs.map (Pattern.matchOf d.chars)) = [] := by
    apply codeMatches_hidden
    intro m hm
    obtain ⟨f, hf, rfl⟩ := List.mem_map.1 hm
    exact hidden f hf
  rw [seenFrom, hsearch, List.map_append, codeMatches_append, hnone, List.nil_append]
  rfl

/-- Matches that start in hidden text do not count. -/
theorem of_hidden {fs₁ fs₂ : List Pattern.Found} (h : Agree code d₁ d₂ node j₁ j₂)
    (h₁ : Pattern.search node d₁.chars i₁ true = fs₁ ++ Pattern.search node d₁.chars j₁ true)
    (h₂ : Pattern.search node d₂.chars i₂ true = fs₂ ++ Pattern.search node d₂.chars j₂ true)
    (hidden₁ : ∀ f ∈ fs₁, code (Pattern.placeAt d₁.chars f.start).position = false)
    (hidden₂ : ∀ f ∈ fs₂, code (Pattern.placeAt d₂.chars f.start).position = false) :
    Agree code d₁ d₂ node i₁ i₂ := by
  refine ⟨?_, ?_⟩
  · rw [seenFrom_hidden h₁ hidden₁, seenFrom_hidden h₂ hidden₂, h.same]
  · rw [seenFrom_hidden h₁ hidden₁]
    exact h.inCode

section Code

variable {row n c m : Nat} {fs : List Pattern.Found}

/-- A stretch of code gives its own matches to what is seen, before those behind it. -/
theorem seenFrom_code {d : Document} {i : Nat} (hline : LineAt d i row n) (hm : c + m ≤ n)
    (hcode : ∀ k, k < m → code ⟨row, c + k⟩ = true)
    (hfs : ∀ f ∈ fs, f.start < f.stop ∧ f.stop ≤ m)
    (hsearch : Pattern.search node d.chars (i + c) true =
      fs.map (Pattern.Found.shift (i + c)) ++ Pattern.search node d.chars (i + c + m) true) :
    seenFrom code d node (i + c) =
      fs.map (fun f => (Pattern.matchOf d.chars (f.shift (i + c))).withoutOffsets) ++
        seenFrom code d node (i + c + m) := by
  have hstart : ∀ m' ∈ (fs.map (Pattern.Found.shift (i + c))).map (Pattern.matchOf d.chars),
      code m'.span.start = true := by
    intro m' hm'
    simp only [List.map_map, List.mem_map, Function.comp_apply] at hm'
    obtain ⟨f, hf, rfl⟩ := hm'
    obtain ⟨hlt, hstop⟩ := hfs f hf
    rw [hline.span_shift f (Nat.le_of_lt hlt) (by omega)]
    exact hcode f.start (by omega)
  rw [seenFrom, hsearch, List.map_append, codeMatches_append, codeMatches_code hstart]
  simp only [List.map_map]
  rfl

theorem matchOf_shift_eq (h₁ : LineAt d₁ i₁ row n) (h₂ : LineAt d₂ i₂ row n)
    (halike : Alike d₁.chars d₂.chars (i₁ + c) (i₂ + c) m) (hm : c + m ≤ n) {f : Pattern.Found}
    (hf : f.start < f.stop ∧ f.stop ≤ m) :
    (Pattern.matchOf d₁.chars (f.shift (i₁ + c))).withoutOffsets =
      (Pattern.matchOf d₂.chars (f.shift (i₂ + c))).withoutOffsets := by
  obtain ⟨hlt, hstop⟩ := hf
  have hspan₁ := h₁.span_shift f (Nat.le_of_lt hlt) (show c + f.stop ≤ n by omega)
  have hspan₂ := h₂.span_shift f (Nat.le_of_lt hlt) (show c + f.stop ≤ n by omega)
  have htext := congrArg (fun chars => String.ofList chars.toList)
    (halike.extract_eq f.start hstop)
  simp only [Match.withoutOffsets, hspan₁, hspan₂]
  exact congrArg (fun text => Match.mk _ 0 0 text f.groups) htext

/-- Stretches of code that are alike have the same matches. -/
theorem of_code (ht : node.IsTame) (h₁ : LineAt d₁ i₁ row n) (h₂ : LineAt d₂ i₂ row n)
    (halike : Alike d₁.chars d₂.chars (i₁ + c) (i₂ + c) m) (hm : c + m ≤ n)
    (hcode : ∀ k, k < m → code ⟨row, c + k⟩ = true)
    (h : Agree code d₁ d₂ node (i₁ + c + m) (i₂ + c + m)) :
    Agree code d₁ d₂ node (i₁ + c) (i₂ + c) := by
  obtain ⟨fs, hbounds, hsearch₁, hsearch₂⟩ := halike.search_eq ht (Nat.zero_le m)
  have hfs : ∀ f ∈ fs, f.start < f.stop ∧ f.stop ≤ m := fun f hf => (hbounds f hf).2
  have hseen₁ := seenFrom_code h₁ hm hcode hfs hsearch₁
  have hseen₂ := seenFrom_code h₂ hm hcode hfs hsearch₂
  refine ⟨?_, ?_⟩
  · rw [hseen₁, hseen₂, h.same,
      List.map_congr_left (fun f hf => matchOf_shift_eq h₁ h₂ halike hm (hfs f hf))]
  · rw [hseen₁]
    intro m' hm'
    rcases List.mem_append.1 hm' with hm' | hm'
    · obtain ⟨f, hf, rfl⟩ := List.mem_map.1 hm'
      obtain ⟨hlt, hstop⟩ := hfs f hf
      refine ⟨row, c + f.start, c + f.stop, ?_, by omega, ?_, ?_⟩
      · exact h₁.span_shift f (Nat.le_of_lt hlt) (by omega)
      · exact (Document.contains_iff_column h₁.length _).2 (by omega)
      · intro k hk hlast
        have hinside := hcode (k - c) (by omega)
        rwa [show c + (k - c) = k by omega] at hinside
    · exact h.inCode m' hm'

end Code

end Agree

/-- A run of columns of one kind. -/
theorem exists_run (f : Nat → Bool) {c n : Nat} (h : c < n) :
    ∃ m, c + (m + 1) ≤ n ∧ (∀ k, k ≤ m → f (c + k) = f c) ∧
      (c + (m + 1) = n ∨ f (c + (m + 1)) = !f c) := by
  induction n, h using Nat.le_induction with
  | base => exact ⟨0, Nat.le_refl _, fun k hk => by rw [Nat.le_zero.1 hk]; rfl, .inl rfl⟩
  | succ n hn ih =>
    obtain ⟨m, hm, hsame, hend⟩ := ih
    rcases hend with rfl | hend
    · by_cases hnext : f (c + (m + 1)) = f c
      · refine ⟨m + 1, Nat.le_refl _, ?_, .inl rfl⟩
        intro k hk
        rcases Nat.le_succ_iff.1 hk with hk | rfl
        · exact hsame k hk
        · exact hnext
      · exact ⟨m, Nat.le_succ _, hsame, .inr (Bool.eq_not.2 hnext)⟩
    · exact ⟨m, by omega, hsame, .inr hend⟩

/-- A search through a stretch of hidden text arrives at its end.  The last character before code is
a border, so no match starts at it or reaches over it. -/
theorem LineAt.search_hidden {code : Position → Bool} {d : Document} {node : Node}
    {i row n c m : Nat} (ht : node.IsTame) (h : LineAt d i row n) (hd : d.IsBordered code)
    (hstop : IsBarrier d.chars (i + n)) (hm : c + (m + 1) ≤ n)
    (hnot : ∀ k, k ≤ m → code ⟨row, c + k⟩ = false)
    (hend : c + (m + 1) = n ∨ code ⟨row, c + (m + 1)⟩ = true) :
    ∃ fs, (∀ f ∈ fs, code (Pattern.placeAt d.chars f.start).position = false) ∧
      Pattern.search node d.chars (i + c) true =
        fs ++ Pattern.search node d.chars (i + (c + (m + 1))) true := by
  have hcode : ∀ k, i + c ≤ k → k < i + (c + (m + 1)) →
      code (Pattern.placeAt d.chars k).position = false := by
    intro k hk hlt
    have hplace := h.place (k - i) (by omega)
    rw [Nat.add_sub_cancel' (by omega)] at hplace
    have hinside := hnot (k - i - c) (by omega)
    rwa [show c + (k - i - c) = k - i by omega, ← hplace] at hinside
  by_cases hn : c + (m + 1) = n
  · obtain ⟨fs, hfs, hsearch⟩ := Pattern.search_until ht hstop (show i + c ≤ i + n by omega)
    rw [hn]
    exact ⟨fs, fun f hf => hcode f.start (hfs f hf).1 (by have hlt := (hfs f hf).2; omega), hsearch⟩
  · have hlt : c + m + 1 < n := by omega
    have hborder := hd.before_code h.length hlt (hnot m (Nat.le_refl m)) (hend.resolve_left hn)
    have hbarrier := h.barrier (by omega) hborder
    obtain ⟨fs, hfs, hsearch⟩ :=
      Pattern.search_until ht hbarrier (show i + c ≤ i + (c + m) by omega)
    rw [Pattern.search_none true (Pattern.matchAt?_barrier ht hbarrier)] at hsearch
    exact ⟨fs, fun f hf => hcode f.start (hfs f hf).1 (by have hlt := (hfs f hf).2; omega), hsearch⟩

namespace SameCode

variable {code : Position → Bool} {d₁ d₂ : Document} {node : Node} {i₁ i₂ row n : Nat}

/-- Row by row: what agrees behind a row agrees from each of its columns on. -/
theorem agree_row (hs : SameCode code d₁ d₂) (ht : node.IsTame) (h₁ : LineAt d₁ i₁ row n)
    (h₂ : LineAt d₂ i₂ row n) (hstop₁ : IsBarrier d₁.chars (i₁ + n))
    (hstop₂ : IsBarrier d₂.chars (i₂ + n)) (h : Agree code d₁ d₂ node (i₁ + n) (i₂ + n))
    {c : Nat} (hc : c ≤ n) : Agree code d₁ d₂ node (i₁ + c) (i₂ + c) := by
  induction hk : n - c using Nat.strong_induction_on generalizing c with
  | h k ih =>
    by_cases hcn : c = n
    · rwa [hcn]
    -- The next columns are a run of code or of hidden text; behind it fewer columns are left.
    obtain ⟨m, hm, hsame, hend⟩ := exists_run (fun c => code ⟨row, c⟩) (show c < n by omega)
    have hrest := ih _ (by omega) hm rfl
    cases hcode : code ⟨row, c⟩ with
    | true =>
      simp only [hcode, Bool.not_true] at hsame hend
      have halike := hs.alike h₁ h₂ hstop₁ hstop₂ hm hsame hend
      rw [← Nat.add_assoc i₁, ← Nat.add_assoc i₂] at hrest
      exact .of_code ht h₁ h₂ halike hm (fun k hk => hsame k (Nat.le_of_lt_succ hk)) hrest
    | false =>
      simp only [hcode, Bool.not_false] at hsame hend
      obtain ⟨fs₁, hidden₁, hsearch₁⟩ := h₁.search_hidden ht hs.bordered₁ hstop₁ hm hsame hend
      obtain ⟨fs₂, hidden₂, hsearch₂⟩ := h₂.search_hidden ht hs.bordered₂ hstop₂ hm hsame hend
      exact hrest.of_hidden hsearch₁ hsearch₂ hidden₁ hidden₂

/-- From the same row on, a tame pattern finds the same in the code of both documents, by induction
on the rows.  Line ends hold no match, so behind a row both searches go on with the next. -/
theorem agree_layout (hs : SameCode code d₁ d₂) (ht : node.IsTame) (h₁ : Layout d₁ i₁ row)
    (h₂ : Layout d₂ i₂ row) : Agree code d₁ d₂ node i₁ i₂ := by
  induction h₁ generalizing i₂ with
  | last line₁ none₁ ending₁ =>
    cases h₂ with
    | last line₂ none₂ ending₂ =>
      obtain rfl := Option.some.inj ((hs.length₂ line₁.length).symm.trans line₂.length)
      refine hs.agree_row ht line₁ line₂ (ending₁ _ (Nat.le_refl _)) (ending₂ _ (Nat.le_refl _)) ?_
        (Nat.zero_le _)
      have hend₁ := Pattern.search_end ht ending₁
      have hend₂ := Pattern.search_end ht ending₂
      refine ⟨?_, ?_⟩
      · rw [seenFrom, seenFrom, hend₁, hend₂]
        rfl
      · rw [seenFrom, hend₁]
        simp [codeMatches]
    | more line₂ lt₂ ending₂ rest₂ =>
      obtain ⟨n', hn'⟩ := rest₂.length
      rw [← hs.length, none₁] at hn'
      cases hn'
  | more line₁ lt₁ ending₁ rest₁ ih =>
    cases h₂ with
    | last line₂ none₂ ending₂ =>
      obtain ⟨n', hn'⟩ := rest₁.length
      rw [hs.length, none₂] at hn'
      cases hn'
    | more line₂ lt₂ ending₂ rest₂ =>
      obtain rfl := Option.some.inj ((hs.length₂ line₁.length).symm.trans line₂.length)
      refine hs.agree_row ht line₁ line₂ (ending₁ _ (Nat.le_refl _) lt₁)
        (ending₂ _ (Nat.le_refl _) lt₂) ?_ (Nat.zero_le _)
      have hend₁ := Pattern.search_barriers ht (Nat.le_of_lt lt₁) ending₁
      have hend₂ := Pattern.search_barriers ht (Nat.le_of_lt lt₂) ending₂
      exact (ih rest₂).of_hidden (show _ = [] ++ _ from hend₁) (show _ = [] ++ _ from hend₂)
        (by simp) (by simp)

/-- A pattern finds the same in the code of both documents, and what it finds there is code. -/
theorem scan_eq (hs : SameCode code d₁ d₂) {p : Pattern} (ht : p.node.IsTame) :
    codeMatches code (p.scan d₁) = codeMatches code (p.scan d₂) ∧
      ∀ m ∈ codeMatches code (p.scan d₁), m.span.IsCodeIn d₁ code := by
  have hagree := hs.agree_layout ht d₁.layout d₂.layout
  rw [Pattern.scan_eq_map, Pattern.scan_eq_map, Pattern.found_eq_search, Pattern.found_eq_search]
  exact ⟨hagree.same, hagree.inCode⟩

theorem contains_eq (hs : SameCode code d₁ d₂) (p : Position) : d₁.contains p = d₂.contains p := by
  rw [Document.contains, Document.contains, hs.length]

theorem lineCount_eq (hs : SameCode code d₁ d₂) : d₁.lineCount = d₂.lineCount := by
  apply Nat.le_antisymm
  · rw [← Document.lineLength?_eq_none_iff, hs.length, Document.lineLength?_eq_none_iff]
  · rw [← Document.lineLength?_eq_none_iff, ← hs.length, Document.lineLength?_eq_none_iff]

end SameCode

end ScopeLint
