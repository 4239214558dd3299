import Mathlib.Data.List.Forall2
import ScopeLint.Proofs.BuiltIn
import ScopeLint.Proofs.Borders

/-!
# Respelled texts

Two texts that differ only in the case of letters of keywords cannot be told apart by the patterns
of the keywords, nor by the lexical classifier as far as code goes.  So both have the same lines,
the same matches at the same places, and the same places in code.  What can differ is whether a word
is a constant: a letter may equal another up to case without having the same lower case.
-/

namespace ScopeLint

open Pattern (Node CharSet)

/-! ## Letters up to case -/

namespace Text

theorem runOf?_covers {runs : List CaseRun} {n : Nat} {r : CaseRun} (h : runOf? runs n = some r) :
    r ∈ runs ∧ r.covers n = true := by
  induction runs with
  | nil => cases h
  | cons run runs ih =>
    rw [runOf?] at h
    split at h
    · cases h
    split at h
    case isTrue hcovers =>
      cases h
      exact ⟨List.mem_cons_self, hcovers⟩
    case isFalse =>
      obtain ⟨hmem, hcovers⟩ := ih h
      exact ⟨List.mem_cons_of_mem _ hmem, hcovers⟩

/-- All images of the run are codes of characters. -/
def CaseRun.IsSound (r : CaseRun) : Prop :=
  0 ≤ r.first + r.shift ∧
    (r.last + r.shift < 0xD800 ∨ 0xDFFF < r.first + r.shift ∧ r.last + r.shift < 0x110000)

instance (r : CaseRun) : Decidable r.IsSound := inferInstanceAs (Decidable (_ ∧ _))

/-- The table of case folding leads to characters only. -/
theorem foldRuns_sound : ∀ r ∈ foldRuns, r.IsSound := by decide +kernel

theorem CaseRun.IsSound.source_target {r : CaseRun} (h : r.IsSound) {n : Nat}
    (hn : r.covers n = true) : (Char.ofNat (r.target n)).toNat = r.target n ∧
      r.source (r.target n) = n := by
  simp only [covers, Bool.and_eq_true, decide_eq_true_eq] at hn
  obtain ⟨hpos, hcodes⟩ := h
  have htarget : (r.target n : Int) = n + r.shift := by
    rw [target]
    omega
  constructor
  · have hvalid : (r.target n).isValidChar := by
      unfold Nat.isValidChar
      omega
    rw [Char.ofNat, dif_pos hvalid]
    rfl
  · rw [source, htarget]
    omega

/-- The class of a character holds all characters that equal it up to case. -/
theorem mem_foldClass {c d : Char} (h : foldsAlike c d = true) : d ∈ foldClass c := by
  have himage : foldChar c = mapCase foldRuns d := beq_iff_eq.1 h
  rw [foldClass, List.mem_filter]
  refine ⟨?_, h⟩
  rw [himage, mapCase]
  cases hrun : runOf? foldRuns d.toNat with
  | none => exact List.mem_cons_self
  | some r =>
    obtain ⟨hr, hcovers⟩ := runOf?_covers hrun
    obtain ⟨hcode, hsource⟩ := (foldRuns_sound r hr).source_target hcovers
    simp only [hcode]
    refine List.mem_cons_of_mem _ (List.mem_map.2 ⟨r, ?_, ?_⟩)
    · rw [List.mem_filter, hsource]
      exact ⟨hr, hcovers⟩
    · rw [hsource, Char.ofNat_toNat]

theorem foldsAlike_of_mem {c d : Char} (h : d ∈ foldClass c) : foldsAlike c d = true :=
  (List.mem_filter.1 h).2

end Text

/-! ## Texts that a pattern cannot tell apart -/

namespace Pattern

namespace Node

/-- Does no set of the pattern hold one of the characters only? -/
def confuses (c d : Char) : Node → Bool
  | .empty | .assertion _ => true
  | .char set => set.has c == set.has d
  | .seq a b | .alt a b => a.confuses c d && b.confuses c d
  | .group _ a | .star _ a | .plus _ a | .exactly _ a | .upTo _ _ a => a.confuses c d

/-- A pattern that confuses two characters takes one as it takes the other. -/
theorem take_confused {c d : Char} {node : Node} (hs : node.Simple)
    (h : node.confuses c d = true) (m : Marks) : node.take c m = node.take d m := by
  induction hs generalizing m with
  | empty | word edge ascii => cases m <;> rfl
  | char set =>
    have hset : set.has c = set.has d := beq_iff_eq.1 h
    rw [take_char, take_char, hset]
  | seq _ _ iha ihb =>
    obtain ⟨ha, hb⟩ := Bool.and_eq_true_iff.1 h
    rw [take_seq, take_seq, iha ha, ihb hb]
  | alt _ _ iha ihb =>
    obtain ⟨ha, hb⟩ := Bool.and_eq_true_iff.1 h
    rw [take_alt, take_alt, iha ha, ihb hb]
  | group name _ ih => rw [take_group, take_group, ih h]
  | rounds set =>
    have hset : set.has c = set.has d := beq_iff_eq.1 h
    rw [take_plus, take_plus, take_char, take_char, hset]

/-- A walk asks the text for its length and for the conditions of the pattern only. -/
theorem walk_congr {node : Node} (hs : node.Simple) {text₁ text₂ : Array Char}
    (hsize : text₁.size = text₂.size)
    (h : ∀ i, ∀ a ∈ node.conditions, Assertion.holds text₁ i a = Assertion.holds text₂ i a)
    (view : Nat → Marks) (rest : Nat → Bool) (i : Nat) :
    node.walk text₁ view rest i = node.walk text₂ view rest i := by
  induction hs generalizing view rest i with
  | empty | char set | word edge ascii => rfl
  | @seq a b _ hsb iha ihb =>
    have ha := fun i => (List.forall_mem_append.1 (h i)).1
    have hb := fun i => (List.forall_mem_append.1 (h i)).2
    have hrest : (fun j => b.can (Assertion.holds text₁ j) (view j).second (rest j)) =
        (fun j => b.can (Assertion.holds text₂ j) (view j).second (rest j)) :=
      funext fun j => can_congr hsb (hb j) _ _
    rw [walk, walk, hrest, iha ha, ihb hb]
  | @alt a b hsa _ iha ihb =>
    have ha := fun i => (List.forall_mem_append.1 (h i)).1
    have hb := fun i => (List.forall_mem_append.1 (h i)).2
    rw [walk, walk, can_congr hsa (ha i), iha ha, ihb hb]
  | group name _ ih => rw [walk, walk, ih h]
  | rounds set =>
    rw [walk, walk, hsize]
    rfl

end Node

/-- Two texts whose characters the pattern confuses, index by index, and in which its conditions
hold at the same indices. -/
structure Indistinct (node : Node) (text₁ text₂ : Array Char) : Prop where
  size : text₁.size = text₂.size
  confused : ∀ (i : Nat) (c d : Char),
    text₁[i]? = some c → text₂[i]? = some d → node.confuses c d = true
  holds : ∀ i, ∀ a ∈ node.conditions, Assertion.holds text₁ i a = Assertion.holds text₂ i a

namespace Indistinct

variable {node : Node} {text₁ text₂ : Array Char}

/-- From the end of both texts back to any index the marks are the same. -/
theorem view_eq (h : Indistinct node text₁ text₂) (hs : node.Simple) (i : Nat) :
    view node text₁ i = view node text₂ i := by
  induction hm : text₁.size - i generalizing i with
  | zero =>
    have hend : text₁.size ≤ i := by omega
    rw [view_beyond hend, view_beyond (h.size ▸ hend)]
  | succ m ih =>
    have hlt₁ : i < text₁.size := by omega
    have hlt₂ : i < text₂.size := h.size ▸ hlt₁
    have h₁ := Array.getElem?_eq_getElem hlt₁
    have h₂ := Array.getElem?_eq_getElem hlt₂
    rw [Pattern.view_eq h₁, Pattern.view_eq h₂, ih (i + 1) (by omega),
      Node.sweep_congr hs (h.holds (i + 1)), Node.take_confused hs (h.confused i _ _ h₁ h₂)]

theorem matchAt?_eq (h : Indistinct node text₁ text₂) (hs : node.Simple) {i : Nat}
    (hi : i ≤ text₁.size) :
    node.matchAt? text₁ (outlooks node text₁) i = node.matchAt? text₂ (outlooks node text₂) i := by
  have hview : view node text₁ = view node text₂ := funext (h.view_eq hs)
  rw [matchAt?_eq_walk hs hi, matchAt?_eq_walk hs (h.size ▸ hi), hview,
    Node.can_congr hs (h.holds i), Node.walk_congr hs h.size h.holds]

theorem foundFrom_eq (h : Indistinct node text₁ text₂) (hs : node.Simple) (fuel i : Nat)
    (fresh : Bool) (done : List Found) :
    foundFrom node text₁ (outlooks node text₁) fuel i fresh done =
      foundFrom node text₂ (outlooks node text₂) fuel i fresh done := by
  induction fuel generalizing i fresh done with
  | zero => rfl
  | succ fuel ih =>
    rw [foundFrom, foundFrom, ← h.size]
    split
    case isTrue => rfl
    case isFalse hi =>
      rw [← h.matchAt?_eq hs (Nat.le_of_not_lt hi)]
      simp only [ih]

/-- The same matches are found in both texts. -/
theorem found_eq {p : Pattern} (h : Indistinct p.node text₁ text₂) (hs : p.node.Simple) :
    p.found text₁ = p.found text₂ := by
  rw [found, found, h.foundFrom_eq hs, h.size]

end Indistinct

end Pattern

/-! ## Respelled letters -/

/-- Is it a character of names that means nothing else to the classifier? -/
def Lexical.isPlainLetter (c : Char) : Bool :=
  isNameChar c && !c.isDigit && !isOperatorChar c &&
    !(['\n', '\r', '\x60', '\x22', '\x27', '$', '\\'].contains c)

/-- The same character, or two letters of keywords that are equal up to case. -/
def Respelled (c d : Char) : Prop :=
  c = d ∨ ∃ e ∈ BuiltIn.letters, c ∈ Text.foldClass e ∧ d ∈ Text.foldClass e

namespace BuiltIn

theorem plain_of_mem {c e : Char} (he : e ∈ letters) (hc : c ∈ Text.foldClass e) :
    Text.isWordChar c = true ∧ Lexical.isPlainLetter c = true := by
  have hall : ∀ e ∈ letters, (Text.foldClass e).all
      (fun c => Text.isWordChar c && Lexical.isPlainLetter c) = true :=
    Pattern.forall_mem_of_all (by decide +kernel)
  exact Bool.and_eq_true_iff.1 (List.all_eq_true.1 (hall e he) c hc)

theorem sequence_confuses {c d : Char} {nodes : List Node}
    (h : ∀ node ∈ nodes, node.confuses c d = true) : (Node.sequence nodes).confuses c d = true := by
  induction nodes with
  | nil => rfl
  | cons a nodes ih =>
    cases nodes with
    | nil => exact h a List.mem_cons_self
    | cons b nodes =>
      have hrest := ih (fun node hnode => h node (List.mem_cons_of_mem a hnode))
      exact Bool.and_eq_true_iff.2 ⟨h a List.mem_cons_self, hrest⟩

theorem sequence_conditions (cs : List Char) :
    (Node.sequence (cs.map (fun c => .char (.alike c)))).conditions = [] := by
  induction cs with
  | nil => rfl
  | cons c cs ih =>
    cases cs with
    | nil => rfl
    | cons d cs => exact ih

theorem keywordNode_conditions {cs : List Char} {a : Pattern.Assertion}
    (h : a ∈ (keywordNode cs).conditions) : a = .word .boundary false := by
  simpa [keywordNode, Node.conditions, sequence_conditions] using h

/-- The pattern of a keyword confuses letters of keywords that are equal up to case. -/
theorem keywordNode_confuses {c d : Char} (h : Respelled c d) (cs : List Char) :
    (keywordNode cs).confuses c d = true := by
  have hfold : Text.foldChar c = Text.foldChar d := by
    rcases h with rfl | ⟨e, -, hc, hd⟩
    · rfl
    · have hc' := beq_iff_eq.1 (Text.foldsAlike_of_mem hc)
      exact hc'.symm.trans (beq_iff_eq.1 (Text.foldsAlike_of_mem hd))
  have hletters : ∀ node ∈ cs.map (fun k => Node.char (.alike k)), node.confuses c d = true := by
    intro node hnode
    obtain ⟨k, -, rfl⟩ := List.mem_map.1 hnode
    simp only [Node.confuses, CharSet.has, Text.foldsAlike, hfold, beq_self_eq_true]
  simp only [keywordNode, Node.confuses, sequence_confuses hletters, Bool.and_self]

end BuiltIn

namespace Respelled

variable {c d : Char}

theorem isWordChar_eq (h : Respelled c d) : Text.isWordChar c = Text.isWordChar d := by
  rcases h with rfl | ⟨e, he, hc, hd⟩
  · rfl
  · rw [(BuiltIn.plain_of_mem he hc).1, (BuiltIn.plain_of_mem he hd).1]

/-- A letter that has another spelling means nothing to the classifier but a character of names. -/
theorem plain (h : Respelled c d) :
    c = d ∨ Lexical.isPlainLetter c = true ∧ Lexical.isPlainLetter d = true := by
  rcases h with rfl | ⟨e, he, hc, hd⟩
  · exact .inl rfl
  · exact .inr ⟨(BuiltIn.plain_of_mem he hc).2, (BuiltIn.plain_of_mem he hd).2⟩

/-- A character that is no letter is respelled as itself only. -/
theorem eq_iff (h : Respelled c d) {x : Char} (hx : Lexical.isPlainLetter x = false) :
    c = x ↔ d = x := by
  rcases h.plain with rfl | ⟨hc, hd⟩
  · rfl
  · constructor
    · rintro rfl
      rw [hx] at hc
      cases hc
    · rintro rfl
      rw [hx] at hd
      cases hd

theorem isNameChar_eq (h : Respelled c d) : Lexical.isNameChar c = Lexical.isNameChar d := by
  have hname : ∀ c, Lexical.isPlainLetter c = true → Lexical.isNameChar c = true := by
    intro c hc
    simp only [Lexical.isPlainLetter, Bool.and_eq_true] at hc
    exact hc.1.1.1
  rcases h.plain with rfl | ⟨hc, hd⟩
  · rfl
  · rw [hname c hc, hname d hd]

theorem step_eq (h : Respelled c d) (p : Position) : p.step c = p.step d := by
  rw [Position.step, Position.step, if_congr (h.eq_iff (by decide)) rfl rfl]

end Respelled

/-- Two texts, each a respelling of the other. -/
def RespelledText (cs ds : List Char) : Prop := List.Forall₂ Respelled cs ds

namespace RespelledText

variable {cs ds : List Char}

theorem getElem? (h : RespelledText cs ds) (i : Nat) :
    cs[i]? = none ∧ ds[i]? = none ∨
      ∃ c d, cs[i]? = some c ∧ ds[i]? = some d ∧ Respelled c d := by
  induction h generalizing i with
  | nil => exact .inl ⟨rfl, rfl⟩
  | cons hcd _ ih =>
    cases i with
    | zero => exact .inr ⟨_, _, rfl, rfl, hcd⟩
    | succ i => exact ih i

theorem of_getElem? (h : ∀ i : Nat, cs[i]? = none ∧ ds[i]? = none ∨
    ∃ c d, cs[i]? = some c ∧ ds[i]? = some d ∧ Respelled c d) : RespelledText cs ds := by
  induction cs generalizing ds with
  | nil =>
    rcases h 0 with ⟨-, hds⟩ | ⟨c, d, hc, -⟩
    · rw [List.getElem?_eq_none_iff, Nat.le_zero, List.length_eq_zero_iff] at hds
      rw [hds]
      exact .nil
    · cases hc
  | cons c cs ih =>
    cases ds with
    | nil =>
      rcases h 0 with ⟨hc, -⟩ | ⟨c, d, -, hd, -⟩
      · cases hc
      · cases hd
    | cons d ds =>
      refine .cons ?_ (ih fun i => h (i + 1))
      rcases h 0 with ⟨hc, -⟩ | ⟨_, _, hc, hd, hcd⟩
      · cases hc
      · cases hc
        cases hd
        exact hcd

theorem take (h : RespelledText cs ds) (n : Nat) : RespelledText (cs.take n) (ds.take n) :=
  List.forall₂_take n h

theorem after_eq (h : RespelledText cs ds) (p : Position) : p.after cs = p.after ds := by
  induction h generalizing p with
  | nil => rfl
  | cons hcd _ ih => rw [Position.after_cons, Position.after_cons, hcd.step_eq, ih]

theorem size_eq {text₁ text₂ : Array Char} (h : RespelledText text₁.toList text₂.toList) :
    text₁.size = text₂.size := by
  have hlength := List.Forall₂.length_eq h
  rwa [Array.length_toList, Array.length_toList] at hlength

/-- What stands at an index of both texts. -/
theorem of_some {text₁ text₂ : Array Char} (h : RespelledText text₁.toList text₂.toList) {i : Nat}
    {c d : Char} (hc : text₁[i]? = some c) (hd : text₂[i]? = some d) : Respelled c d := by
  rw [← Array.getElem?_toList] at hc hd
  rcases h.getElem? i with ⟨hnone, -⟩ | ⟨c', d', hc', hd', hcd⟩
  · rw [hnone] at hc
    cases hc
  · obtain rfl := Option.some.inj (hc.symm.trans hc')
    obtain rfl := Option.some.inj (hd.symm.trans hd')
    exact hcd

theorem isWord_eq {text₁ text₂ : Array Char} (h : RespelledText text₁.toList text₂.toList)
    (i : Nat) : Pattern.Assertion.isWord false text₁[i]? =
      Pattern.Assertion.isWord false text₂[i]? := by
  rw [← Array.getElem?_toList, ← Array.getElem?_toList]
  rcases h.getElem? i with ⟨h₁, h₂⟩ | ⟨c, d, hc, hd, hcd⟩
  · rw [h₁, h₂]
  · rw [hc, hd]
    exact hcd.isWordChar_eq

/-- Keywords are spelled at the same places of both texts. -/
theorem indistinct {text₁ text₂ : Array Char} (h : RespelledText text₁.toList text₂.toList)
    (word : List Char) : Pattern.Indistinct (BuiltIn.keywordNode word) text₁ text₂ where
  size := h.size_eq
  confused i c d hc hd := BuiltIn.keywordNode_confuses (h.of_some hc hd) word
  holds i a ha := by
    have hbefore : Pattern.Assertion.isWord false (Pattern.Assertion.before? text₁ i) =
        Pattern.Assertion.isWord false (Pattern.Assertion.before? text₂ i) := by
      cases i with
      | zero => rfl
      | succ i => exact h.isWord_eq i
    rw [BuiltIn.keywordNode_conditions ha, Pattern.Assertion.holds, Pattern.Assertion.holds,
      hbefore, h.isWord_eq]

/-- The same matches of keywords are found in both texts. -/
theorem found_eq {text₁ text₂ : Array Char} (h : RespelledText text₁.toList text₂.toList)
    (word : String) :
    (BuiltIn.keyword word).pattern.found text₁ = (BuiltIn.keyword word).pattern.found text₂ :=
  (h.indistinct word.toList).found_eq (BuiltIn.keywordNode_simple _)

theorem span_eq {text₁ text₂ : Array Char} (h : RespelledText text₁.toList text₂.toList)
    (f : Pattern.Found) : (Pattern.matchOf text₁ f).span = (Pattern.matchOf text₂ f).span := by
  have hplace : ∀ i, Position.origin.after (text₁.toList.take i) =
      Position.origin.after (text₂.toList.take i) :=
    fun i => (h.take i).after_eq _
  simp only [Pattern.matchOf, Pattern.placeAt, hplace]

end RespelledText

/-! ## Scopes of respelled lines -/

namespace Lexical

/-- The mode that follows is the same but for scopes, which are both code or both not. -/
def Mode.Resembles : Mode → Mode → Prop
  | .inside region, .inside region' => region = region'
  | .held s left next, .held s' left' next' =>
    isCode s = isCode s' ∧ left = left' ∧ next = next'
  | _, _ => False

theorem hold_resembles {s s' : Option Inner} (h : isCode s = isCode s') (count : Nat)
    (next : Region) : (hold s count next).Resembles (hold s' count next) := by
  cases count with
  | zero => rfl
  | succ left => exact ⟨h, rfl, rfl⟩

/-- What two steps come to resembles each other. -/
def SameStep (a b : Option Inner × Mode) : Prop := isCode a.1 = isCode b.1 ∧ a.2.Resembles b.2

theorem sameStep_hold {s s' : Option Inner} (h : isCode s = isCode s') (count : Nat)
    (next : Region) : SameStep (s, hold s count next) (s', hold s' count next) :=
  ⟨h, hold_resembles h count next⟩

theorem SameStep.refl (a : Option Inner × Mode) : SameStep a a := by
  obtain ⟨s, mode⟩ := a
  refine ⟨rfl, ?_⟩
  cases mode with
  | inside region => rfl
  | held scope left next => exact ⟨rfl, rfl, rfl⟩

theorem SameStep.ite {p q : Prop} [Decidable p] [Decidable q] {a b a' b' : Option Inner × Mode}
    (h : p ↔ q) (hyes : p → SameStep a a') (hno : SameStep b b') :
    SameStep (if p then a else b) (if q then a' else b') := by
  by_cases hp : p
  · rw [if_pos hp, if_pos (h.1 hp)]
    exact hyes hp
  · rwa [if_neg hp, if_neg (mt h.2 hp)]

section Respelled

variable {c d : Char} {rest rest' : List Char}

theorem head?_respelled (h : RespelledText rest rest') {x : Char} (hx : isPlainLetter x = false) :
    rest.head? = some x ↔ rest'.head? = some x := by
  cases h with
  | nil => rfl
  | cons hcd _ => exact Option.some_inj.trans ((hcd.eq_iff hx).trans Option.some_inj.symm)

theorem nameLength_respelled (h : RespelledText rest rest') :
    nameLength rest = nameLength rest' := by
  induction h with
  | nil => rfl
  | cons hcd _ ih =>
    rw [nameLength, nameLength, List.takeWhile_cons, List.takeWhile_cons, hcd.isNameChar_eq]
    split
    · exact congrArg (· + 1) ih
    · rfl

/-- A string is as long in both texts: the quote and the backslash have one spelling, and a
backslash takes the next character with it. -/
theorem quotedLength_respelled {quote : Char} (hquote : isPlainLetter quote = false)
    (h : RespelledText rest rest') : quotedLength quote rest = quotedLength quote rest' := by
  induction hn : rest.length using Nat.strong_induction_on generalizing rest rest' with
  | h n ih =>
    cases h with
    | nil => rfl
    | @cons c d rest rest' hcd hrest =>
      rw [List.length_cons] at hn
      unfold quotedLength
      refine if_congr (hcd.eq_iff hquote) rfl (if_congr (hcd.eq_iff (by decide)) ?_ ?_)
      · cases hrest with
        | nil => rfl
        | cons _ hrest =>
          rw [List.length_cons] at hn
          exact congrArg (2 + ·) (ih _ (by omega) hrest rfl)
      · exact congrArg (1 + ·) (ih _ (by omega) hrest rfl)

/-- A plain letter starts a word. -/
theorem codeStep_letter (keywords : List (List Char)) (hc : isPlainLetter c = true) :
    codeStep keywords c rest =
      (wordScope keywords (c :: rest.takeWhile isNameChar),
        hold (wordScope keywords (c :: rest.takeWhile isNameChar)) (nameLength rest) .code) := by
  have hne : ∀ x, isPlainLetter x = false → c ≠ x := by
    rintro x hx rfl
    rw [hx] at hc
    cases hc
  have hslash : c ≠ '/' := hne _ (by decide)
  have hname := hc
  simp only [isPlainLetter, Bool.and_eq_true, Bool.not_eq_true'] at hname
  obtain ⟨⟨⟨hname, hdigit⟩, hoperator⟩, -⟩ := hname
  rw [codeStep, if_neg (fun h => hslash h.1), if_neg (fun h => hslash h.1),
    if_neg (hne _ (by decide)), if_neg (hne _ (by decide)), if_neg (hne _ (by decide)),
    if_neg (fun h => hne '$' (by decide) h.1), hoperator, hdigit, hname]
  rfl

/-- In code a letter with another spelling begins or goes on a name, and any other character is the
same in both texts.  Then what it asks of the rest has the same answer. -/
theorem codeStep_respelled (keywords : List (List Char)) (hcd : Respelled c d)
    (hrest : RespelledText rest rest') :
    SameStep (codeStep keywords c rest) (codeStep keywords d rest') := by
  have hname := nameLength_respelled hrest
  rcases hcd.plain with rfl | ⟨hc, hd⟩
  · have hhead : ∀ x, isPlainLetter x = false →
        (c = '/' ∧ rest.head? = some x ↔ c = '/' ∧ rest'.head? = some x) :=
      fun x hx => and_congr_right' (head?_respelled hrest hx)
    have hquoted : ∀ x, isPlainLetter x = false → c = x →
        quotedLength c rest = quotedLength c rest' := by
      rintro x hx rfl
      exact quotedLength_respelled hx hrest
    unfold codeStep
    refine .ite (hhead '/' (by decide)) (fun _ => ?_) <|
      .ite (hhead '*' (by decide)) (fun _ => .refl _) <| .ite Iff.rfl (fun _ => .refl _) <|
      .ite Iff.rfl (fun hc => ?_) <| .ite Iff.rfl (fun hc => ?_) <|
      .ite (by rw [hname]) (fun _ => ?_) <| .ite Iff.rfl (fun _ => .refl _) <|
      .ite Iff.rfl (fun _ => ?_) <| .ite Iff.rfl (fun _ => ?_) (.refl _)
    · rw [show rest.length = rest'.length from List.Forall₂.length_eq hrest]
      exact .refl _
    · rw [hquoted _ (by decide) hc]
      exact .refl _
    · rw [hquoted _ (by decide) hc]
      exact .refl _
    · rw [hname]
      exact .refl _
    · rw [hname]
      exact .refl _
    · rw [hname]
      exact sameStep_hold ((isCode_wordScope _ _).trans (isCode_wordScope _ _).symm) _ _
  · rw [codeStep_letter keywords hc, codeStep_letter keywords hd, hname]
    exact sameStep_hold ((isCode_wordScope _ _).trans (isCode_wordScope _ _).symm) _ _

/-- One step: what resembles each other before a character does so behind it. -/
theorem step_respelled (keywords : List (List Char)) {mode mode' : Mode}
    (hmode : mode.Resembles mode') (hcd : Respelled c d) (hrest : RespelledText rest rest') :
    SameStep (step keywords mode c rest) (step keywords mode' d rest') := by
  cases mode with
  | held s left next =>
    cases mode' with
    | inside region => exact hmode.elim
    | held s' left' next' =>
      obtain ⟨hs, rfl, rfl⟩ := hmode
      exact sameStep_hold hs left next
  | inside region =>
    cases mode' with
    | held s' left' next' => exact hmode.elim
    | inside region' =>
      obtain rfl : region = region' := hmode
      cases region with
      | code => exact codeStep_respelled keywords hcd hrest
      | blockComment =>
        have hend : c = '*' ∧ rest.head? = some '/' ↔ d = '*' ∧ rest'.head? = some '/' :=
          and_congr (hcd.eq_iff (by decide)) (head?_respelled hrest (by decide))
        exact .ite hend (fun _ => .refl _) (.refl _)
      | inlineCode =>
        have hend : c = '\x60' ↔ d = '\x60' := hcd.eq_iff (by decide)
        simp only [step, hend]
        exact .refl _

/-- A run over two respelled lines. -/
theorem scopesFrom_respelled (keywords : List (List Char)) {cs ds : List Char}
    (h : RespelledText cs ds) {mode mode' : Mode} (hmode : mode.Resembles mode') :
    (scopesFrom keywords mode cs).1.map isCode = (scopesFrom keywords mode' ds).1.map isCode ∧
      (scopesFrom keywords mode cs).2 = (scopesFrom keywords mode' ds).2 := by
  induction h generalizing mode mode' with
  | nil =>
    refine ⟨rfl, ?_⟩
    cases mode <;> cases mode'
    · exact hmode
    · exact hmode.elim
    · exact hmode.elim
    · exact hmode.2.2
  | cons hcd hrest ih =>
    obtain ⟨hcode, hnext⟩ := step_respelled keywords hmode hcd hrest
    obtain ⟨hcodes, hregion⟩ := ih hnext
    exact ⟨congrArg₂ List.cons hcode hcodes, hregion⟩

/-- The same places of the two texts are code. -/
theorem scopesOf_respelled (keywords : List (List Char)) (region : Region)
    {lines lines' : List (List Char)} (h : List.Forall₂ RespelledText lines lines') :
    (scopesOf keywords region lines).map (List.map isCode) =
      (scopesOf keywords region lines').map (List.map isCode) := by
  induction h generalizing region with
  | nil => rfl
  | cons hline _ ih =>
    have hmode : (Mode.inside region).Resembles (.inside region) := rfl
    obtain ⟨hcodes, hregion⟩ := scopesFrom_respelled keywords hline hmode
    rw [scopesOf, scopesOf]
    simp only [List.map_cons, hcodes, hregion, ih]

end Respelled

/-- Whether a place is code, read off the scopes of all lines. -/
theorem isCode_innerAt (keywords : List String) (d : Document) (p : Position) :
    isCode (innerAt (scopes keywords d) p) =
      ((((scopesOf (keywords.map (fun k => Text.lowerChars k.toList)) .code
        (d.lines.toList.map (·.toList))).map (List.map isCode))[p.row]?.bind
          (·[p.column]?)).getD true) := by
  rw [innerAt, scopes, List.getElem?_toArray, List.getElem?_map, List.getElem?_map]
  cases (scopesOf (keywords.map (fun k => Text.lowerChars k.toList)) .code
      (d.lines.toList.map (·.toList)))[p.row]? with
  | none => rfl
  | some inners =>
    simp only [Option.map_some, Option.bind_some, List.getElem?_toArray, List.getElem?_map]
    cases inners[p.column]? <;> rfl

end Lexical

/-! ## Lines of respelled texts -/

namespace RespelledText

variable {cs ds : List Char}

theorem consFirst {c d : Char} (hcd : Respelled c d) {pieces pieces' : List (List Char)}
    (h : List.Forall₂ RespelledText pieces pieces') :
    List.Forall₂ RespelledText (Text.consFirst c pieces) (Text.consFirst d pieces') := by
  cases h with
  | nil => exact .cons (.cons hcd .nil) .nil
  | cons hpiece hpieces => exact .cons (.cons hcd hpiece) hpieces

/-- Separators are no letters, so both texts fall into the same pieces, but for spelling. -/
theorem splitAt {sep : Char} (hsep : Lexical.isPlainLetter sep = false) (h : RespelledText cs ds) :
    List.Forall₂ RespelledText (Text.splitAt sep cs) (Text.splitAt sep ds) := by
  induction h with
  | nil => exact .cons .nil .nil
  | @cons c d cs ds hcd _ ih =>
    by_cases hc : c = sep
    · have hd : d = sep := (hcd.eq_iff hsep).1 hc
      rw [hc, hd, Text.splitAt_sep, Text.splitAt_sep]
      exact .cons .nil ih
    · have hd : d ≠ sep := mt (hcd.eq_iff hsep).2 hc
      rw [Text.splitAt_cons hc, Text.splitAt_cons hd]
      exact consFirst hcd ih

theorem getLast? (h : RespelledText cs ds) {x : Char} (hx : Lexical.isPlainLetter x = false) :
    cs.getLast? = some x ↔ ds.getLast? = some x := by
  have hlength := List.Forall₂.length_eq h
  rw [List.getLast?_eq_getElem?, List.getLast?_eq_getElem?, hlength]
  rcases h.getElem? (ds.length - 1) with ⟨h₁, h₂⟩ | ⟨c, d, hc, hd, hcd⟩
  · rw [h₁, h₂]
  · rw [hc, hd]
    exact Option.some_inj.trans ((hcd.eq_iff hx).trans Option.some_inj.symm)

theorem dropReturn (h : RespelledText cs ds) :
    RespelledText (dropReturn cs) (ScopeLint.dropReturn ds) := by
  have hlast := h.getLast? (show Lexical.isPlainLetter '\r' = false by decide)
  have hlength := List.Forall₂.length_eq h
  rw [ScopeLint.dropReturn, ScopeLint.dropReturn]
  by_cases hreturn : cs.getLast? = some '\r'
  · rw [if_pos hreturn, if_pos (hlast.1 hreturn), List.dropLast_eq_take, List.dropLast_eq_take,
      hlength]
    exact h.take _
  · rwa [if_neg hreturn, if_neg (mt hlast.2 hreturn)]

end RespelledText

namespace Document

variable {d₁ d₂ : Document}

theorem lines_respelled (h : RespelledText d₁.chars.toList d₂.chars.toList) :
    List.Forall₂ RespelledText (d₁.lines.toList.map (·.toList))
      (d₂.lines.toList.map (·.toList)) := by
  rw [toList_lines, toList_lines, Text.lines, Text.lines, List.forall₂_map_left_iff,
    List.forall₂_map_right_iff]
  exact (h.splitAt (by decide)).imp fun _ _ hline => hline.dropReturn

theorem lineCount_respelled (h : RespelledText d₁.chars.toList d₂.chars.toList) :
    d₁.lineCount = d₂.lineCount := by
  have hlength := List.Forall₂.length_eq (lines_respelled h)
  rwa [List.length_map, List.length_map, Array.length_toList, Array.length_toList] at hlength

theorem lineLength?_respelled (h : RespelledText d₁.chars.toList d₂.chars.toList) (row : Nat) :
    d₁.lineLength? row = d₂.lineLength? row := by
  have hlengths : (d₁.lines.toList.map (·.toList)).map List.length =
      (d₂.lines.toList.map (·.toList)).map List.length := by
    rw [← List.forall₂_eq_eq_eq, List.forall₂_map_left_iff, List.forall₂_map_right_iff]
    exact (lines_respelled h).imp fun _ _ hline => List.Forall₂.length_eq hline
  have hrow := congrArg (fun lengths => lengths[row]?) hlengths
  simp only [List.getElem?_map, Array.getElem?_toList, Option.map_map] at hrow
  exact hrow

/-- The lexical classifier finds code at the same places of both. -/
theorem isTypical_respelled (keywords : List String)
    (h : RespelledText d₁.chars.toList d₂.chars.toList) (p : Position) :
    Scope.isTypical ((Lexical.classifier keywords d₁).pathAt p) =
      Scope.isTypical ((Lexical.classifier keywords d₂).pathAt p) := by
  simp only [Lexical.classifier, Lexical.ofScopes, Lexical.isTypical_pathAt, Lexical.isCode_innerAt]
  rw [Lexical.scopesOf_respelled _ _ (lines_respelled h)]

end Document

end ScopeLint
