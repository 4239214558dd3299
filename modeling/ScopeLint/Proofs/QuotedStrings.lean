import Mathlib.Data.List.DropRight
import ScopeLint.Proofs.Regions

/-!
# Where strings end

A string goes on to the first quote of its kind with an even number of backslashes before it, and
to the end of its line if there is none.  The classifier does not count backslashes: it passes over
each one together with the character behind it.  Two characters that are passed over in this way do
not change the parity of the backslashes at the end of what was read, which is why both agree.
-/

namespace ScopeLint

namespace Text

/-- The number of backslashes at the end. -/
def backslashes (cs : List Char) : Nat := (cs.rtakeWhile (· == '\\')).length

/-- Does `quote` occur with an even number of backslashes directly before it? -/
def HasUnescaped (quote : Char) (cs : List Char) : Prop :=
  ∃ before after, cs = before ++ quote :: after ∧ backslashes before % 2 = 0

theorem hasUnescaped_iff {quote : Char} {cs : List Char} : HasUnescaped quote cs ↔
    (List.range cs.length).any (fun i =>
      cs[i]? == some quote && backslashes (cs.take i) % 2 == 0) = true := by
  simp only [List.any_eq_true, List.mem_range, Bool.and_eq_true, beq_iff_eq]
  constructor
  · intro h
    obtain ⟨before, after, rfl, heven⟩ := h
    exact ⟨before.length, by simp, by simp, by rwa [List.take_left]⟩
  · intro h
    obtain ⟨i, -, hquote, heven⟩ := h
    obtain ⟨hi, rfl⟩ := List.getElem?_eq_some_iff.1 hquote
    exact ⟨cs.take i, cs.drop (i + 1), by simp, heven⟩

instance (quote : Char) (cs : List Char) : Decidable (HasUnescaped quote cs) :=
  decidable_of_iff _ hasUnescaped_iff.symm

theorem backslashes_cons (c : Char) (cs : List Char) :
    backslashes (c :: cs) =
      if backslashes cs = cs.length ∧ c = '\\' then cs.length + 1 else backslashes cs := by
  unfold backslashes List.rtakeWhile
  rw [List.reverse_cons, List.takeWhile_append, List.length_reverse, List.length_reverse,
    List.length_reverse]
  by_cases hall : (cs.reverse.takeWhile (· == '\\')).length = cs.length
  · by_cases hc : c = '\\' <;> simp [hall, hc]
  · simp [hall]

theorem backslashes_cons_of_ne {c : Char} (h : c ≠ '\\') (cs : List Char) :
    backslashes (c :: cs) = backslashes cs := by
  rw [backslashes_cons, if_neg (fun hall => h hall.2)]

/-- A backslash and the character that it escapes do not change the parity: no run of backslashes is
longer than the text. -/
theorem backslashes_escape (c : Char) (cs : List Char) :
    backslashes ('\\' :: c :: cs) % 2 = backslashes cs % 2 := by
  rw [backslashes_cons, backslashes_cons c, List.length_cons]
  by_cases hall : backslashes cs = cs.length ∧ c = '\\'
  · rw [if_pos hall, if_pos ⟨rfl, rfl⟩, hall.1]
    omega
  · rw [if_neg hall]
    split
    · next hlong =>
      have hle : backslashes cs ≤ cs.length := by
        unfold backslashes
        exact (List.rtakeWhile_suffix _ cs).length_le
      omega
    · rfl

section Unescaped

variable {quote c : Char} {cs : List Char}

theorem ne_of_not_hasUnescaped (h : ¬ HasUnescaped quote (c :: cs)) : c ≠ quote := by
  intro hc
  exact h ⟨[], cs, by rw [hc]; rfl, rfl⟩

theorem not_hasUnescaped_of_cons (h : ¬ HasUnescaped quote (c :: cs)) (hc : c ≠ '\\') :
    ¬ HasUnescaped quote cs := by
  intro hcs
  obtain ⟨before, after, rfl, heven⟩ := hcs
  exact h ⟨c :: before, after, rfl, by rwa [backslashes_cons_of_ne hc]⟩

/-- An escaped pair in front hides no quote behind it. -/
theorem not_hasUnescaped_of_escape (h : ¬ HasUnescaped quote ('\\' :: c :: cs)) :
    ¬ HasUnescaped quote cs := by
  intro hcs
  obtain ⟨before, after, rfl, heven⟩ := hcs
  exact h ⟨'\\' :: c :: before, after, rfl, by rwa [backslashes_escape]⟩

theorem not_hasUnescaped_of_append {rest : List Char} (h : ¬ HasUnescaped quote (cs ++ rest)) :
    ¬ HasUnescaped quote cs := by
  intro hcs
  obtain ⟨before, after, rfl, heven⟩ := hcs
  exact h ⟨before, after ++ rest, by simp, heven⟩

end Unescaped

end Text

namespace Lexical

open Text (backslashes HasUnescaped)

/-! ## The length of a string -/

theorem quotedLength_quote (quote : Char) (rest : List Char) :
    quotedLength quote (quote :: rest) = 1 := by
  rw [quotedLength.eq_def]
  exact if_pos rfl

theorem quotedLength_escape {quote : Char} (h : quote ≠ '\\') (c : Char) (rest : List Char) :
    quotedLength quote ('\\' :: c :: rest) = 2 + quotedLength quote rest := by
  rw [quotedLength.eq_def]
  exact (if_neg (Ne.symm h)).trans (if_pos rfl)

theorem quotedLength_char {quote c : Char} (h : c ≠ quote) (hescape : c ≠ '\\')
    (rest : List Char) : quotedLength quote (c :: rest) = 1 + quotedLength quote rest := by
  rw [quotedLength.eq_def]
  exact (if_neg h).trans (if_neg hescape)

/-- A string without an unescaped quote takes the rest of its line. -/
theorem quotedLength_open {quote : Char} {cs : List Char} (h : ¬ HasUnescaped quote cs) :
    quotedLength quote cs = cs.length := by
  fun_induction quotedLength quote cs with
  | case1 => rfl
  | case2 rest => exact absurd rfl (Text.ne_of_not_hasUnescaped h)
  | case3 _ => rfl
  | case4 c rest _ ih =>
    rw [ih (Text.not_hasUnescaped_of_escape h), List.length_cons, List.length_cons]
    omega
  | case5 c rest _ hc ih =>
    rw [ih (Text.not_hasUnescaped_of_cons h hc), List.length_cons]
    omega

/-- A string ends at the first quote with an even number of backslashes before it. -/
theorem quotedLength_closed {quote : Char} (hquote : quote ≠ '\\') {cs : List Char}
    (h : ¬ HasUnescaped quote cs) (heven : backslashes cs % 2 = 0) (rest : List Char) :
    quotedLength quote (cs ++ quote :: rest) = cs.length + 1 := by
  induction hn : cs.length using Nat.strong_induction_on generalizing cs with
  | h n ih =>
    subst hn
    cases cs with
    | nil => exact quotedLength_quote quote rest
    | cons c cs =>
      by_cases hescape : c = '\\'
      · subst hescape
        cases cs with
        | nil => exact absurd heven (by decide)
        | cons d cs =>
          rw [Text.backslashes_escape] at heven
          have hrest := ih cs.length (by simp only [List.length_cons]; omega)
            (Text.not_hasUnescaped_of_escape h) heven rfl
          rw [List.cons_append, List.cons_append, quotedLength_escape hquote, hrest,
            List.length_cons, List.length_cons]
          omega
      · rw [Text.backslashes_cons_of_ne hescape] at heven
        have hrest := ih cs.length (by simp only [List.length_cons]; omega)
          (Text.not_hasUnescaped_of_cons h hescape) heven rfl
        rw [List.cons_append, quotedLength_char (Text.ne_of_not_hasUnescaped h) hescape, hrest,
          List.length_cons]
        omega

/-! ## Strings, character by character -/

/-- The two kinds of quotes. -/
inductive Quote where
  | double
  | single
  deriving Repr, DecidableEq

namespace Quote

def char : Quote → Char
  | .double => '\x22'
  | .single => '\x27'

def text (q : Quote) : String := String.ofList [q.char]

def scope : Quote → Inner
  | .double => .doubleString
  | .single => .singleString

theorem char_ne (q : Quote) : q.char ≠ '\n' ∧ q.char ≠ '\r' ∧ q.char ≠ '\\' := by
  cases q <;> decide

end Quote

theorem codeStep_quote (words : List (List Char)) (q : Quote) (rest : List Char) :
    codeStep words q.char rest =
      (some q.scope, hold (some q.scope) (quotedLength q.char rest) .code) := by
  cases q <;> rfl

variable {words : List (List Char)} {body rest : List Char} {scope : Inner}

/-- The character behind a place of the body stands in the same line. -/
theorem head?_ne_feed {q : Char} (hq : q ≠ '\n') (h : '\n' ∉ body) (rest : List Char) :
    (body ++ q :: rest).head? ≠ some '\n' := by
  cases body with
  | nil => simpa using hq
  | cons c body =>
    intro hhead
    exact h (Option.some.inj hhead ▸ List.mem_cons_self)

theorem lines_behind {q : Char} (hq : q ≠ '\n' ∧ q ≠ '\r') (h : '\n' ∉ body)
    (rest : List Char) :
    ∃ line more, Text.lines rest = line :: more ∧
      Text.lines (body ++ q :: rest) = (body ++ q :: line) :: more := by
  induction body with
  | nil => exact Text.lines_cons hq.1 (fun heq => absurd heq hq.2)
  | cons c body ih =>
    obtain ⟨hc, hbody⟩ : '\n' ≠ c ∧ '\n' ∉ body := by simpa using h
    obtain ⟨line, more, hrest, hlines⟩ := ih hbody
    obtain ⟨line', more', hlines', hcons⟩ := Text.lines_cons (Ne.symm hc)
      (fun _ => ⟨List.append_ne_nil_of_right_ne_nil _ (List.cons_ne_nil _ _),
        head?_ne_feed hq.1 hbody rest⟩)
    obtain ⟨rfl, rfl⟩ := List.cons.inj (hlines.symm.trans hlines')
    exact ⟨line, more, hrest, hcons⟩

/-- A scope that is held up to a quote covers what stands before it. -/
theorem closes_hold {q : Char} (hq : q ≠ '\n' ∧ q ≠ '\r') (h : '\n' ∉ body) :
    Closes words (hold (some scope) (body.length + 1) .code) (body ++ [q]) rest scope := by
  induction body with
  | nil => exact Closes.nil.sign hq (fun _ _ _ => rfl)
  | cons c body ih =>
    obtain ⟨hc, hbody⟩ : '\n' ≠ c ∧ '\n' ∉ body := by simpa using h
    apply (ih hbody).char (Ne.symm hc)
    · intro _
      rw [List.append_assoc]
      exact ⟨by simp, head?_ne_feed hq.1 hbody rest⟩
    · intro line more _
      rfl

/-- A string ends at its quote, where the body has no unescaped one and an even number of
backslashes at its end. -/
theorem closes_string (q : Quote) (h : '\n' ∉ body) (hbody : ¬ HasUnescaped q.char body)
    (heven : backslashes body % 2 = 0) :
    Closes words (.inside .code) ([q.char] ++ (body ++ [q.char])) rest q.scope := by
  obtain ⟨hfeed, hreturn, hescape⟩ := q.char_ne
  apply (closes_hold ⟨hfeed, hreturn⟩ h).sign ⟨hfeed, hreturn⟩
  intro line more hlines
  obtain ⟨line', more', -, hread⟩ := lines_behind ⟨hfeed, hreturn⟩ h rest
  rw [List.append_assoc, List.singleton_append] at hlines
  obtain ⟨rfl, -⟩ := List.cons.inj (hlines.symm.trans hread)
  rw [step, codeStep_quote, quotedLength_closed hescape hbody heven]

/-- A string without its quote ends with its line, whatever stands at the end. -/
theorem closes_unterminated (q : Quote) (h : '\n' ∉ body) (hbody : ¬ HasUnescaped q.char body) :
    Closes words (.inside .code) ([q.char] ++ (body ++ ['\n'])) rest q.scope := by
  have hlines : Text.lines (body ++ ['\n'] ++ rest) = dropReturn body :: Text.lines rest := by
    rw [List.append_assoc, List.singleton_append, Text.lines, Text.splitAt_line_sep h]
    rfl
  have hvisible : ¬ HasUnescaped q.char (dropReturn body) := by
    obtain ⟨ending, hending, -⟩ := exists_return body
    rw [hending] at hbody
    exact Text.not_hasUnescaped_of_append hbody
  apply (closes_held h hlines).sign ⟨q.char_ne.1, q.char_ne.2.1⟩
  intro line more hlines'
  obtain ⟨rfl, -⟩ := List.cons.inj (hlines.symm.trans hlines')
  rw [step, codeStep_quote, quotedLength_open hvisible]

/-- Strings end at the first unescaped quote.  For both kinds of quotes and every body of one line
without an unescaped quote: if an even number of backslashes stands at the end of the body, the
characters from the quote before the body to the one behind it have the scope of the string, and all
places behind have the scopes that they have alone, shifted along the row.  If a line feed stands
behind the body in place of the quote, all of the first row has the scope of the string, and the
rows behind it have the scopes that they have alone. -/
theorem strings_end_at_unescaped_quotes (keywords : List String) (q : Quote) (body rest : String)
    (hline : '\n' ∉ body.toList) (hbody : ¬ HasUnescaped q.char body.toList) :
    (backslashes body.toList % 2 = 0 →
      Covers keywords (q.text ++ body ++ q.text) rest q.scope ∧
        Restarts keywords (q.text ++ body ++ q.text) rest ∧
        Position.origin.after (q.text ++ body ++ q.text).toList = ⟨0, body.length + 2⟩) ∧
    Covers keywords (q.text ++ body ++ "\n") rest q.scope ∧
      Restarts keywords (q.text ++ body ++ "\n") rest ∧
      Position.origin.after (q.text ++ body ++ "\n").toList = ⟨1, 0⟩ := by
  have hfront : ∀ closer : String, (q.text ++ body ++ closer).toList =
      [q.char] ++ (body.toList ++ closer.toList) := by
    intro closer
    rw [String.toList_append, String.toList_append, Quote.text, String.toList_ofList,
      List.append_assoc]
  have hopening : '\n' ∉ [q.char] ++ body.toList := by
    rw [List.mem_append, List.mem_singleton]
    exact not_or.2 ⟨Ne.symm q.char_ne.1, hline⟩
  constructor
  · intro heven
    have hcloses : Closes (lowered keywords) (.inside .code) (q.text ++ body ++ q.text).toList
        rest.toList q.scope := by
      rw [hfront, Quote.text, String.toList_ofList]
      exact closes_string q hline hbody heven
    refine ⟨hcloses.covers, hcloses.restarts, ?_⟩
    have hwhole : '\n' ∉ [q.char] ++ (body.toList ++ [q.char]) := by
      rw [← List.append_assoc, List.mem_append, List.mem_singleton]
      exact not_or.2 ⟨hopening, Ne.symm q.char_ne.1⟩
    rw [hfront, Quote.text, String.toList_ofList, Position.after_line _ hwhole,
      ← String.length_toList]
    simp only [Position.origin, List.length_append, List.length_singleton, Position.mk.injEq,
      true_and]
    omega
  · have hcloses : Closes (lowered keywords) (.inside .code) (q.text ++ body ++ "\n").toList
        rest.toList q.scope := by
      rw [hfront]
      exact closes_unterminated q hline hbody
    refine ⟨hcloses.covers, hcloses.restarts, ?_⟩
    rw [hfront, ← List.append_assoc, Position.after_append, Position.after_line _ hopening]
    rfl

/-- A string with an escaped quote and an escaped backslash at its end, which a keyword follows, and
one that ends in a single backslash and so with its line. -/
theorem strings_end_at_unescaped_quotes_escaped :
    (¬ HasUnescaped '\x22' "a\\\x22\\\\".toList ∧ backslashes "a\\\x22\\\\".toList % 2 = 0 ∧
      Covers ["eoi"] ("\x22" ++ "a\\\x22\\\\" ++ "\x22") "EOI" .doubleString ∧
      (classifier ["eoi"] (.ofString ("\x22" ++ "a\\\x22\\\\" ++ "\x22" ++ "EOI"))).pathAt ⟨0, 7⟩ =
        [Scope.root, Inner.name .constant]) ∧
    ¬ HasUnescaped '\x27' "\\\x27\\\r".toList ∧
      Covers [] ("\x27" ++ "\\\x27\\\r" ++ "\n") "\x27" .singleString ∧
      Restarts [] ("\x27" ++ "\\\x27\\\r" ++ "\n") "\x27" := by
  have hdouble : ¬ HasUnescaped '\x22' "a\\\x22\\\\".toList := by decide +kernel
  have hsingle : ¬ HasUnescaped '\x27' "\\\x27\\\r".toList := by decide +kernel
  have heven : backslashes "a\\\x22\\\\".toList % 2 = 0 := by decide +kernel
  obtain ⟨hclosed, -⟩ := strings_end_at_unescaped_quotes ["eoi"] .double "a\\\x22\\\\" "EOI"
    (by decide) hdouble
  obtain ⟨-, hcovers, hrestarts, -⟩ := strings_end_at_unescaped_quotes [] .single
    "\\\x27\\\r" "\x27" (by decide) hsingle
  obtain ⟨hcovers', hrestarts', hplace⟩ := hclosed heven
  have hkeyword : (classifier ["eoi"] (.ofString "EOI")).pathAt ⟨0, 0⟩ =
      [Scope.root, Inner.name .constant] := by
    decide +kernel
  have hbehind := (hrestarts' ⟨0, 0⟩).trans hkeyword
  rw [hplace] at hbehind
  exact ⟨⟨hdouble, heven, hcovers', hbehind⟩, hsingle, hcovers, hrestarts⟩

end Lexical

end ScopeLint
