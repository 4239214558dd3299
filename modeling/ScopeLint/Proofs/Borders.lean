import Mathlib.Data.List.Chain
import ScopeLint.Classifier.Lexical
import ScopeLint.Proofs.Layout

/-!
# Where code meets other text

The lexical classifier changes between code and comments, strings or inline code only at quotes,
slashes and line ends.  Within a row, the first character of such a region after code and its last
one before code is a quote, a backtick or a slash.
-/

namespace ScopeLint

open Pattern (borders)

/-- May two characters stand next to each other, of which each is code or not? -/
def Meets (left right : Bool × Char) : Prop :=
  (left.1 = true → right.1 = false → right.2 ∈ borders) ∧
    (left.1 = false → right.1 = true → left.2 ∈ borders)

theorem meets_of_eq {left right : Bool × Char} (h : left.1 = right.1) : Meets left right := by
  constructor
  · intro hcode hnot
    rw [h, hnot] at hcode
    cases hcode
  · intro hnot hcode
    rw [h, hcode] at hnot
    cases hnot

/-- Do code and other text meet at borders only, within each row? -/
def Document.IsBordered (d : Document) (code : Position → Bool) : Prop :=
  ∀ row column a b, d.charAt? ⟨row, column⟩ = some a → d.charAt? ⟨row, column + 1⟩ = some b →
    Meets (code ⟨row, column⟩, a) (code ⟨row, column + 1⟩, b)

namespace Document.IsBordered

variable {d : Document} {code : Position → Bool} {row n c : Nat}

theorem after_code (h : d.IsBordered code) (hn : d.lineLength? row = some n) (hc : c + 1 < n)
    (hcode : code ⟨row, c⟩ = true) (hnot : code ⟨row, c + 1⟩ = false) :
    ∃ b ∈ borders, d.charAt? ⟨row, c + 1⟩ = some b := by
  obtain ⟨a, ha⟩ := exists_charAt? hn (Nat.lt_of_succ_lt hc)
  obtain ⟨b, hb⟩ := exists_charAt? hn hc
  exact ⟨b, (h row c a b ha hb).1 hcode hnot, hb⟩

theorem before_code (h : d.IsBordered code) (hn : d.lineLength? row = some n) (hc : c + 1 < n)
    (hnot : code ⟨row, c⟩ = false) (hcode : code ⟨row, c + 1⟩ = true) :
    ∃ a ∈ borders, d.charAt? ⟨row, c⟩ = some a := by
  obtain ⟨a, ha⟩ := exists_charAt? hn (Nat.lt_of_succ_lt hc)
  obtain ⟨b, hb⟩ := exists_charAt? hn hc
  exact ⟨a, (h row c a b ha hb).2 hnot hcode, ha⟩

theorem congr {code' : Position → Bool} (h : d.IsBordered code')
    (heq : ∀ p, d.contains p = true → code p = code' p) : d.IsBordered code := by
  intro row column a b ha hb
  rw [heq _ (contains_of_charAt? ha), heq _ (contains_of_charAt? hb)]
  exact h row column a b ha hb

end Document.IsBordered

namespace Lexical

/-- Does a scope of the classifier leave the place open to linting? -/
def isCode : Option Inner → Bool
  | none | some .operator | some .constant | some .number | some .variable => true
  | some .lineComment | some .blockComment | some .doubleString | some .singleString
  | some .inlineCode => false

theorem isTypical_pathAt (table : Array (Array (Option Inner))) (p : Position) :
    Scope.isTypical (pathAt table p) = isCode (innerAt table p) := by
  have hname : ∀ scope : Inner,
      Scope.isTypical [Scope.root, scope.name] = isCode (some scope) := by
    intro scope
    cases scope <;> decide
  rw [pathAt]
  cases innerAt table p with
  | none => decide
  | some scope => exact hname scope

/-- What the mode can be behind a character `a` of scope `s`, with `cs` to come. -/
def Follows (s : Option Inner) (a : Char) (cs : List Char) : Mode → Prop
  | .inside .code => cs = [] ∨ isCode s = true ∨ a ∈ borders
  | .inside .blockComment | .inside .inlineCode => isCode s = false
  | .held scope left next =>
    scope = s ∧ if isCode s then next = .code
      else next = .code → left + 1 < cs.length → ∃ c ∈ borders, cs[left]? = some c

/-- A string that ends before its line does ends with its quote. -/
theorem quotedLength_spec (quote : Char) {cs : List Char} (h : cs ≠ []) :
    ∃ k, quotedLength quote cs = k + 1 ∧ (k + 1 < cs.length → cs[k]? = some quote) := by
  fun_induction quotedLength quote cs with
  | case1 => exact absurd rfl h
  | case2 rest => exact ⟨0, rfl, fun _ => rfl⟩
  | case3 hq => exact ⟨0, rfl, by simp⟩
  | case4 d rest hq ih =>
    cases rest with
    | nil => exact ⟨1, rfl, by simp⟩
    | cons e rest =>
      obtain ⟨k, hk, hquote⟩ := ih (by simp)
      exact ⟨k + 2, by omega, fun hlt => hquote (by simpa using hlt)⟩
  | case5 c rest hq hb ih =>
    cases rest with
    | nil => exact ⟨0, rfl, by simp⟩
    | cons e rest =>
      obtain ⟨k, hk, hquote⟩ := ih (by simp)
      exact ⟨k + 1, by omega, fun hlt => hquote (by simpa using hlt)⟩

/-- A string is held up to its quote or to the end of the line. -/
theorem follows_quoted {scope : Inner} (hscope : isCode (some scope) = false) {quote : Char}
    (hquote : quote ∈ borders) (rest : List Char) :
    Follows (some scope) quote rest (hold (some scope) (quotedLength quote rest) .code) := by
  cases rest with
  | nil => exact .inl rfl
  | cons c rest =>
    obtain ⟨k, hk, hend⟩ := quotedLength_spec quote (List.cons_ne_nil c rest)
    rw [hk, hold]
    refine ⟨rfl, ?_⟩
    rw [hscope]
    exact fun _ hlt => ⟨quote, hquote, hend hlt⟩

/-- A lexeme of code is held up to more code. -/
theorem follows_code {scope : Option Inner} (hscope : isCode scope = true) (c : Char)
    (rest : List Char) (count : Nat) : Follows scope c rest (hold scope count .code) := by
  cases count with
  | zero => exact .inr (.inl hscope)
  | succ left =>
    refine ⟨rfl, ?_⟩
    rw [hscope]
    rfl

theorem isCode_wordScope (keywords : List (List Char)) (word : List Char) :
    isCode (wordScope keywords word) = true := by
  rw [wordScope]
  split <;> rfl

/-- The step of code.  A character that is no code is a border and begins a lexeme that is held: a
line comment up to the end of the line, and a string up to its quote. -/
theorem codeStep_follows (keywords : List (List Char)) (c : Char) (rest : List Char) :
    Follows (codeStep keywords c rest).1 c rest (codeStep keywords c rest).2 ∧
      (isCode (codeStep keywords c rest).1 = false → c ∈ borders) := by
  rw [codeStep]
  split
  case isTrue h =>
    refine ⟨?_, fun _ => by rw [h.1]; decide⟩
    cases rest with
    | nil => exact .inl rfl
    | cons d rest => exact ⟨rfl, fun _ hlt => absurd hlt (by simp)⟩
  split
  case isTrue h => exact ⟨⟨rfl, fun hcode => nomatch hcode⟩, fun _ => by rw [h.1]; decide⟩
  split
  case isTrue h => exact ⟨rfl, fun _ => by rw [h]; decide⟩
  split
  case isTrue h => exact ⟨follows_quoted rfl (by rw [h]; decide) rest, fun _ => by rw [h]; decide⟩
  split
  case isTrue h => exact ⟨follows_quoted rfl (by rw [h]; decide) rest, fun _ => by rw [h]; decide⟩
  -- All other scopes are code.
  split
  · exact ⟨follows_code rfl c rest _, fun hcode => nomatch hcode⟩
  split
  · exact ⟨.inr (.inl rfl), fun hcode => nomatch hcode⟩
  split
  · exact ⟨follows_code rfl c rest _, fun hcode => nomatch hcode⟩
  split
  · have hword := isCode_wordScope keywords (c :: rest.takeWhile isNameChar)
    refine ⟨follows_code hword c rest _, fun hcode => ?_⟩
    rw [hword] at hcode
    cases hcode
  · exact ⟨.inr (.inl rfl), fun hcode => nomatch hcode⟩

/-- The step of a region; the slash that ends a comment is held. -/
theorem inside_follows (keywords : List (List Char)) (region : Region) (c : Char)
    (rest : List Char) :
    Follows (step keywords (.inside region) c rest).1 c rest
      (step keywords (.inside region) c rest).2 := by
  cases region with
  | code => exact (codeStep_follows keywords c rest).1
  | blockComment =>
    rw [step]
    split
    case isTrue h =>
      refine ⟨rfl, fun _ _ => ⟨'/', by decide, ?_⟩⟩
      rw [← List.head?_eq_getElem?, h.2]
    case isFalse => exact rfl
  | inlineCode =>
    rw [step]
    split
    case isTrue h => exact .inr (.inr (by rw [h]; decide))
    case isFalse => exact rfl

/-- The step of a lexeme. -/
theorem hold_follows {s : Option Inner} {a c : Char} {rest : List Char} {left : Nat}
    {next : Region} (h : Follows s a (c :: rest) (.held s left next)) :
    Follows s c rest (hold s left next) := by
  obtain ⟨-, hnext⟩ := h
  cases hs : isCode s with
  | true =>
    rw [hs] at hnext
    obtain rfl : next = .code := hnext
    exact follows_code hs c rest left
  | false =>
    rw [hs] at hnext
    replace hnext : next = .code → left + 1 < (c :: rest).length →
      ∃ b ∈ borders, (c :: rest)[left]? = some b := hnext
    cases left with
    | zero =>
      cases next with
      | blockComment => exact hs
      | inlineCode => exact hs
      | code =>
        cases rest with
        | nil => exact .inl rfl
        | cons d rest =>
          obtain ⟨b, hb, hc⟩ := hnext rfl (by simp)
          obtain rfl : c = b := Option.some.inj hc
          exact .inr (.inr hb)
    | succ left =>
      refine ⟨rfl, ?_⟩
      rw [hs]
      intro hcode hlt
      exact hnext hcode (by simpa using hlt)

/-- One step: the new character may stand where it does, and the mode fits it. -/
theorem step_follows (keywords : List (List Char)) {s : Option Inner} {a c : Char}
    {rest : List Char} {mode : Mode} (h : Follows s a (c :: rest) mode) :
    Meets (isCode s, a) (isCode (step keywords mode c rest).1, c) ∧
      Follows (step keywords mode c rest).1 c rest (step keywords mode c rest).2 := by
  cases mode with
  | held scope left next =>
    obtain rfl := h.1
    exact ⟨meets_of_eq rfl, hold_follows h⟩
  | inside region =>
    refine ⟨?_, inside_follows keywords region c rest⟩
    cases region with
    | code =>
      refine ⟨fun _ hnot => (codeStep_follows keywords c rest).2 hnot, ?_⟩
      intro hnot _
      rcases h with hnil | hcode | hborder
      · cases hnil
      · exact absurd (hcode.symm.trans hnot) (by decide)
      · exact hborder
    | blockComment =>
      refine meets_of_eq (Eq.trans h ?_)
      rw [step]
      split <;> rfl
    | inlineCode => exact meets_of_eq h

/-- A run over a line: neighbours may stand where they do. -/
theorem scopesFrom_chain (keywords : List (List Char)) {s : Option Inner} {a : Char}
    {cs : List Char} {mode : Mode} (h : Follows s a cs mode) :
    List.IsChain Meets ((isCode s, a) :: ((scopesFrom keywords mode cs).1.map isCode).zip cs) := by
  induction cs generalizing s a mode with
  | nil => exact List.isChain_singleton _
  | cons c rest ih =>
    obtain ⟨hmeets, hnext⟩ := step_follows keywords h
    exact List.isChain_cons_cons.2 ⟨hmeets, ih hnext⟩

/-- Along a line code and other text meet at borders only, whatever region it starts in. -/
theorem line_chain (keywords : List (List Char)) (region : Region) (line : List Char) :
    List.IsChain Meets (((scopesFrom keywords (.inside region) line).1.map isCode).zip line) := by
  cases line with
  | nil => exact List.IsChain.nil
  | cons c rest => exact scopesFrom_chain keywords (inside_follows keywords region c rest)

theorem scopesFrom_length (keywords : List (List Char)) (mode : Mode) (cs : List Char) :
    (scopesFrom keywords mode cs).1.length = cs.length := by
  induction cs generalizing mode with
  | nil => rfl
  | cons c rest ih => exact congrArg (· + 1) (ih _)

/-- The scopes of a row are those of its line, read from some region on. -/
theorem scopesOf_row (keywords : List (List Char)) (region : Region) {lines : List (List Char)}
    {row : Nat} {line : List Char} (h : lines[row]? = some line) :
    ∃ region', (scopesOf keywords region lines)[row]? =
      some (scopesFrom keywords (.inside region') line).1 := by
  induction lines generalizing region row with
  | nil => cases h
  | cons first lines ih =>
    cases row with
    | zero =>
      obtain rfl : first = line := Option.some.inj h
      exact ⟨region, rfl⟩
    | succ row => exact ih _ h

/-- The scopes of a row, column by column. -/
theorem innerAt_row (keywords : List String) {d : Document} {row : Nat} {line : Array Char}
    (h : d.line? row = some line) :
    ∃ region, ∀ column, innerAt (scopes keywords d) ⟨row, column⟩ =
      ((scopesFrom (keywords.map (fun k => Text.lowerChars k.toList)) (.inside region)
        line.toList).1[column]?).getD none := by
  have hline : (d.lines.toList.map (·.toList))[row]? = some line.toList := by
    rw [List.getElem?_map, Array.getElem?_toList]
    exact congrArg (Option.map (·.toList)) h
  obtain ⟨region, hregion⟩ := scopesOf_row _ .code hline
  refine ⟨region, fun column => ?_⟩
  have hrow : (scopes keywords d)[row]? = some (scopesFrom
      (keywords.map (fun k => Text.lowerChars k.toList)) (.inside region) line.toList).1.toArray := by
    rw [scopes, List.getElem?_toArray, List.getElem?_map, hregion]
    rfl
  simp only [innerAt, hrow, List.getElem?_toArray]

/-- The lexical classifier changes between code and other text at borders only. -/
theorem classifier_bordered (keywords : List String) (d : Document) :
    d.IsBordered (fun p => Scope.isTypical ((classifier keywords d).pathAt p)) := by
  intro row column a b ha hb
  rw [Document.charAt?] at ha hb
  cases hline : d.line? row with
  | none => rw [hline] at ha; cases ha
  | some line =>
    rw [hline] at ha hb
    obtain ⟨region, hinner⟩ := innerAt_row keywords hline
    generalize keywords.map (fun k => Text.lowerChars k.toList) = words at hinner
    obtain ⟨hb', rfl⟩ := Array.getElem?_eq_some_iff.1 hb
    obtain ⟨ha', rfl⟩ := Array.getElem?_eq_some_iff.1 ha
    have hlength := scopesFrom_length words (.inside region) line.toList
    rw [Array.length_toList] at hlength
    have hmeets := List.isChain_iff_getElem.1 (line_chain words region line.toList) column
      (by rw [List.length_zip, List.length_map, hlength, Array.length_toList, Nat.min_self]
          exact hb')
    rw [List.getElem_zip, List.getElem_zip, List.getElem_map, List.getElem_map] at hmeets
    simp only [classifier, ofScopes, isTypical_pathAt, hinner]
    rw [List.getElem?_eq_getElem (by rw [hlength]; exact ha'),
      List.getElem?_eq_getElem (by rw [hlength]; exact hb')]
    exact hmeets

end Lexical

end ScopeLint
