import ScopeLint.Proofs.Regions
import ScopeLint.Proofs.Undisturbed

/-!
# Words are not split

The classifier takes a name, a number or a variable at its first character and holds its scope over
the characters that follow.  Where it stops may be anywhere in a line, so it has to be shown that it
never stops, or enters code, in the middle of a word.  `Awaits` says so of one place in a line, and
is carried from each character to the next one.
-/

namespace ScopeLint

namespace Lexical

/-! ## What one step in code can do -/

/-- Is the character neither part of a name nor the sigil of a variable? -/
def isBreak (c : Char) : Bool := !isNameChar c && c != '$'

theorem isBreak_iff {c : Char} : isBreak c = true ↔ isNameChar c = false ∧ c ≠ '$' := by
  simp [isBreak]

theorem isBreak_border {c : Char} (h : c ∈ Pattern.borders) : isBreak c = true := by
  have hall : ∀ c ∈ Pattern.borders, isBreak c = true :=
    Pattern.forall_mem_of_all (by decide +kernel)
  exact hall c h

theorem isBreak_operator {c : Char} (h : isOperatorChar c = true) : isBreak c = true := by
  rw [isBreak_iff]
  refine ⟨isNameChar_of_isOperatorChar h, fun hc => ?_⟩
  rw [hc] at h
  exact absurd h (by decide)

theorem nameLength_name {c : Char} (h : isNameChar c = true) (rest : List Char) :
    nameLength (c :: rest) = nameLength rest + 1 := by
  rw [nameLength, List.takeWhile_cons_of_pos h]
  rfl

theorem nameLength_sign {c : Char} (h : isNameChar c = false) (rest : List Char) :
    nameLength (c :: rest) = 0 := by
  rw [nameLength, List.takeWhile_cons_of_neg (by rw [h]; decide)]
  rfl

/-- The scope that a name takes from its first character `c`, in code. -/
def nameScope (words : List (List Char)) (c : Char) (rest : List Char) : Option Inner :=
  if c.isDigit then some .number else wordScope words (c :: rest.takeWhile isNameChar)

theorem isCode_nameScope (words : List (List Char)) (c : Char) (rest : List Char) :
    isCode (nameScope words c rest) = true := by
  unfold nameScope
  split
  · rfl
  · exact isCode_wordScope words _

/-- A lexeme that is no code does not end at a name or at the sigil of a variable, unless the line
ends with it. -/
def Hides (cs : List Char) : Mode → Prop
  | .inside .code => cs = []
  | .inside .blockComment | .inside .inlineCode => True
  | .held s left _ =>
    isCode s = false ∧ (left + 1 < cs.length → ∃ c, cs[left]? = some c ∧ isBreak c = true)

/-- What the step of a character `c` in code can be, with `rest` behind it. -/
inductive CodeStep (words : List (List Char)) (c : Char) (rest : List Char) :
    Option Inner × Mode → Prop where
  | hidden {s : Option Inner} {next : Mode} (hs : isCode s = false) (hc : isBreak c = true)
      (hnext : Hides rest next) : CodeStep words c rest (s, next)
  | name (hc : isNameChar c = true) : CodeStep words c rest
      (nameScope words c rest, hold (nameScope words c rest) (nameLength rest) .code)
  | sigil (hc : c = '$') (hname : 0 < nameLength rest) : CodeStep words c rest
      (some .variable, hold (some .variable) (nameLength rest) .code)
  | operator (hc : isOperatorChar c = true) : CodeStep words c rest
      (some .operator, .inside .code)
  | plain (hc : isNameChar c = false) (hoperator : isOperatorChar c = false)
      (hsign : c = '$' → nameLength rest = 0) : CodeStep words c rest (none, .inside .code)

/-- A string ends with its quote or with the line, and neither begins a name. -/
theorem hides_quoted {s : Inner} (hs : isCode (some s) = false) {quote : Char}
    (hquote : quote ∈ Pattern.borders) (rest : List Char) :
    Hides rest (hold (some s) (quotedLength quote rest) .code) := by
  cases rest with
  | nil => rfl
  | cons d rest =>
    obtain ⟨k, hk, hend⟩ := quotedLength_spec quote (List.cons_ne_nil d rest)
    rw [hk]
    exact ⟨hs, fun hlt => ⟨quote, hend hlt, isBreak_border hquote⟩⟩

/-- All that the step of code can come to, sign by sign; a line comment takes all of the line. -/
theorem codeStep_cases (words : List (List Char)) (c : Char) (rest : List Char) :
    CodeStep words c rest (codeStep words c rest) := by
  unfold codeStep
  split
  case isTrue h =>
    refine .hidden rfl (isBreak_border (by rw [h.1]; decide)) ?_
    cases rest with
    | nil => rfl
    | cons d rest => exact ⟨rfl, fun hlt => absurd hlt (Nat.lt_irrefl _)⟩
  split
  case isTrue h =>
    refine .hidden rfl (isBreak_border (by rw [h.1]; decide)) ⟨rfl, fun _ => ⟨'*', ?_, ?_⟩⟩
    · rw [← List.head?_eq_getElem?, h.2]
    · exact isBreak_operator (by decide)
  split
  case isTrue h => exact .hidden rfl (isBreak_border (by rw [h]; decide)) trivial
  split
  case isTrue h =>
    have hquote : c ∈ Pattern.borders := by rw [h]; decide
    exact .hidden rfl (isBreak_border hquote) (hides_quoted rfl hquote rest)
  split
  case isTrue h =>
    have hquote : c ∈ Pattern.borders := by rw [h]; decide
    exact .hidden rfl (isBreak_border hquote) (hides_quoted rfl hquote rest)
  split
  case isTrue h => exact .sigil h.1 h.2
  split
  case isTrue h => exact .operator h
  rename_i hsign hoperator
  have hname : isNameChar c = true → CodeStep words c rest
      (nameScope words c rest, hold (nameScope words c rest) (nameLength rest) .code) := .name
  unfold nameScope at hname
  split
  case isTrue hdigit =>
    rw [if_pos hdigit] at hname
    exact hname (isNameChar_of_isDigit hdigit)
  rename_i hdigit
  rw [if_neg hdigit] at hname
  split
  case isTrue h => exact hname h
  case isFalse h =>
    refine .plain (Bool.eq_false_iff.2 h) (Bool.eq_false_iff.2 hoperator) fun hc => ?_
    by_contra hpos
    exact hsign ⟨hc, Nat.pos_of_ne_zero hpos⟩

/-! ## What is awaited at a place of a line -/

/-- What the mode can be behind the character `before`, with `cs` to come: a name does not begin
behind one of its characters or behind the sigil of a variable, what is held of code ends where the
name ends, and other text ends at neither. -/
def Awaits (before : Option Char) (cs : List Char) : Mode → Prop
  | .inside .code => nameLength cs = 0 ∨ ∀ b, before = some b → isBreak b = true
  | .inside .blockComment | .inside .inlineCode => True
  | .held s left next =>
    (isCode s = true → left + 1 = nameLength cs ∧ next = .code ∧
      ∃ b, before = some b ∧ (isNameChar b = true ∨ b = '$' ∧ s = some .variable)) ∧
    (isCode s = false →
      left + 1 < cs.length → ∃ c, cs[left]? = some c ∧ isBreak c = true)

variable {words : List (List Char)} {before : Option Char} {c d : Char} {rest : List Char}
  {mode : Mode}

theorem Hides.awaits {cs : List Char} (h : Hides cs mode) : Awaits before cs mode := by
  cases mode with
  | inside region =>
    cases region with
    | code =>
      left
      rw [show cs = [] from h]
      rfl
    | blockComment => trivial
    | inlineCode => trivial
  | held s left next =>
    obtain ⟨hs, hend⟩ := h
    exact ⟨fun hcode => absurd (hcode.symm.trans hs) (by decide), fun _ => hend⟩

/-- A lexeme of code is held as long as the name goes on. -/
theorem awaits_name {s : Option Inner} (hs : isCode s = true)
    (hc : isNameChar c = true ∨ c = '$' ∧ s = some .variable) :
    Awaits (some c) rest (hold s (nameLength rest) .code) := by
  cases hcount : nameLength rest with
  | zero => exact .inl hcount
  | succ left =>
    refine ⟨fun _ => ⟨hcount.symm, rfl, c, rfl, hc⟩, fun hhidden => ?_⟩
    exact absurd (hs.symm.trans hhidden) (by decide)

theorem CodeStep.awaits {result : Option Inner × Mode} (h : CodeStep words c rest result) :
    Awaits (some c) rest result.2 := by
  cases h with
  | hidden _ _ hnext => exact hnext.awaits
  | name hc => exact awaits_name (isCode_nameScope words c rest) (.inl hc)
  | sigil hc _ => exact awaits_name rfl (.inr ⟨hc, rfl⟩)
  | operator hc =>
    right
    intro b hb
    rw [← Option.some.inj hb]
    exact isBreak_operator hc
  | plain hc _ hsign =>
    by_cases hdollar : c = '$'
    · exact .inl (hsign hdollar)
    · right
      intro b hb
      rw [← Option.some.inj hb, isBreak_iff]
      exact ⟨hc, hdollar⟩

/-- One step of what is held. -/
theorem Awaits.hold {s : Option Inner} {left : Nat} {next : Region}
    (h : Awaits before (c :: rest) (.held s left next)) :
    Awaits (some c) rest (hold s left next) := by
  obtain ⟨hcode, hhidden⟩ := h
  cases hs : isCode s with
  | true =>
    obtain ⟨hlength, rfl, -⟩ := hcode hs
    cases hc : isNameChar c with
    | false =>
      rw [nameLength_sign hc] at hlength
      omega
    | true =>
      rw [nameLength_name hc] at hlength
      obtain rfl : left = nameLength rest := by omega
      exact awaits_name hs (.inl hc)
  | false =>
    have hend := hhidden hs
    cases left with
    | succ left =>
      refine ⟨fun hs' => absurd (hs'.symm.trans hs) (by decide), fun _ hlt => ?_⟩
      apply hend
      rw [List.length_cons]
      omega
    | zero =>
      cases next with
      | blockComment => trivial
      | inlineCode => trivial
      | code =>
        cases rest with
        | nil => exact .inl rfl
        | cons d rest =>
          obtain ⟨e, he, hbreak⟩ := hend (by simp)
          right
          intro b hb
          rw [← Option.some.inj hb, Option.some.inj he]
          exact hbreak

/-- One step: what fits the mode before a character fits it behind. -/
theorem step_awaits (h : Awaits before (c :: rest) mode) :
    Awaits (some c) rest (step words mode c rest).2 := by
  cases mode with
  | held s left next => exact h.hold
  | inside region =>
    cases region with
    | code => exact (codeStep_cases words c rest).awaits
    | blockComment =>
      rw [step]
      split
      case isTrue hclose =>
        refine ⟨fun hcode => absurd hcode (by decide), fun _ _ => ⟨'/', ?_, ?_⟩⟩
        · rw [← List.head?_eq_getElem?, hclose.2]
        · exact isBreak_operator (by decide)
      case isFalse => trivial
    | inlineCode =>
      rw [step]
      split
      case isTrue hclose =>
        right
        intro b hb
        rw [← Option.some.inj hb]
        exact isBreak_border (by rw [hclose]; decide)
      case isFalse => trivial

/-- The mode behind `front`, with `rest` to come. -/
def modeAfter (words : List (List Char)) (mode : Mode) : List Char → List Char → Mode
  | [], _ => mode
  | c :: front, rest => modeAfter words (step words mode c (front ++ rest)).2 front rest

theorem modeAfter_snoc (words : List (List Char)) (mode : Mode) (front : List Char) (c : Char)
    (rest : List Char) : modeAfter words mode (front ++ [c]) rest =
      (step words (modeAfter words mode front (c :: rest)) c rest).2 := by
  induction front generalizing mode with
  | nil => rfl
  | cons a front ih =>
    rw [List.cons_append, modeAfter, modeAfter, List.append_assoc, ih]
    rfl

/-- The scope of a character is that of its step from the mode behind the text before it. -/
theorem scopesFrom_at (words : List (List Char)) (mode : Mode) (front : List Char) (c : Char)
    (rest : List Char) : (scopesFrom words mode (front ++ c :: rest)).1[front.length]? =
      some (step words (modeAfter words mode front (c :: rest)) c rest).1 := by
  induction front generalizing mode with
  | nil => rfl
  | cons a front ih => exact ih _

/-- A run along a line arrives at every place with what is awaited there. -/
theorem modeAfter_awaits (words : List (List Char)) (region : Region) (front rest : List Char) :
    Awaits front.getLast? rest (modeAfter words (.inside region) front rest) := by
  induction front using List.reverseRecOn generalizing rest with
  | nil =>
    cases region with
    | code => exact .inr (fun b hb => absurd hb (by simp))
    | blockComment => trivial
    | inlineCode => trivial
  | append_singleton front c ih =>
    rw [modeAfter_snoc, List.getLast?_concat]
    exact step_awaits (ih (c :: rest))

/-! ## The scopes of words and signs -/

theorem ne_of_isNameChar {x : Char} (hc : isNameChar c = true) (hx : isNameChar x = false) :
    c ≠ x := by
  intro heq
  rw [heq, hx] at hc
  cases hc

theorem codeStep_name (words : List (List Char)) (hc : isNameChar c = true) (rest : List Char) :
    codeStep words c rest =
      (nameScope words c rest, hold (nameScope words c rest) (nameLength rest) .code) := by
  have hcases := codeStep_cases words c rest
  generalize codeStep words c rest = result at hcases ⊢
  cases hcases with
  | hidden _ hbreak _ => exact absurd rfl (ne_of_isNameChar hc (isBreak_iff.1 hbreak).1)
  | name _ => rfl
  | sigil heq _ => exact absurd heq (ne_of_isNameChar hc (by decide +kernel))
  | operator hop => exact absurd rfl (ne_of_isNameChar hc (isNameChar_of_isOperatorChar hop))
  | plain hsign _ _ => exact absurd rfl (ne_of_isNameChar hc hsign)

/-- Two characters of a name that stand side by side have the same scope. -/
theorem step_same (h : Awaits before (c :: d :: rest) mode) (hc : isNameChar c = true)
    (hd : isNameChar d = true) :
    (step words (step words mode c (d :: rest)).2 d rest).1 =
      (step words mode c (d :: rest)).1 := by
  cases mode with
  | inside region =>
    cases region with
    | code =>
      simp only [step]
      rw [codeStep_name words hc, nameLength_name hd]
      rfl
    | blockComment =>
      have hstar : ∀ {c : Char} {rest : List Char}, isNameChar c = true →
          ¬ (c = '*' ∧ rest.head? = some '/') :=
        fun hc hclose => ne_of_isNameChar hc (by decide +kernel) hclose.1
      simp only [step, if_neg (hstar hc), if_neg (hstar hd)]
    | inlineCode =>
      have htick : isNameChar '\x60' = false := by decide +kernel
      simp only [step, if_neg (ne_of_isNameChar hc htick)]
  | held s left next =>
    cases left with
    | succ left => rfl
    | zero =>
      exfalso
      cases hs : isCode s with
      | true =>
        have hlength := (h.1 hs).1
        rw [nameLength_name hc, nameLength_name hd] at hlength
        omega
      | false =>
        obtain ⟨e, he, hbreak⟩ := h.2 hs (by simp)
        obtain rfl : c = e := Option.some.inj he
        exact ne_of_isNameChar hc (isBreak_iff.1 hbreak).1 rfl

/-- The first character of a name in code is behind a sigil and has the scope of the variable, or it
is behind none and gives the name its scope. -/
theorem step_first (h : Awaits before (c :: rest) mode) (hc : isNameChar c = true)
    (hbefore : ∀ b, before = some b → isNameChar b = false)
    (hcode : isCode (step words mode c rest).1 = true) :
    (before = some '$' ∧ (step words mode c rest).1 = some .variable) ∨
      (before ≠ some '$' ∧ (step words mode c rest).1 = nameScope words c rest) := by
  cases mode with
  | inside region =>
    cases region with
    | code =>
      right
      refine ⟨fun hsigil => ?_, by rw [step, codeStep_name words hc]⟩
      rcases h with hlength | hbreak
      · rw [nameLength_name hc] at hlength
        omega
      · exact absurd (hbreak '$' hsigil) (by decide)
    | blockComment =>
      rw [step] at hcode
      split at hcode <;> cases hcode
    | inlineCode => cases hcode
  | held s left next =>
    left
    obtain ⟨-, -, b, hb, hname | hsigil⟩ := h.1 hcode
    · exact absurd (hname.symm.trans (hbefore b hb)) (by decide)
    · exact ⟨hb.trans (congrArg some hsigil.1), hsigil.2⟩

/-- The scope of a sign in code, with `after` behind it: operators are signs of their own, and the
sigil of a variable belongs to the variable. -/
def signScope (c : Char) (after : List Char) : Option Inner :=
  if isOperatorChar c then some .operator
  else if c = '$' ∧ after.head?.any isNameChar then some .variable
  else none

theorem nameLength_pos_iff {cs : List Char} :
    0 < nameLength cs ↔ cs.head?.any isNameChar = true := by
  cases cs with
  | nil => decide
  | cons c cs =>
    cases hc : isNameChar c with
    | true => simp [nameLength_name hc, hc]
    | false => simp [nameLength_sign hc, hc]

/-- Only the lexer itself gives a scope to a sign in code. -/
theorem eq_code_of_sign (h : Awaits before (c :: rest) mode) (hc : isNameChar c = false)
    (hcode : isCode (step words mode c rest).1 = true) : mode = .inside .code := by
  cases mode with
  | inside region =>
    cases region with
    | code => rfl
    | blockComment =>
      rw [step] at hcode
      split at hcode <;> cases hcode
    | inlineCode => cases hcode
  | held s left next =>
    have hlength := (h.1 hcode).1
    rw [nameLength_sign hc] at hlength
    omega

/-- A sign in code has the scope that the sign and the text behind it give. -/
theorem step_sign (h : Awaits before (c :: rest) mode) (hc : isNameChar c = false)
    (hcode : isCode (step words mode c rest).1 = true) :
    (step words mode c rest).1 = signScope c rest := by
  obtain rfl := eq_code_of_sign h hc hcode
  have hcases := codeStep_cases words c rest
  rw [step] at hcode ⊢
  generalize codeStep words c rest = result at hcases hcode ⊢
  unfold signScope
  cases hcases with
  | hidden hs _ _ => exact absurd (hcode.symm.trans hs) (by decide)
  | name hname => exact absurd rfl (ne_of_isNameChar hname hc)
  | sigil heq hname =>
    rw [heq, if_neg (by decide), if_pos ⟨rfl, nameLength_pos_iff.1 hname⟩]
  | operator hop => rw [if_pos hop]
  | plain _ hop hsign =>
    rw [hop, if_neg (by decide), if_neg]
    intro hsigil
    have hpos := nameLength_pos_iff.2 hsigil.2
    rw [hsign hsigil.1] at hpos
    omega

/-- The sigil of a variable in code takes the name behind it with it. -/
theorem step_sigil (h : Awaits before ('$' :: d :: rest) mode) (hd : isNameChar d = true)
    (hcode : isCode (step words mode '$' (d :: rest)).1 = true) :
    (step words mode '$' (d :: rest)).1 = some .variable ∧
      (step words (step words mode '$' (d :: rest)).2 d rest).1 = some .variable := by
  have hlength := nameLength_name hd rest
  obtain rfl := eq_code_of_sign h (by decide +kernel) hcode
  have hcases := codeStep_cases words '$' (d :: rest)
  simp only [step]
  generalize codeStep words '$' (d :: rest) = result at hcases ⊢
  cases hcases with
  | hidden _ hbreak _ => exact absurd hbreak (by decide)
  | name hname => exact absurd hname (by decide +kernel)
  | sigil _ _ =>
    rw [hlength]
    exact ⟨rfl, rfl⟩
  | operator hop => exact absurd hop (by decide)
  | plain _ _ hnone =>
    have hzero := hnone rfl
    omega

/-! ## Words in documents -/

/-- Between `before` and `after` stands a word, as long as it goes. -/
structure IsRun (before word after : List Char) : Prop where
  nonempty : word ≠ []
  name : ∀ c ∈ word, isNameChar c = true
  before : ∀ c, before.getLast? = some c → isNameChar c = false
  after : ∀ c, after.head? = some c → isNameChar c = false

/-- The scope of a word in code that belongs to no variable. -/
def plainScope (keywords : List String) (word : List Char) : Option Inner :=
  if word.head?.any Char.isDigit then some .number
  else if keywords.any (fun k => Text.lower k == Text.lower (String.ofList word)) then
    some .constant
  else none

theorem wordScope_lowered (keywords : List String) (word : List Char) :
    wordScope (lowered keywords) word =
      if keywords.any (fun k => Text.lower k == Text.lower (String.ofList word)) then
        some .constant
      else none := by
  unfold wordScope lowered
  have hsame : (keywords.map (fun k => Text.lowerChars k.toList)).contains (Text.lowerChars word) =
      keywords.any (fun k => Text.lower k == Text.lower (String.ofList word)) := by
    rw [Bool.eq_iff_iff, List.contains_iff_mem, List.mem_map, List.any_eq_true]
    simp only [beq_iff_eq, Text.lower, String.toList_ofList, String.ofList_inj]
  rw [hsame]

/-- The first character of a word gives the whole word its scope. -/
theorem nameScope_run {before after : List Char} (h : IsRun before (c :: rest) after)
    (keywords : List String) :
    nameScope (lowered keywords) c (rest ++ after) = plainScope keywords (c :: rest) := by
  have htake : (rest ++ after).takeWhile isNameChar = rest := by
    rw [List.takeWhile_append_of_pos fun b hb => h.name b (List.mem_cons_of_mem c hb)]
    cases after with
    | nil => simp
    | cons b after =>
      rw [List.takeWhile_cons_of_neg (by rw [h.after b rfl]; decide), List.append_nil]
  rw [nameScope, htake, wordScope_lowered]
  rfl

/-- The scope of the character `c` of a line, with `front` before it and `rest` behind it. -/
def scopeIn (words : List (List Char)) (region : Region) (front : List Char) (c : Char)
    (rest : List Char) : Option Inner :=
  (step words (modeAfter words (.inside region) front (c :: rest)) c rest).1

/-- All characters of a word have the scope of the first one. -/
theorem scopeIn_word {region : Region} {front word after : List Char}
    (hname : ∀ b ∈ c :: word, isNameChar b = true) (before : List Char) :
    ∀ d behind, c :: word = before ++ d :: behind →
      scopeIn words region (front ++ before) d (behind ++ after) =
        scopeIn words region front c (word ++ after) := by
  induction before using List.reverseRecOn with
  | nil =>
    intro d behind hcut
    obtain ⟨rfl, rfl⟩ := List.cons.inj hcut
    rw [List.append_nil]
  | append_singleton before b ih =>
    intro d behind hcut
    rw [List.append_assoc, List.singleton_append] at hcut
    have hb : isNameChar b = true := hname b (by rw [hcut]; simp)
    have hd : isNameChar d = true := hname d (by rw [hcut]; simp)
    rw [← ih b (d :: behind) hcut, ← List.append_assoc, List.cons_append]
    unfold scopeIn
    rw [modeAfter_snoc]
    exact step_same (modeAfter_awaits words region _ _) hb hd

/-- The scope path of a scope below the root. -/
def pathOf : Option Inner → ScopePath
  | some scope => [Scope.root, scope.name]
  | none => [Scope.root]

theorem pathAt_eq (table : Array (Array (Option Inner))) (p : Position) :
    pathAt table p = pathOf (innerAt table p) := by
  rw [pathAt]
  cases innerAt table p <;> rfl

/-- The scope path of a column of a row. -/
def pathIn (keywords : List String) (d : Document) (row column : Nat) : ScopePath :=
  (classifier keywords d).pathAt ⟨row, column⟩

/-- Is the column in code? -/
def IsCodeIn (keywords : List String) (d : Document) (row column : Nat) : Prop :=
  Scope.isTypical (pathIn keywords d row column) = true

section Rows

variable {keywords : List String} {d : Document} {row : Nat} {line : Array Char}

theorem exists_scopeIn (keywords : List String) (h : d.line? row = some line) :
    ∃ region, ∀ front c rest, line.toList = front ++ c :: rest →
      pathIn keywords d row front.length =
          pathOf (scopeIn (lowered keywords) region front c rest) ∧
        (IsCodeIn keywords d row front.length ↔
          isCode (scopeIn (lowered keywords) region front c rest) = true) := by
  obtain ⟨region, hinner⟩ := innerAt_row keywords h
  refine ⟨region, fun front c rest hcut => ?_⟩
  have hscope : innerAt (scopes keywords d) ⟨row, front.length⟩ =
      scopeIn (lowered keywords) region front c rest := by
    rw [hinner, hcut]
    exact congrArg (·.getD none) (scopesFrom_at _ _ front c rest)
  rw [← hscope]
  refine ⟨pathAt_eq _ _, ?_⟩
  rw [← isTypical_pathAt]
  rfl

/-- In front of code a sigil is code. -/
theorem isCodeIn_sigil {front rest : List Char} {c : Char} (h : d.line? row = some line)
    (hcut : line.toList = front ++ '$' :: c :: rest)
    (hcode : IsCodeIn keywords d row (front.length + 1)) :
    IsCodeIn keywords d row front.length := by
  have hchar : ∀ k, d.charAt? ⟨row, front.length + k⟩ = ('$' :: c :: rest)[k]? := by
    intro k
    rw [Document.charAt?, h]
    simp only [← Array.getElem?_toList, hcut]
    rw [List.getElem?_append_right (Nat.le_add_right _ _), Nat.add_sub_cancel_left]
  by_contra hhidden
  have hmeets := classifier_bordered keywords d row front.length '$' c (hchar 0) (hchar 1)
  have hborder : '$' ∈ Pattern.borders := hmeets.2 (Bool.eq_false_iff.2 hhidden) hcode
  exact absurd hborder (by decide)

end Rows

/-- Words are never split.  All characters of a word, as long as it goes in its row, have the same
scope.  If the character directly before it is a sigil in code, both have the scope of variables.
Any other word in code is a number if it starts with a digit, and else a constant if it is a keyword
in some capitalization, and else it has no scope of its own.  Any other character in code has the
scope of operators if it is one of their signs, that of variables if it is the sigil in front of a
word, and else no scope of its own. -/
theorem words_are_never_split (keywords : List String) (d : Document) {row : Nat}
    {line : Array Char} (hline : d.line? row = some line) :
    (∀ before word after, line.toList = before ++ word ++ after → IsRun before word after →
      (∀ k < word.length, pathIn keywords d row (before.length + k) =
        pathIn keywords d row before.length) ∧
      (∀ front, before = front ++ ['$'] → IsCodeIn keywords d row front.length →
        pathIn keywords d row front.length = [Scope.root, Inner.name .variable] ∧
        pathIn keywords d row before.length = [Scope.root, Inner.name .variable]) ∧
      (IsCodeIn keywords d row before.length →
        (¬ ∃ front, before = front ++ ['$'] ∧ IsCodeIn keywords d row front.length) →
        pathIn keywords d row before.length = pathOf (plainScope keywords word))) ∧
    ∀ before c after, line.toList = before ++ c :: after → isNameChar c = false →
      IsCodeIn keywords d row before.length →
      pathIn keywords d row before.length = pathOf (signScope c after) := by
  obtain ⟨region, hscope⟩ := exists_scopeIn keywords hline
  refine ⟨fun before word after hcut hrun => ?_, fun before c after hcut hc hcode => ?_⟩
  · obtain ⟨c, word, rfl⟩ := List.exists_cons_of_ne_nil hrun.nonempty
    have hc : isNameChar c = true := hrun.name c List.mem_cons_self
    rw [List.append_assoc, List.cons_append] at hcut
    obtain ⟨hpath, hcode⟩ := hscope before c (word ++ after) hcut
    refine ⟨fun k hk => ?_, fun front hfront hsigil => ?_, fun hrunCode hunmarked => ?_⟩
    · have hword : c :: word =
          (c :: word).take k ++ (c :: word)[k] :: (c :: word).drop (k + 1) := by
        rw [← List.drop_eq_getElem_cons hk, List.take_append_drop]
      have hplace : line.toList = (before ++ (c :: word).take k) ++
          (c :: word)[k] :: ((c :: word).drop (k + 1) ++ after) := by
        rw [List.append_assoc, ← List.cons_append, ← List.append_assoc _ _ after, ← hword, hcut]
        rfl
      have hlength : (before ++ (c :: word).take k).length = before.length + k := by
        rw [List.length_append, List.length_take_of_le (Nat.le_of_lt hk)]
      rw [hpath, ← hlength, (hscope _ _ _ hplace).1, scopeIn_word hrun.name _ _ _ hword]
    · subst hfront
      rw [List.append_assoc, List.singleton_append] at hcut
      obtain ⟨hpath', hcode'⟩ := hscope front '$' (c :: (word ++ after)) hcut
      rw [hpath, hpath']
      unfold scopeIn
      rw [modeAfter_snoc]
      obtain ⟨hfirst, hsecond⟩ :=
        step_sigil (modeAfter_awaits _ region front _) hc (hcode'.1 hsigil)
      rw [hfirst, hsecond]
      exact ⟨rfl, rfl⟩
    · rcases step_first (modeAfter_awaits _ region before _) hc hrun.before (hcode.1 hrunCode) with
        ⟨hsigil, -⟩ | ⟨-, hfirst⟩
      · obtain ⟨front, rfl⟩ := List.getLast?_eq_some_iff.1 hsigil
        refine absurd ⟨front, rfl, ?_⟩ hunmarked
        rw [List.append_assoc, List.singleton_append] at hcut
        rw [List.length_append, List.length_singleton] at hrunCode
        exact isCodeIn_sigil hline hcut hrunCode
      · rw [hpath, scopeIn, hfirst, nameScope_run hrun]
  · obtain ⟨hpath, hcode'⟩ := hscope before c after hcut
    rw [hpath, scopeIn, step_sign (modeAfter_awaits _ region before _) hc (hcode'.1 hcode)]

/-- A keyword in capitals, an operator, and the keyword as the name of a variable. -/
theorem words_are_never_split_marked :
    IsRun [] ['E', 'O', 'I'] ['+', '$', 'e', 'o', 'i'] ∧
    IsRun ['E', 'O', 'I', '+', '$'] ['e', 'o', 'i'] [] ∧
    IsCodeIn ["eoi"] (.ofString "EOI+$eoi") 0 0 ∧ IsCodeIn ["eoi"] (.ofString "EOI+$eoi") 0 3 ∧
    IsCodeIn ["eoi"] (.ofString "EOI+$eoi") 0 4 ∧
    (∀ k < 3, pathIn ["eoi"] (.ofString "EOI+$eoi") 0 k = [Scope.root, Inner.name .constant]) ∧
    pathIn ["eoi"] (.ofString "EOI+$eoi") 0 3 = [Scope.root, Inner.name .operator] ∧
    pathIn ["eoi"] (.ofString "EOI+$eoi") 0 4 = [Scope.root, Inner.name .variable] ∧
    ∀ k < 3, pathIn ["eoi"] (.ofString "EOI+$eoi") 0 (5 + k) =
      [Scope.root, Inner.name .variable] := by
  have hline : (Document.ofString "EOI+$eoi").line? 0 =
      some #['E', 'O', 'I', '+', '$', 'e', 'o', 'i'] := by decide +kernel
  have hfirst : IsRun [] ['E', 'O', 'I'] ['+', '$', 'e', 'o', 'i'] := by
    refine ⟨by decide, Pattern.forall_mem_of_all (by decide +kernel), ?_, ?_⟩
    · intro c hc
      cases hc
    · intro c hc
      rw [← Option.some.inj hc]
      decide +kernel
  have hsecond : IsRun ['E', 'O', 'I', '+', '$'] ['e', 'o', 'i'] [] := by
    refine ⟨by decide, Pattern.forall_mem_of_all (by decide +kernel), ?_, ?_⟩
    · intro c hc
      rw [← Option.some.inj hc]
      decide +kernel
    · intro c hc
      cases hc
  have hcode : IsCodeIn ["eoi"] (.ofString "EOI+$eoi") 0 0 ∧
      IsCodeIn ["eoi"] (.ofString "EOI+$eoi") 0 3 ∧
      IsCodeIn ["eoi"] (.ofString "EOI+$eoi") 0 4 := by
    unfold IsCodeIn
    decide +kernel
  obtain ⟨hwords, hsigns⟩ := words_are_never_split ["eoi"] (.ofString "EOI+$eoi") hline
  obtain ⟨hsame, -, hplain⟩ := hwords [] ['E', 'O', 'I'] ['+', '$', 'e', 'o', 'i'] rfl hfirst
  obtain ⟨hsame', hmarked, -⟩ := hwords ['E', 'O', 'I', '+', '$'] ['e', 'o', 'i'] [] rfl hsecond
  obtain ⟨hsigil, hname⟩ := hmarked ['E', 'O', 'I', '+'] rfl hcode.2.2
  have hunmarked : ¬ ∃ front, [] = front ++ ['$'] ∧
      IsCodeIn ["eoi"] (.ofString "EOI+$eoi") 0 front.length := by
    intro hmark
    obtain ⟨front, hempty, -⟩ := hmark
    simp at hempty
  have hkeyword : plainScope ["eoi"] ['E', 'O', 'I'] = some .constant := by decide +kernel
  have hconstant := hplain hcode.1 hunmarked
  rw [hkeyword] at hconstant
  refine ⟨hfirst, hsecond, hcode.1, hcode.2.1, hcode.2.2, fun k hk => ?_,
    hsigns ['E', 'O', 'I'] '+' _ rfl (by decide +kernel) hcode.2.1, hsigil,
    fun k hk => (hsame' k hk).trans hname⟩
  have hplace := (hsame k hk).trans hconstant
  rwa [List.length_nil, Nat.zero_add] at hplace

end Lexical

end ScopeLint
