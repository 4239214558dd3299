import Mathlib.Data.List.Basic
import ScopeLint.Json.Read
import ScopeLint.Json.Write

/-!
# JSON texts

A relation says which texts stand for a value, with blanks wherever JSON allows them.  Both layouts
write such texts, and what is read from such a text is the value it stands for.  So the two layouts
of a value are read as that value, whatever its strings hold.
-/

namespace ScopeLint.Json

/-! ## Strings -/

theorem readCodes_escape {c : Char} {code : Nat} (hc : c ≠ 'u') (h : escaped? c = some code)
    (codes : List Nat) (rest : List Char) :
    readCodes codes ('\\' :: c :: rest) = readCodes (code :: codes) rest := by
  rw [readCodes, h]
  intro _ _ _ _ _ hu
  exact absurd hu hc

theorem hexCode?_control :
    ∀ n < 0x20, hexCode? '0' '0' (hexDigit (n / 16)) (hexDigit (n % 16)) = some n := by
  decide

/-- A character is read as it was written, whether it is escaped or not. -/
theorem readCodes_writeChar (codes : List Nat) (c : Char) (rest : List Char) :
    readCodes codes (writeChar c rest) = readCodes (c.toNat :: codes) rest := by
  unfold writeChar
  split_ifs with hquote hslash hback hform hfeed hreturn htab hcontrol
  any_goals
    subst_vars
    exact readCodes_escape (by decide) rfl codes rest
  case pos => rw [readCodes, hexCode?_control c.toNat hcontrol]
  case neg =>
    rw [readCodes, if_neg (not_or.2 ⟨hslash, hcontrol⟩)]
    · exact hquote
    · intro _ _ _ _ _ h
      exact absurd h hslash
    · intro _ _ h
      exact absurd h hslash

/-- Written characters are read up to the quote behind them. -/
theorem readCodes_writeChars (codes : List Nat) (cs rest : List Char) :
    readCodes codes (cs.foldr writeChar ('\x22' :: rest)) =
      some ((cs.map Char.toNat).reverse ++ codes, rest) := by
  induction cs generalizing codes with
  | nil => rfl
  | cons c cs ih =>
    rw [List.foldr_cons, readCodes_writeChar, ih, List.map_cons, List.reverse_cons,
      List.append_assoc, List.singleton_append]

/-- No character has the code of half a surrogate pair. -/
theorem not_surrogate (c : Char) : ¬ (0xD800 ≤ c.toNat ∧ c.toNat ≤ 0xDFFF) := by
  have hvalid := c.valid
  simp only [UInt32.isValidChar, Nat.isValidChar] at hvalid
  change ¬ (0xD800 ≤ c.val.toNat ∧ c.val.toNat ≤ 0xDFFF)
  omega

theorem charsOf_codes (chars cs : List Char) :
    charsOf chars (cs.map Char.toNat) = some (cs.reverse ++ chars) := by
  induction cs generalizing chars with
  | nil => rfl
  | cons c cs ih =>
    have hc := not_surrogate c
    cases cs with
    | nil => rw [List.map_singleton, charsOf, if_neg hc, Char.ofNat_toNat]; rfl
    | cons d cs =>
      rw [List.map_cons, List.map_cons, charsOf, if_neg (by omega), if_neg (by omega),
        Char.ofNat_toNat, ← List.map_cons, ih, List.reverse_cons (a := c), List.append_assoc,
        List.singleton_append]

/-- A written string is read as itself, whatever follows. -/
theorem readString_writeString (s : String) (rest : List Char) :
    readString (s.toList.foldr writeChar ('\x22' :: rest)) = some (some s, rest) := by
  have hchars : charsOf [] (s.toList.map Char.toNat).reverse = some s.toList := by
    rw [← List.map_reverse, charsOf_codes, List.reverse_reverse, List.append_nil]
  simp only [readString, readCodes_writeChars, List.append_nil, Option.map_some, hchars,
    String.ofList_toList]

/-! ## Integers -/

/-- Does a number end in front of the text: does it go on with no digit, fraction or exponent? -/
def EndsNumber (rest : List Char) : Prop :=
  ∀ c, rest.head? = some c → c.isDigit = false ∧ c ≠ '.' ∧ c ≠ 'e' ∧ c ≠ 'E'

theorem digitsValue_toDigits (n : Nat) : digitsValue (Nat.toDigits 10 n) = n := by
  have hstep : (fun (n : Nat) (c : Char) => n * 10 + (c.toNat - 48)) =
      fun n c => 10 * n + (c.toNat - '0'.toNat) := by
    funext n c
    rw [Nat.mul_comm]
    rfl
  rw [digitsValue, hstep]
  exact Nat.ofDigitChars_toDigits (by decide) (by decide)

theorem isDigit_of_mem {n : Nat} {c : Char} (h : c ∈ Nat.toDigits 10 n) : c.isDigit = true :=
  Nat.isDigit_of_mem_toDigits (by decide) (by decide) h

/-- A number has no zero in front. -/
theorem head?_toDigits {n : Nat} (h : 0 < n) : (Nat.toDigits 10 n).head? ≠ some '0' := by
  induction n using Nat.strongRecOn with
  | ind n ih =>
    by_cases hlt : n < 10
    · rw [Nat.toDigits_of_lt_base hlt]
      have hall : ∀ n < 10, 0 < n → [n.digitChar].head? ≠ some '0' := by decide
      exact hall n hlt h
    · rw [Nat.toDigits_of_base_le (by decide) (Nat.le_of_not_lt hlt),
        List.head?_append_of_ne_nil _ Nat.toDigits_ne_nil]
      exact ih (n / 10) (by omega) (by omega)

theorem readDigits_toDigits (n : Nat) {rest : List Char} (h : EndsNumber rest) :
    readDigits (Nat.toDigits 10 n ++ rest) = (Nat.toDigits 10 n, rest) := by
  have hdigits : ∀ c ∈ Nat.toDigits 10 n, c.isDigit = true := fun c hc => isDigit_of_mem hc
  rw [readDigits, List.takeWhile_append_of_pos hdigits, List.dropWhile_append_of_pos hdigits]
  cases rest with
  | nil => simp
  | cons c rest =>
    have hc := (h c rfl).1
    rw [List.takeWhile_cons_of_neg (by simp [hc]), List.dropWhile_cons_of_neg (by simp [hc]),
      List.append_nil]

theorem readFraction_end {rest : List Char} (h : EndsNumber rest) :
    readFraction rest = some ([], rest) := by
  unfold readFraction
  split
  · exact absurd rfl (h '.' rfl).2.1
  · rfl

theorem readExponent_end {rest : List Char} (h : EndsNumber rest) :
    readExponent rest = some ([], rest) := by
  cases rest with
  | nil => rfl
  | cons c rest =>
    obtain ⟨-, -, hlower, hupper⟩ := h c rfl
    simp only [readExponent, beq_eq_false_iff_ne.2 hlower, beq_eq_false_iff_ne.2 hupper,
      Bool.or_false, Bool.false_eq_true, if_false]

theorem toDigits_ne_zero_cons (n : Nat) (d : Char) (ds : List Char) :
    Nat.toDigits 10 n ≠ '0' :: d :: ds := by
  intro h
  cases n with
  | zero => exact absurd h (by simp [Nat.toDigits_of_lt_base])
  | succ n => exact head?_toDigits (Nat.succ_pos n) (by rw [h]; rfl)

/-- Digits are read as their number behind any sign. -/
theorem readNumber_digits {cs sign : List Char} {n : Nat} {rest : List Char} (h : EndsNumber rest)
    (hsign : cs = Nat.toDigits 10 n ++ rest ∧ sign = [] ∨
      cs = '-' :: (Nat.toDigits 10 n ++ rest) ∧ sign = ['-'] ∧ 0 < n) :
    readNumber cs = some (.integer (if sign.isEmpty then n else -n), rest) := by
  have hdigit : ∀ tail, Nat.toDigits 10 n ++ rest ≠ '-' :: tail := by
    intro tail htail
    obtain ⟨d, ds, hds⟩ := List.exists_cons_of_ne_nil (Nat.toDigits_ne_nil (n := n) (b := 10))
    rw [hds, List.cons_append] at htail
    have hd : d.isDigit = true := isDigit_of_mem (n := n) (hds ▸ List.mem_cons_self)
    rw [(List.cons.inj htail).1] at hd
    exact absurd hd (by decide)
  have hvalue : (sign.isEmpty || n != 0) = true := by
    rcases hsign with ⟨-, rfl⟩ | ⟨-, -, hn⟩
    · rfl
    · rw [bne_iff_ne.2 (Nat.ne_of_gt hn), Bool.or_true]
  unfold readNumber
  split
  case h_1 sign' after hcut =>
    obtain ⟨rfl, rfl⟩ : sign' = sign ∧ after = Nat.toDigits 10 n ++ rest := by
      rcases hsign with ⟨rfl, rfl⟩ | ⟨rfl, rfl, -⟩
      · split at hcut
        case h_1 tail hminus => exact absurd hminus (hdigit tail)
        case h_2 =>
          cases hcut
          exact ⟨rfl, rfl⟩
      · cases hcut
        exact ⟨rfl, rfl⟩
    simp only [readDigits_toDigits n h]
    split
    case h_1 hnil => exact absurd hnil Nat.toDigits_ne_nil
    case h_2 d ds hzero => exact absurd hzero (toDigits_ne_zero_cons n d ds)
    case h_3 =>
      simp only [readFraction_end h, readExponent_end h, digitsValue_toDigits, Option.bind_eq_bind,
        Option.bind_some, List.isEmpty_nil, Bool.true_and, hvalue, if_true]
      rfl

theorem readNumber_toString (n : Int) {rest : List Char} (h : EndsNumber rest) :
    readNumber ((toString n).toList ++ rest) = some (.integer n, rest) := by
  cases n with
  | ofNat n =>
    have hdigits : (toString (Int.ofNat n)).toList = Nat.toDigits 10 n := Nat.toList_repr
    rw [hdigits, readNumber_digits h (.inl ⟨rfl, rfl⟩)]
    rfl
  | negSucc n =>
    have hdigits : (toString (Int.negSucc n)).toList = '-' :: Nat.toDigits 10 (n + 1) := by
      change ("-" ++ (n + 1).repr).toList = _
      rw [String.toList_append, Nat.toList_repr]
      rfl
    rw [hdigits, List.cons_append, readNumber_digits h (.inr ⟨rfl, rfl, Nat.succ_pos n⟩)]
    rfl

theorem exists_toString_cons (n : Int) :
    ∃ c cs, (toString n).toList = c :: cs ∧ (c.isDigit = true ∨ c = '-') := by
  cases n with
  | ofNat n =>
    have hdigits : (toString (Int.ofNat n)).toList = Nat.toDigits 10 n := Nat.toList_repr
    obtain ⟨d, ds, hds⟩ := List.exists_cons_of_ne_nil (Nat.toDigits_ne_nil (n := n) (b := 10))
    have hd : d ∈ Nat.toDigits 10 n := hds ▸ List.mem_cons_self
    exact ⟨d, ds, hdigits.trans hds, .inl (isDigit_of_mem hd)⟩
  | negSucc n =>
    refine ⟨'-', (n + 1).repr.toList, ?_, .inr rfl⟩
    change ("-" ++ (n + 1).repr).toList = _
    rw [String.toList_append]
    rfl

theorem isBlank_of_number {c : Char} (hc : c.isDigit = true ∨ c = '-') : isBlank c = false := by
  rw [Bool.eq_false_iff]
  intro hblank
  simp only [isBlank, Bool.or_eq_true, beq_iff_eq] at hblank
  rcases hblank with ((rfl | rfl) | rfl) | rfl <;> exact absurd hc (by decide)

/-! ## Spellings -/

/-- Only blanks stand between two places of a text, each given by what follows it. -/
inductive Blanks : List Char → List Char → Prop
  | none (rest : List Char) : Blanks rest rest
  | more {c : Char} {cs rest : List Char} (hc : isBlank c = true) (h : Blanks cs rest) :
    Blanks (c :: cs) rest

/-- What a stretch of text stands for: a value, or the rest of an array or an object with its
closing bracket. -/
inductive Part where
  | value (j : Json)
  | items (items : List Json)
  | fields (fields : List (String × Json))

/-- The text from one place up to another one, each given by what follows it, is a spelling of the
part. -/
inductive Spells : Part → List Char → List Char → Prop
  | null {cs rest : List Char} (h : Blanks cs ('n' :: 'u' :: 'l' :: 'l' :: rest)) :
    Spells (.value .null) cs rest
  | yes {cs rest : List Char} (h : Blanks cs ('t' :: 'r' :: 'u' :: 'e' :: rest)) :
    Spells (.value (.bool true)) cs rest
  | no {cs rest : List Char} (h : Blanks cs ('f' :: 'a' :: 'l' :: 's' :: 'e' :: rest)) :
    Spells (.value (.bool false)) cs rest
  | integer {n : Int} {cs rest : List Char} (h : Blanks cs ((toString n).toList ++ rest))
    (hrest : EndsNumber rest) : Spells (.value (.integer n)) cs rest
  | string {s : String} {cs rest : List Char} (h : Blanks cs (writeString s rest)) :
    Spells (.value (.string s)) cs rest
  | noItems {cs mid rest : List Char} (h : Blanks cs ('[' :: mid))
    (hend : Blanks mid (']' :: rest)) : Spells (.value (.array [])) cs rest
  | array {items : List Json} {cs mid rest : List Char} (h : Blanks cs ('[' :: mid))
    (hitems : Spells (.items items) mid rest) : Spells (.value (.array items)) cs rest
  | noFields {cs mid rest : List Char} (h : Blanks cs ('\x7b' :: mid))
    (hend : Blanks mid ('\x7d' :: rest)) : Spells (.value (.object [])) cs rest
  | object {fields : List (String × Json)} {cs mid rest : List Char}
    (h : Blanks cs ('\x7b' :: mid)) (hfields : Spells (.fields fields) mid rest) :
    Spells (.value (.object fields)) cs rest
  | lastItem {j : Json} {cs mid rest : List Char} (hitem : Spells (.value j) cs mid)
    (hend : Blanks mid (']' :: rest)) : Spells (.items [j]) cs rest
  | item {j : Json} {items : List Json} {cs mid next rest : List Char}
    (hitem : Spells (.value j) cs mid) (hcomma : Blanks mid (',' :: next))
    (hitems : Spells (.items items) next rest) : Spells (.items (j :: items)) cs rest
  | lastField {key : String} {j : Json} {cs colon text mid rest : List Char}
    (hkey : Blanks cs (writeString key colon)) (hcolon : Blanks colon (':' :: text))
    (hvalue : Spells (.value j) text mid) (hend : Blanks mid ('\x7d' :: rest)) :
    Spells (.fields [(key, j)]) cs rest
  | field {key : String} {j : Json} {fields : List (String × Json)}
    {cs colon text mid next rest : List Char}
    (hkey : Blanks cs (writeString key colon)) (hcolon : Blanks colon (':' :: text))
    (hvalue : Spells (.value j) text mid) (hcomma : Blanks mid (',' :: next))
    (hfields : Spells (.fields fields) next rest) : Spells (.fields ((key, j) :: fields)) cs rest

theorem Blanks.length_le {cs rest : List Char} (h : Blanks cs rest) : rest.length ≤ cs.length := by
  induction h with
  | none => exact Nat.le_refl _
  | more _ _ ih => exact Nat.le_succ_of_le ih

theorem Blanks.length_lt {c : Char} {cs rest : List Char} (h : Blanks cs (c :: rest)) :
    rest.length < cs.length := h.length_le

theorem Blanks.skip_eq {c : Char} {cs rest : List Char} (h : Blanks cs (c :: rest))
    (hc : isBlank c = false) : skip cs = c :: rest := by
  generalize hmid : c :: rest = mid at h
  induction h with
  | none => rw [← hmid, skip, List.dropWhile_cons_of_neg (by simp [hc])]
  | more hblank _ ih => rw [skip, List.dropWhile_cons_of_pos hblank, ← skip, ih hmid]

theorem length_writeChars (cs rest : List Char) :
    rest.length ≤ (cs.foldr writeChar rest).length := by
  induction cs with
  | nil => exact Nat.le_refl _
  | cons c cs ih =>
    refine Nat.le_trans ih ?_
    rw [List.foldr_cons, writeChar]
    split_ifs <;> simp only [List.length_cons] <;> omega

theorem Blanks.length_string {s : String} {cs rest : List Char}
    (h : Blanks cs (writeString s rest)) : rest.length < cs.length := by
  have hle := length_writeChars s.toList ('\x22' :: rest)
  have hlt := h.length_lt
  rw [List.length_cons] at hle
  omega

/-- Every spelling holds a character. -/
theorem Spells.length_lt {part : Part} {cs rest : List Char} (h : Spells part cs rest) :
    rest.length < cs.length := by
  induction h with
  | null h | yes h | no h =>
    have hlt := h.length_lt
    simp only [List.length_cons] at hlt
    omega
  | @integer n cs rest h =>
    obtain ⟨c, more, hn, -⟩ := exists_toString_cons n
    rw [hn, List.cons_append] at h
    have hlt := h.length_lt
    rw [List.length_append] at hlt
    omega
  | string h => exact h.length_string
  | noItems h hend | noFields h hend => exact Nat.lt_trans hend.length_lt h.length_lt
  | array h _ ih | object h _ ih => exact Nat.lt_trans ih h.length_lt
  | lastItem _ hend ih => exact Nat.lt_trans hend.length_lt ih
  | item _ hcomma _ ih ih' => exact Nat.lt_trans ih' (Nat.lt_trans hcomma.length_lt ih)
  | lastField hkey hcolon _ hend ih =>
    exact Nat.lt_trans hend.length_lt
      (Nat.lt_trans ih (Nat.lt_trans hcolon.length_lt hkey.length_string))
  | field hkey hcolon _ hcomma _ ih ih' =>
    exact Nat.lt_trans ih' (Nat.lt_trans hcomma.length_lt
      (Nat.lt_trans ih (Nat.lt_trans hcolon.length_lt hkey.length_string)))

/-! ## Reading a spelling -/

theorem skip_skip (cs : List Char) : skip (skip cs) = skip cs := by
  induction cs with
  | nil => rfl
  | cons c cs ih =>
    cases hc : isBlank c with
    | true => rw [show skip (c :: cs) = skip cs from List.dropWhile_cons_of_pos hc, ih]
    | false =>
      have hkept : skip (c :: cs) = c :: cs := List.dropWhile_cons_of_neg (by simp [hc])
      rw [hkept, hkept]

/-- Blanks before a value are passed over once, so passing over them before does not matter. -/
theorem readValue_skip (fuel : Nat) (cs : List Char) :
    readValue fuel (skip cs) = readValue fuel cs := by
  cases fuel with
  | zero => rfl
  | succ fuel => rw [readValue, readValue, skip_skip]

theorem readItems_skip (fuel : Nat) (done : List Json) (cs : List Char) :
    readItems fuel done (skip cs) = readItems fuel done cs := by
  cases fuel with
  | zero => rfl
  | succ fuel => rw [readItems, readItems, readValue_skip]

theorem readFields_skip (fuel : Nat) (done : List (Option String × Json)) (cs : List Char) :
    readFields fuel done (skip cs) = readFields fuel done cs := by
  cases fuel with
  | zero => rfl
  | succ fuel => rw [readFields, readFields, skip_skip]

theorem objectOf_map (fields : List (String × Json)) :
    objectOf (fields.map (fun f => (some f.1, f.2))) = .object fields.reverse := by
  have hfields : (fields.map (fun f => (some f.1, f.2))).mapM
      (fun (f : Option String × Json) => f.1.map (fun key => (key, f.2))) = some fields := by
    induction fields with
    | nil => rfl
    | cons f fields ih => rw [List.map_cons, List.mapM_cons, ih]; rfl
  unfold objectOf
  split
  case h_1 hsome => rw [Option.some.inj (hfields.symm.trans hsome)]
  case h_2 hnone => exact absurd (hfields.symm.trans hnone) (Option.some_ne_none fields)

theorem readValue_number {fuel : Nat} {c : Char} {cs rest : List Char} (h : skip cs = c :: rest)
    (hc : c.isDigit = true ∨ c = '-') : readValue (fuel + 1) cs = readNumber (c :: rest) := by
  rw [readValue, h]
  split
  case h_7 => rfl
  all_goals
    rename_i hstart
    rw [(List.cons.inj hstart).1] at hc
    exact absurd hc (by decide)

/-- A part is read from one place up to another one, with the given fuel. -/
def Part.IsRead (fuel : Nat) (cs rest : List Char) : Part → Prop
  | .value j => readValue fuel cs = some (j, rest)
  | .items more => ∀ done, readItems fuel done cs = some (.array (done.reverse ++ more), rest)
  | .fields more => ∀ done : List (String × Json),
    readFields fuel (done.map (fun f => (some f.1, f.2))) cs =
      some (.object (done.reverse ++ more), rest)

/-- No closing bracket stands where an item or a field has to start. -/
theorem Spells.exists_start {part : Part} {cs rest : List Char} (h : Spells part cs rest) :
    ∃ c more, skip cs = c :: more ∧ c ≠ ']' ∧ c ≠ '\x7d' := by
  induction h with
  | null h | yes h | no h | string h | noItems h | noFields h | array h | object h
  | lastField h | field h => exact ⟨_, _, h.skip_eq (by decide), by decide, by decide⟩
  | @integer n cs rest h =>
    obtain ⟨c, more, hn, hc⟩ := exists_toString_cons n
    rw [hn, List.cons_append] at h
    refine ⟨c, _, h.skip_eq (isBlank_of_number hc), ?_, ?_⟩
    all_goals
      rintro rfl
      exact absurd hc (by decide)
  | lastItem _ _ ih | item _ _ _ ih => exact ih

theorem readValue_items {fuel : Nat} {cs mid rest : List Char} {items : List Json}
    (h : Blanks cs ('[' :: mid)) (hitems : Spells (.items items) mid rest) :
    readValue (fuel + 1) cs = readItems fuel [] mid := by
  obtain ⟨c, more, hskip, hc, -⟩ := hitems.exists_start
  rw [readValue, h.skip_eq (by decide), ← readItems_skip fuel [] mid]
  simp only [hskip]
  split
  case h_1 hend => exact absurd (List.cons.inj hend).1 hc
  case h_2 => rfl

theorem readValue_fields {fuel : Nat} {cs mid rest : List Char} {fields : List (String × Json)}
    (h : Blanks cs ('\x7b' :: mid)) (hfields : Spells (.fields fields) mid rest) :
    readValue (fuel + 1) cs = readFields fuel [] mid := by
  obtain ⟨c, more, hskip, -, hc⟩ := hfields.exists_start
  rw [readValue, h.skip_eq (by decide), ← readFields_skip fuel [] mid]
  simp only [hskip]
  split
  case h_1 hend => exact absurd (List.cons.inj hend).1 hc
  case h_2 => rfl

/-- A part is read with any fuel above the number of its characters. -/
def Part.IsReadable (part : Part) (cs rest : List Char) : Prop :=
  ∀ fuel, cs.length ≤ rest.length + fuel → part.IsRead (fuel + 1) cs rest

theorem Part.IsReadable.isRead {part : Part} {cs rest : List Char}
    (h : part.IsReadable cs rest) (fuel : Nat) (hlt : rest.length < cs.length)
    (hfuel : cs.length < rest.length + fuel) : part.IsRead fuel cs rest := by
  cases fuel with
  | zero => omega
  | succ fuel => exact h fuel (by omega)

/-- What is spelled is read.  A bracket takes one character of the text and one unit of the fuel, so
the fuel is enough for what is inside. -/
theorem Spells.isReadable {part : Part} {cs rest : List Char} (h : Spells part cs rest) :
    part.IsReadable cs rest := by
  induction h with
  | null h | yes h | no h =>
    intro fuel _
    rw [Part.IsRead, readValue, h.skip_eq (by decide)]
    rfl
  | @integer n cs rest h hrest =>
    intro fuel _
    obtain ⟨c, more, hn, hc⟩ := exists_toString_cons n
    rw [hn, List.cons_append] at h
    rw [Part.IsRead, readValue_number (h.skip_eq (isBlank_of_number hc)) hc, ← List.cons_append,
      ← hn, readNumber_toString n hrest]
  | @string s cs rest h =>
    intro fuel _
    rw [Part.IsRead, readValue, h.skip_eq (by decide)]
    simp only [readString_writeString]
  | noItems h hend | noFields h hend =>
    intro fuel _
    rw [Part.IsRead, readValue, h.skip_eq (by decide)]
    simp only [hend.skip_eq (by decide)]
  | array h hitems ih =>
    intro fuel hfuel
    have hlt := h.length_lt
    have hread := ih.isRead fuel hitems.length_lt (by omega)
    rw [Part.IsRead, readValue_items h hitems]
    exact hread []
  | object h hfields ih =>
    intro fuel hfuel
    have hlt := h.length_lt
    have hread := ih.isRead fuel hfields.length_lt (by omega)
    rw [Part.IsRead, readValue_fields h hfields]
    exact hread []
  | lastItem hitem hend ih =>
    intro fuel hfuel done
    have hlt := hend.length_lt
    have hread := ih.isRead fuel hitem.length_lt (by omega)
    rw [Part.IsRead] at hread
    rw [readItems, hread]
    simp only [hend.skip_eq (by decide), List.reverse_cons]
  | item hitem hcomma hitems ih ih' =>
    intro fuel hfuel done
    have hlt := hcomma.length_lt
    have hrest := hitems.length_lt
    have hread := ih.isRead fuel hitem.length_lt (by omega)
    have hmore := ih'.isRead fuel hrest (by have := hitem.length_lt; omega)
    rw [Part.IsRead] at hread
    rw [readItems, hread]
    simp only [hcomma.skip_eq (by decide)]
    rw [hmore, List.reverse_cons, List.append_assoc, List.singleton_append]
  | @lastField key j cs colon text mid rest hkey hcolon hvalue hend ih =>
    intro fuel hfuel done
    have hlt := hend.length_lt
    have hcolon' := hcolon.length_lt
    have hkey' := hkey.length_string
    have hread := ih.isRead fuel hvalue.length_lt (by omega)
    rw [Part.IsRead] at hread
    rw [readFields, hkey.skip_eq (by decide)]
    simp only [readString_writeString, hcolon.skip_eq (by decide), hread, hend.skip_eq (by decide)]
    -- The object is built from all fields at once, so those done before count as well.
    have hobject := objectOf_map ((key, j) :: done)
    rw [List.reverse_cons] at hobject
    rw [← hobject]
    rfl
  | @field key j fields cs colon text mid next rest hkey hcolon hvalue hcomma hfields ih ih' =>
    intro fuel hfuel done
    have hlt := hcomma.length_lt
    have hrest := hfields.length_lt
    have hcolon' := hcolon.length_lt
    have hkey' := hkey.length_string
    have hread := ih.isRead fuel hvalue.length_lt (by omega)
    have hmore := ih'.isRead fuel hrest (by have := hvalue.length_lt; omega)
    rw [Part.IsRead] at hread
    rw [readFields, hkey.skip_eq (by decide)]
    simp only [readString_writeString, hcolon.skip_eq (by decide), hread,
      hcomma.skip_eq (by decide)]
    have hnext := hmore ((key, j) :: done)
    rw [List.reverse_cons, List.append_assoc, List.singleton_append] at hnext
    exact hnext

theorem read?_of_spells {text : String} {j : Json} (h : Spells (.value j) text.toList []) :
    read? text = some j := by
  have hread : readValue (text.toList.length + 1) text.toList = some (j, []) :=
    h.isReadable text.toList.length (Nat.le_add_left _ _)
  simp only [read?, hread]
  rfl

/-! ## Both layouts -/

/-- Values whose numbers are integers and whose strings have a text. -/
inductive Plain : Json → Prop
  | null : Plain .null
  | bool (b : Bool) : Plain (.bool b)
  | integer (n : Int) : Plain (.integer n)
  | string (s : String) : Plain (.string s)
  | array {items : List Json} (h : ∀ j ∈ items, Plain j) : Plain (.array items)
  | object {fields : List (String × Json)} (h : ∀ f ∈ fields, Plain f.2) : Plain (.object fields)

@[simp] theorem plain_nat (n : Nat) : Plain (.nat n) := .integer n

@[simp] theorem plain_string (s : String) : Plain (.string s) := .string s

/-- What is written in front of a text is the value, unless the text could go on a number. -/
def Writes (write : List Char → List Char) (j : Json) : Prop :=
  ∀ rest, EndsNumber rest → Spells (.value j) (write rest) rest

theorem endsNumber_nil : EndsNumber [] := by
  intro c h
  cases h

theorem Blanks.trans {cs mid rest : List Char} (h : Blanks cs mid) (h' : Blanks mid rest) :
    Blanks cs rest := by
  induction h with
  | none => exact h'
  | more hc _ ih => exact .more hc (ih h')

theorem Spells.of_blanks {part : Part} {cs mid rest : List Char} (hblanks : Blanks cs mid)
    (h : Spells part mid rest) : Spells part cs rest := by
  induction h with
  | null h => exact .null (hblanks.trans h)
  | yes h => exact .yes (hblanks.trans h)
  | no h => exact .no (hblanks.trans h)
  | integer h hrest => exact .integer (hblanks.trans h) hrest
  | string h => exact .string (hblanks.trans h)
  | noItems h hend => exact .noItems (hblanks.trans h) hend
  | array h hitems => exact .array (hblanks.trans h) hitems
  | noFields h hend => exact .noFields (hblanks.trans h) hend
  | object h hfields => exact .object (hblanks.trans h) hfields
  | lastItem _ hend ih => exact .lastItem (ih hblanks) hend
  | item _ hcomma hitems ih => exact .item (ih hblanks) hcomma hitems
  | lastField hkey hcolon hvalue hend => exact .lastField (hblanks.trans hkey) hcolon hvalue hend
  | field hkey hcolon hvalue hcomma hfields =>
    exact .field (hblanks.trans hkey) hcolon hvalue hcomma hfields

theorem Writes.spells {write : List Char → List Char} {j : Json} (h : Writes write j) (c : Char)
    (rest : List Char) (hc : c.isDigit = false ∧ c ≠ '.' ∧ c ≠ 'e' ∧ c ≠ 'E') :
    Spells (.value j) (write (c :: rest)) (c :: rest) := by
  refine h (c :: rest) fun c' hc' => ?_
  cases hc'
  exact hc

/-- The items of an array are spelled one by one up to the bracket. -/
theorem spells_writeItems {item : Json} {items : List Json}
    (h : ∀ j ∈ item :: items, Writes j.writeCompact j) (rest : List Char) :
    Spells (.items (item :: items)) (writeItems (item :: items) (']' :: rest)) rest := by
  induction items generalizing item with
  | nil => exact .lastItem ((h item List.mem_cons_self).spells ']' rest (by decide)) (.none _)
  | cons next more ih =>
    have hmore := ih fun j hj => h j (List.mem_cons_of_mem item hj)
    exact .item ((h item List.mem_cons_self).spells ',' _ (by decide)) (.none _) hmore

theorem spells_writeFields {field : String × Json} {fields : List (String × Json)}
    (h : ∀ f ∈ field :: fields, Writes f.2.writeCompact f.2) (rest : List Char) :
    Spells (.fields (field :: fields)) (writeFields (field :: fields) ('\x7d' :: rest)) rest := by
  induction fields generalizing field with
  | nil =>
    obtain ⟨key, value⟩ := field
    have hvalue := h (key, value) List.mem_cons_self
    exact .lastField (.none _) (.none _) (hvalue.spells '\x7d' rest (by decide)) (.none _)
  | cons next more ih =>
    obtain ⟨key, value⟩ := field
    have hmore := ih fun f hf => h f (List.mem_cons_of_mem (key, value) hf)
    have hvalue := h (key, value) List.mem_cons_self
    exact .field (.none _) (.none _) (hvalue.spells ',' _ (by decide)) (.none _) hmore

/-- In the compact layout every plain value is spelled, by induction on the value. -/
theorem Plain.writes_compact {j : Json} (h : Plain j) : Writes j.writeCompact j := by
  induction h with
  | null => exact fun rest _ => .null (.none _)
  | bool b =>
    cases b with
    | true => exact fun rest _ => .yes (.none _)
    | false => exact fun rest _ => .no (.none _)
  | integer n => exact fun rest hrest => .integer (.none _) hrest
  | string s => exact fun rest _ => .string (.none _)
  | @array items _ ih =>
    intro rest _
    cases items with
    | nil => exact .noItems (.none _) (.none _)
    | cons item items => exact .array (.none _) (spells_writeItems ih rest)
  | @object fields _ ih =>
    intro rest _
    cases fields with
    | nil => exact .noFields (.none _) (.none _)
    | cons field fields => exact .object (.none _) (spells_writeFields ih rest)

theorem blanks_newLine (level : Nat) (rest : List Char) : Blanks (newLine level rest) rest := by
  refine .more rfl ?_
  induction 2 * level with
  | zero => exact .none rest
  | succ n ih => exact .more rfl ih

theorem spells_writePrettyItems {level : Nat} {item : Json} {items : List Json}
    (h : ∀ j ∈ item :: items, Writes (writePretty (level + 1) j) j) (rest : List Char) :
    Spells (.items (item :: items))
      (newLine (level + 1)
        (writePretty (level + 1) item (writePrettyItems level items (']' :: rest)))) rest := by
  refine .of_blanks (blanks_newLine _ _) ?_
  induction items generalizing item with
  | nil =>
    exact .lastItem ((h item List.mem_cons_self).spells '\n' _ (by decide)) (blanks_newLine level _)
  | cons next more ih =>
    have hmore := ih fun j hj => h j (List.mem_cons_of_mem item hj)
    exact .item ((h item List.mem_cons_self).spells ',' _ (by decide)) (.none _)
      (.of_blanks (blanks_newLine _ _) hmore)

theorem spells_writePrettyFields {level : Nat} {field : String × Json}
    {fields : List (String × Json)}
    (h : ∀ f ∈ field :: fields, Writes (writePretty (level + 1) f.2) f.2) (rest : List Char) :
    Spells (.fields (field :: fields))
      (newLine (level + 1)
        (writePrettyField (level + 1) field (writePrettyFields level fields ('\x7d' :: rest))))
      rest := by
  refine .of_blanks (blanks_newLine _ _) ?_
  have hspace : ∀ cs, Blanks (' ' :: cs) cs := fun cs => .more rfl (.none cs)
  induction fields generalizing field with
  | nil =>
    obtain ⟨key, value⟩ := field
    have hend := blanks_newLine level ('\x7d' :: rest)
    have hvalue := h (key, value) List.mem_cons_self
    exact .lastField (.none _) (.none _)
      (.of_blanks (hspace _) (hvalue.spells '\n' _ (by decide))) hend
  | cons next more ih =>
    obtain ⟨key, value⟩ := field
    have hmore := ih fun f hf => h f (List.mem_cons_of_mem (key, value) hf)
    have hvalue := h (key, value) List.mem_cons_self
    exact .field (.none _) (.none _)
      (.of_blanks (hspace _) (hvalue.spells ',' _ (by decide))) (.none _)
      (.of_blanks (blanks_newLine _ _) hmore)

/-- In the layout with rows every plain value is spelled at any level. -/
theorem Plain.writes_pretty {j : Json} (h : Plain j) (level : Nat) :
    Writes (writePretty level j) j := by
  induction h generalizing level with
  | null => exact fun rest _ => .null (.none _)
  | bool b =>
    cases b with
    | true => exact fun rest _ => .yes (.none _)
    | false => exact fun rest _ => .no (.none _)
  | integer n => exact fun rest hrest => .integer (.none _) hrest
  | string s => exact fun rest _ => .string (.none _)
  | @array items _ ih =>
    intro rest _
    cases items with
    | nil => exact .noItems (.none _) (.none _)
    | cons item items =>
      exact .array (.none _) (spells_writePrettyItems (fun j hj => ih j hj (level + 1)) rest)
  | @object fields _ ih =>
    intro rest _
    cases fields with
    | nil => exact .noFields (.none _) (.none _)
    | cons field fields =>
      exact .object (.none _) (spells_writePrettyFields (fun f hf => ih f hf (level + 1)) rest)

theorem read?_compact {j : Json} (h : Plain j) : read? j.compact = some j := by
  apply read?_of_spells
  rw [compact, String.toList_ofList]
  exact h.writes_compact [] endsNumber_nil

theorem read?_pretty {j : Json} (h : Plain j) : read? j.pretty = some j := by
  apply read?_of_spells
  rw [pretty, String.toList_ofList]
  exact h.writes_pretty 0 [] endsNumber_nil

end ScopeLint.Json
