import Mathlib.Data.List.TakeWhile
import ScopeLint.Proofs.Escaping

/-!
# Reading up to a seam

A pattern that is put in brackets within a larger one is read as if it stood alone: no part of it
looks at what stands behind the closing bracket.  There is one exception.  Where blanks and comments
are passed over, a comment at the end of the pattern goes on behind it.  So it is asked that
something is left of the pattern after a part was read, or that blanks have a meaning there.
-/

namespace ScopeLint.Pattern

/-- What stands behind the text was not passed over: something is left of the text, or blanks and
comments have a meaning. -/
def Settled (f : Flags) (rest : List Char) : Prop := rest ≠ [] ∨ f.spaced = false

variable {f : Flags} {behind : List Char}

/-- What begins a text up to the seam and holds no closing bracket stands in front of the seam. -/
theorem exists_append_of_append (start : List Char) {cs after : List Char} (hstart : ')' ∉ start)
    (h : cs ++ ')' :: behind = start ++ after) :
    ∃ after', cs = start ++ after' ∧ after = after' ++ ')' :: behind := by
  induction start generalizing cs with
  | nil => exact ⟨cs, rfl, h.symm⟩
  | cons c start ih =>
    rw [List.mem_cons, not_or] at hstart
    cases cs with
    | nil => exact absurd (List.cons.inj h).1 hstart.1
    | cons d cs =>
      obtain ⟨rfl, hrest⟩ := List.cons.inj h
      obtain ⟨after', rfl, hafter⟩ := ih hstart.2 hrest
      exact ⟨after', rfl, hafter⟩

/-- What does not begin a text does not begin it with the seam in sight either. -/
theorem append_ne_append (start : List Char) {cs : List Char} (hstart : ')' ∉ start)
    (h : ∀ ds, cs = start ++ ds → False) (ds : List Char) :
    cs ++ ')' :: behind = start ++ ds → False := by
  intro heq
  obtain ⟨after, hcs, -⟩ := exists_append_of_append start hstart heq
  exact h after hcs

/-! ## Blanks and comments -/

/-- Where something is left, what is passed over is the same with more behind it. -/
theorem skipIgnored_append {comment : Bool} {cs : List Char} (h : skipIgnored comment cs ≠ [])
    (behind : List Char) :
    skipIgnored comment (cs ++ behind) = skipIgnored comment cs ++ behind := by
  fun_induction skipIgnored comment cs with
  | case1 => exact absurd rfl h
  | case2 c rest ih => exact ih h
  | case3 c rest hblank ih =>
    rw [List.cons_append, skipIgnored, if_pos hblank]
    exact ih h
  | case4 rest hblank ih =>
    rw [List.cons_append, skipIgnored, if_neg hblank, if_pos rfl]
    exact ih h
  | case5 c rest hblank hhash =>
    rw [List.cons_append, skipIgnored, if_neg hblank, if_neg hhash]

theorem Flags.skip_append {cs : List Char} (h : Settled f (f.skip cs)) (behind : List Char) :
    f.skip (cs ++ behind) = f.skip cs ++ behind := by
  unfold skip at h ⊢
  split
  case isTrue hspaced =>
    rw [if_pos hspaced] at h
    rcases h with h | h
    · exact skipIgnored_append h behind
    · rw [h] at hspaced
      cases hspaced
  case isFalse => rfl

theorem Flags.skip_nil (f : Flags) : f.skip [] = [] := by
  unfold skip
  split <;> rfl

/-- Where something is left, there was something before. -/
theorem Flags.ne_nil_of_skip {cs : List Char} (h : f.skip cs ≠ []) : cs ≠ [] := by
  rintro rfl
  exact h f.skip_nil

/-- Where something is left behind a part, nothing behind it was looked at. -/
theorem Flags.readPart_append {isPart : Char → Bool} {part digits cs rest : List Char}
    {comment : Bool} (h : f.readPart isPart part comment cs = (digits, rest)) (hrest : rest ≠ [])
    (behind : List Char) :
    f.readPart isPart part comment (cs ++ behind) = (digits, rest ++ behind) := by
  induction cs generalizing part comment with
  | nil => exact absurd (Prod.mk.inj h).2.symm hrest
  | cons c cs ih =>
    rw [List.cons_append]
    unfold readPart at h ⊢
    split at h
    case isTrue hcomment => rw [if_pos hcomment]; exact ih h
    case isFalse hcomment =>
      rw [if_neg hcomment]
      split at h
      case isTrue hpart => rw [if_pos hpart]; exact ih h
      case isFalse hpart =>
        rw [if_neg hpart]
        split at h
        case isTrue hblank => rw [if_pos hblank]; exact ih h
        case isFalse hblank =>
          rw [if_neg hblank]
          split at h
          case isTrue hhash => rw [if_pos hhash]; exact ih h
          case isFalse hhash =>
            rw [if_neg hhash]
            obtain ⟨rfl, rfl⟩ := Prod.mk.inj h
            rfl

/-! ## Escapes -/

theorem readFixedCode_nil {digits : List Char} {width : Nat} {c : Char} {rest : List Char}
    (h : readFixedCode f digits width [] = some (c, rest)) : rest = [] := by
  cases width with
  | zero =>
    obtain ⟨_, -, h⟩ := Option.map_eq_some_iff.1 h
    exact (Prod.mk.inj h).2.symm
  | succ width => cases h

/-- A code with a fixed number of digits is read up to the last of them. -/
theorem readFixedCode_append {digits cs rest : List Char} {width : Nat} {c : Char}
    (h : readFixedCode f digits width cs = some (c, rest)) (hrest : Settled f rest)
    (behind : List Char) :
    readFixedCode f digits width (cs ++ ')' :: behind) = some (c, rest ++ ')' :: behind) := by
  induction width generalizing digits cs with
  | zero =>
    obtain ⟨_, hcode, h⟩ := Option.map_eq_some_iff.1 h
    obtain ⟨rfl, rfl⟩ := Prod.mk.inj h
    rw [readFixedCode, hcode]
    rfl
  | succ width ih =>
    cases cs with
    | nil => cases h
    | cons d cs =>
      unfold readFixedCode at h
      obtain ⟨hdigit, h⟩ := Option.ite_none_right_eq_some.1 h
      have hskip : Settled f (f.skip cs) := by
        refine hrest.imp_left fun hne hnil => ?_
        rw [hnil] at h
        exact hne (readFixedCode_nil h)
      rw [List.cons_append, readFixedCode, if_pos hdigit, Flags.skip_append hskip]
      exact ih h

theorem readCode_append {cs rest : List Char} {width : Nat} {c : Char} {braced : Bool}
    (h : readCode f width cs = some (c, braced, rest)) (hrest : Settled f rest)
    (behind : List Char) :
    readCode f width (cs ++ ')' :: behind) = some (c, braced, rest ++ ')' :: behind) := by
  unfold readCode at h ⊢
  split at h
  case h_1 inside hskip =>
    rw [Flags.skip_append (.inl (by simp [hskip])), hskip, List.cons_append]
    simp only
    split at h
    case h_1 digits after hpart =>
      rw [Flags.readPart_append hpart (by simp), List.cons_append]
      obtain ⟨hdigits, h⟩ := Option.ite_none_left_eq_some.1 h
      obtain ⟨_, hcode, h⟩ := Option.map_eq_some_iff.1 h
      cases h
      simp only
      rw [if_neg hdigits, hcode, Flags.skip_append hrest]
      rfl
    case h_2 => cases h
  case h_2 hbrace =>
    obtain ⟨_, hfixed, h⟩ := Option.map_eq_some_iff.1 h
    cases h
    have hskip : Settled f (f.skip cs) := by
      refine hrest.imp_left fun hne hnil => ?_
      rw [hnil] at hfixed
      exact hne (readFixedCode_nil hfixed)
    rw [Flags.skip_append hskip]
    split
    case h_1 inside hopen => exact (append_ne_append ['\x7b'] (by decide) hbrace _ hopen).elim
    case h_2 =>
      rw [readFixedCode_append hfixed hrest]
      rfl

theorem readCoded_append {cs rest : List Char} {width : Nat} {a : Primitive}
    (h : readCoded f width cs = some (a, rest)) (hrest : Settled f rest) (behind : List Char) :
    readCoded f width (cs ++ ')' :: behind) = some (a, rest ++ ')' :: behind) := by
  unfold readCoded at h ⊢
  split at h
  case h_1 c braced after hcode =>
    obtain ⟨hbyte, h⟩ := Option.ite_none_left_eq_some.1 h
    cases h
    rw [readCode_append hcode hrest]
    exact if_neg hbyte
  case h_2 => cases h

theorem readBoundary_append {cs rest : List Char} {a : Primitive}
    (h : readBoundary f cs = some (a, rest)) (behind : List Char) :
    readBoundary f (cs ++ ')' :: behind) = some (a, rest ++ ')' :: behind) := by
  unfold readBoundary at h ⊢
  split at h
  case h_1 inside =>
    rw [List.cons_append]
    simp only
    split at h
    case h_1 => cases h
    case h_2 d ds hpart =>
      cases h
      rw [Flags.readPart_append hpart (by simp)]
      rfl
    case h_3 name after hname hpart =>
      obtain ⟨edge, hedge, h⟩ := Option.map_eq_some_iff.1 h
      cases h
      rw [Flags.readPart_append hpart (by simp), List.cons_append]
      cases name with
      | nil => exact absurd rfl hname
      | cons d ds =>
        show (edgeNamed? (d :: ds)).map _ = _
        rw [hedge]
        rfl
    case h_4 => cases h
  case h_2 hbrace =>
    cases h
    split
    case h_1 inside hopen => exact (append_ne_append ['\x7b'] (by decide) hbrace _ hopen).elim
    case h_2 => rfl

theorem Flags.kind_append {all ascii : CharKind} {negated : Bool} {cs rest : List Char}
    {a : Primitive} (h : f.kind all ascii negated cs = some (a, rest)) (behind : List Char) :
    f.kind all ascii negated (cs ++ behind) = some (a, rest ++ behind) := by
  unfold kind at h ⊢
  split at h
  case isTrue hscripts =>
    cases h
    rw [if_pos hscripts]
  case isFalse hscripts =>
    obtain ⟨hnegated, h⟩ := Option.ite_none_left_eq_some.1 h
    cases h
    rw [if_neg hscripts, if_neg hnegated]

theorem Flags.property_append {negated : Bool} {described : Option (CharSet × Bool)}
    {cs rest : List Char} {a : Primitive} (h : f.property negated described cs = some (a, rest))
    (behind : List Char) :
    f.property negated described (cs ++ behind) = some (a, rest ++ behind) := by
  unfold property at h ⊢
  obtain ⟨hscripts, h⟩ := Option.ite_none_right_eq_some.1 h
  obtain ⟨set, rfl, h⟩ := Option.map_eq_some_iff.1 h
  cases h
  rw [if_pos hscripts]
  rfl

/-- A property ends with a letter or a brace, so nothing is passed over behind it. -/
theorem readProperty_append {negated : Bool} {cs rest : List Char} {a : Primitive}
    (h : readProperty f negated cs = some (a, rest)) (behind : List Char) :
    readProperty f negated (cs ++ behind) = some (a, rest ++ behind) := by
  unfold readProperty at h ⊢
  split at h
  case h_1 => cases h
  case h_2 inside hskip =>
    rw [Flags.skip_append (.inl (by simp [hskip])), hskip, List.cons_append]
    simp only at h ⊢
    split at h
    case h_1 text after hpart =>
      rw [Flags.readPart_append hpart (by simp), List.cons_append]
      exact Flags.property_append h behind
    case h_2 => cases h
  case h_3 c after hbrace hskip =>
    rw [Flags.skip_append (.inl (by simp [hskip])), hskip, List.cons_append]
    split
    case h_1 heq => cases heq
    case h_2 heq => exact (hbrace (List.cons.inj heq).1).elim
    case h_3 heq =>
      obtain ⟨rfl, rfl⟩ := List.cons.inj heq
      exact Flags.property_append h behind

/-- An escape is read as if it stood alone, whatever kind it is of. -/
theorem readEscape_append {cs rest : List Char} {a : Primitive}
    (h : readEscape f cs = some (a, rest)) (hrest : Settled f rest) (behind : List Char) :
    readEscape f (cs ++ ')' :: behind) = some (a, rest ++ ')' :: behind) := by
  cases cs with
  | nil => cases h
  | cons c cs =>
    unfold readEscape at h ⊢
    simp only [List.cons_append] at h ⊢
    split at h
    case isTrue hself =>
      cases h
      rw [if_pos hself]
    case isFalse hself =>
      rw [if_neg hself]
      split at h
      all_goals first
        | exact Flags.kind_append h _
        | exact readBoundary_append h _
        | exact readProperty_append h _
        | exact readCoded_append h hrest _
        | (cases h; rfl)
        | cases h

/-! ## Classes -/

theorem asciiClass?_letters {name : String} {set : CharSet} (h : asciiClass? name = some set) :
    name.toList.all Char.isLower = true := by
  unfold asciiClass? at h
  split at h
  all_goals first | rfl | cases h

theorem takeWhile_sign {a : Char} {name : List Char} (h : a ∉ name) (rest : List Char) :
    (name ++ a :: rest).takeWhile (· != a) = name := by
  rw [List.takeWhile_append_of_pos fun c hc => bne_iff_ne.2 (ne_of_mem_of_not_mem hc h)]
  simp

/-- A text is cut before the first `a`. -/
theorem eq_of_cut {a c : Char} {cs rest : List Char}
    (h : cs.drop (cs.takeWhile (· != a)).length = c :: rest) :
    cs = cs.takeWhile (· != a) ++ a :: rest := by
  induction cs with
  | nil => cases h
  | cons d ds ih =>
    by_cases hd : d = a
    · simp_all
    · have htake : (d :: ds).takeWhile (· != a) = d :: ds.takeWhile (· != a) :=
        List.takeWhile_cons_of_pos (bne_iff_ne.2 hd)
      rw [htake] at h ⊢
      exact congrArg (d :: ·) (ih h)

/-- A named class is written with its name between colons. -/
theorem readAsciiClass_eq_some_iff {cs after : List Char} {set : CharSet} {negated : Bool} :
    readAsciiClass cs = some (set, negated, after) ↔
      ∃ name : List Char, asciiClass? (String.ofList name) = some set ∧
        cs = (':' :: if negated then '^' :: name else name) ++ [':', ']'] ++ after := by
  constructor
  · intro h
    unfold readAsciiClass at h
    split at h
    case h_1 inside =>
      split at h
      rename_i negated' rest hstart
      simp only at h
      split at h
      case h_1 after' hname =>
        obtain ⟨set', hset, h⟩ := Option.map_eq_some_iff.1 h
        cases h
        refine ⟨_, hset, ?_⟩
        have := eq_of_cut hname
        split at hstart
        all_goals
          cases hstart
          simp [← this]
      case h_2 => cases h
    case h_2 => cases h
  · rintro ⟨name, hset, rfl⟩
    have hletters : name.all Char.isLower = true := by simpa using asciiClass?_letters hset
    have hcolon : ':' ∉ name := fun h => absurd (List.all_eq_true.1 hletters _ h) (by decide)
    cases negated with
    | true => simp [readAsciiClass, takeWhile_sign hcolon, hset]
    | false =>
      cases name with
      | nil => cases hset
      | cons c name =>
        have hc : c ≠ '^' := by
          rintro rfl
          simp at hletters
        rw [List.mem_cons, not_or] at hcolon
        simp [readAsciiClass, hc, Ne.symm hcolon.1, takeWhile_sign hcolon.2, hset,
          -String.ofList_cons]

theorem readAsciiClass_append (cs behind : List Char) :
    readAsciiClass (cs ++ ')' :: behind) =
      (readAsciiClass cs).map fun r => (r.1, r.2.1, r.2.2 ++ ')' :: behind) := by
  refine Option.ext fun ⟨set, negated, after⟩ => ?_
  rw [Option.map_eq_some_iff]
  constructor
  · intro h
    obtain ⟨name, hset, h⟩ := readAsciiClass_eq_some_iff.1 h
    have hclose : ')' ∉ (':' :: if negated then '^' :: name else name) ++ [':', ']'] := by
      have hname : ')' ∉ name := fun h =>
        absurd (List.all_eq_true.1 (asciiClass?_letters hset) ')' (by simpa using h)) (by decide)
      cases negated <;> simp [hname]
    obtain ⟨after', rfl, rfl⟩ := exists_append_of_append _ hclose h
    exact ⟨(set, negated, after'), readAsciiClass_eq_some_iff.2 ⟨name, hset, by simp⟩, rfl⟩
  · rintro ⟨⟨set', negated', after'⟩, h, hr⟩
    cases hr
    obtain ⟨name, hset, rfl⟩ := readAsciiClass_eq_some_iff.1 h
    exact readAsciiClass_eq_some_iff.2 ⟨name, hset, by simp⟩

/-- The dashes, or the closing bracket, that stand for themselves at the start of a class. -/
def readFirstSigns (f : Flags) (cs : List Char) : ClassPart × List Char :=
  match cs with
  | '-' :: rest =>
    let (dashes, rest) := f.readPart (· == '-') [] false ('-' :: rest)
    (⟨.single '-', dashes.length, 0⟩, rest)
  | ']' :: rest => (⟨.single ']', 1, 0⟩, f.skip rest)
  | _ => ({}, cs)

theorem readFirstSigns_append {cs rest : List Char} {start : ClassPart}
    (h : readFirstSigns f cs = (start, rest)) (hrest : rest ≠ []) (behind : List Char) :
    readFirstSigns f (cs ++ ')' :: behind) = (start, rest ++ ')' :: behind) := by
  unfold readFirstSigns at h ⊢
  split at h
  case h_1 after =>
    split at h
    rename_i dashes rest' hpart
    cases h
    have hpart := Flags.readPart_append hpart hrest (')' :: behind)
    rw [List.cons_append] at hpart ⊢
    simp only [hpart]
  case h_2 after =>
    cases h
    rw [List.cons_append]
    simp only [Flags.skip_append (.inl hrest)]
  case h_3 hdash hbracket =>
    cases h
    split
    case h_1 h => exact (append_ne_append ['-'] (by decide) hdash _ h).elim
    case h_2 h => exact (append_ne_append [']'] (by decide) hbracket _ h).elim
    case h_3 => rfl

theorem readClassStart_caret {cs rest : List Char} (h : f.skip cs = '^' :: rest) :
    readClassStart f cs = (true, readFirstSigns f (f.skip rest)) := by
  unfold readClassStart readFirstSigns
  rw [h]
  simp only
  generalize f.skip rest = inside
  split
  case h_1 => rfl
  case h_2 => rfl
  case h_3 => simp only

theorem readClassStart_plain {cs : List Char} (h : ∀ rest, f.skip cs ≠ '^' :: rest) :
    readClassStart f cs = (false, readFirstSigns f (f.skip cs)) := by
  unfold readClassStart readFirstSigns
  split
  rename_i negated inside hinside
  split at hinside
  case h_1 rest hskip => exact absurd hskip (h rest)
  case h_2 =>
    cases hinside
    generalize f.skip cs = inside
    split
    case h_1 => rfl
    case h_2 => rfl
    case h_3 => simp only

theorem readClassStart_append {cs rest : List Char} {negated : Bool} {start : ClassPart}
    (h : readClassStart f cs = (negated, start, rest)) (hrest : rest ≠ []) (behind : List Char) :
    readClassStart f (cs ++ ')' :: behind) = (negated, start, rest ++ ')' :: behind) := by
  by_cases hcaret : ∃ after, f.skip cs = '^' :: after
  case pos =>
    obtain ⟨after, hskip⟩ := hcaret
    rw [readClassStart_caret hskip] at h
    obtain ⟨rfl, hsigns⟩ := Prod.mk.inj h
    have hne : f.skip after ≠ [] := by
      intro hnil
      rw [hnil] at hsigns
      exact hrest (Prod.mk.inj hsigns).2.symm
    have hskip' : f.skip (cs ++ ')' :: behind) = '^' :: (after ++ ')' :: behind) := by
      rw [Flags.skip_append (.inl (by simp [hskip])), hskip, List.cons_append]
    rw [readClassStart_caret hskip', Flags.skip_append (.inl hne),
      readFirstSigns_append hsigns hrest]
  case neg =>
    have hcaret : ∀ after, f.skip cs = '^' :: after → False := fun after h => hcaret ⟨after, h⟩
    rw [readClassStart_plain hcaret] at h
    obtain ⟨rfl, hsigns⟩ := Prod.mk.inj h
    have hne : f.skip cs ≠ [] := by
      intro hnil
      rw [hnil] at hsigns
      exact hrest (Prod.mk.inj hsigns).2.symm
    have hskip' := Flags.skip_append (.inl hne) (')' :: behind)
    rw [readClassStart_plain, hskip', readFirstSigns_append hsigns hrest]
    rw [hskip']
    exact append_ne_append ['^'] (by decide) hcaret

theorem readClassItem_literal {c : Char} (hc : c ≠ '\\') (cs : List Char) :
    readClassItem f (c :: cs) =
      if f.allScripts || c.toNat < 128 then some (.literal c, cs) else none := by
  simp [readClassItem]

theorem readClassItem_append {cs rest : List Char} {a : Primitive}
    (h : readClassItem f cs = some (a, rest)) (hrest : Settled f rest) (behind : List Char) :
    readClassItem f (cs ++ ')' :: behind) = some (a, rest ++ ')' :: behind) := by
  cases cs with
  | nil => cases h
  | cons c cs =>
    rw [List.cons_append]
    by_cases hc : c = '\\'
    case pos =>
      subst hc
      unfold readClassItem at h ⊢
      simp only at h ⊢
      split at h
      case h_1 d rest' hitem =>
        obtain ⟨hd, h⟩ := Option.ite_none_right_eq_some.1 h
        cases h
        rw [readEscape_append hitem hrest]
        exact if_pos hd
      case h_2 item hitem =>
        rw [readEscape_append h hrest]
        cases a with
        | literal d => exact absurd h (hitem _ _)
        | set s => rfl
        | assertion e => rfl
    case neg =>
      rw [readClassItem_literal hc] at h ⊢
      obtain ⟨hbyte, h⟩ := Option.ite_none_right_eq_some.1 h
      cases h
      rw [if_pos hbyte]

/-- A range of a class is read as if it stood alone: behind a first sign a dash is looked for, and
behind the dash a second sign. -/
theorem readClassRange_append {cs rest : List Char} {set : CharSet}
    (h : readClassRange f cs = some (set, rest)) (hrest : rest ≠ []) (behind : List Char) :
    readClassRange f (cs ++ ')' :: behind) = some (set, rest ++ ')' :: behind) := by
  unfold readClassRange at h ⊢
  obtain ⟨⟨first, after⟩, hfirst, h⟩ := Option.bind_eq_some_iff.1 h
  simp only at h
  have hne : f.skip after ≠ [] := by
    intro hnil
    rw [hnil] at h
    simp only at h
    split at h
    all_goals cases h
    all_goals exact hrest rfl
  rw [readClassItem_append hfirst (.inl (Flags.ne_nil_of_skip hne))]
  simp only [Option.bind_eq_bind, Option.bind_some]
  rw [Flags.skip_append (.inl hne)]
  generalize f.skip after = ds at h hne ⊢
  split at h
  case h_1 inside =>
    rw [List.cons_append]
    simp only
    have hinside : f.skip inside ≠ [] := by
      intro hnil
      rw [hnil] at h
      cases h
    rw [Flags.skip_append (.inl hinside)]
    generalize f.skip inside = es at h hinside ⊢
    split at h
    case h_1 | h_2 =>
      cases first with
      | literal c => cases h; rfl
      | set s => cases h; rfl
      | assertion e => cases h
    case h_3 hbracket hdash =>
      split
      case h_1 h => exact (append_ne_append [']'] (by decide) hbracket _ h).elim
      case h_2 h => exact (append_ne_append ['-'] (by decide) hdash _ h).elim
      case h_3 =>
        obtain ⟨⟨last, after⟩, hlast, h⟩ := Option.bind_eq_some_iff.1 h
        have hafter : after = rest := by
          cases first <;> cases last
          case literal.literal lo hi =>
            obtain ⟨-, h⟩ := Option.ite_none_right_eq_some.1 h
            cases h
            rfl
          all_goals cases h
        subst hafter
        rw [readClassItem_append hlast (.inl hrest)]
        cases first <;> cases last
        case literal.literal lo hi =>
          obtain ⟨hle, h⟩ := Option.ite_none_right_eq_some.1 h
          cases h
          exact if_pos hle
        all_goals cases h
  case h_2 hdash =>
    split
    case h_1 inside h => exact (append_ne_append ['-'] (by decide) hdash _ h).elim
    case h_2 =>
      cases first with
      | literal c => cases h; rfl
      | set s => cases h; rfl
      | assertion e => cases h

/-- A class that is read to its end is not empty, since its bracket is there. -/
theorem readClassBody_ne_nil {fuel : Nat} {pending : Option PendingOperator} {part : ClassPart}
    {cs : List Char} {r : NestedSet × List Char}
    (h : readClassBody f fuel pending part cs = some r) : f.skip cs ≠ [] := by
  intro hnil
  cases fuel with
  | zero => cases h
  | succ fuel =>
    rw [readClassBody, hnil] at h
    cases h

/-- The parts of a class are read one by one as if the class stood alone, up to its bracket.  With
the seam in sight there is more text and so there may be more fuel. -/
theorem readClassBody_append {fuel fuel' : Nat} {pending : Option PendingOperator}
    {part : ClassPart} {cs rest : List Char} {whole : NestedSet}
    (h : readClassBody f fuel pending part cs = some (whole, rest)) (hfuel : fuel ≤ fuel')
    (behind : List Char) :
    readClassBody f fuel' pending part (cs ++ ')' :: behind) =
      some (whole, rest ++ ')' :: behind) := by
  induction fuel generalizing fuel' pending part cs whole rest with
  | zero => cases h
  | succ fuel ih =>
    obtain ⟨fuel', rfl⟩ : ∃ k, fuel' = k + 1 := ⟨fuel' - 1, by omega⟩
    have hfuel : fuel ≤ fuel' := by omega
    have hskip := readClassBody_ne_nil h
    rw [readClassBody] at h ⊢
    rw [Flags.skip_append (.inl hskip)]
    generalize f.skip cs = ds at h hskip ⊢
    split at h
    case h_1 => cases h
    case h_2 inside => cases h; rfl
    case h_3 inside =>
      rw [List.cons_append]
      simp only [readAsciiClass_append]
      split at h
      case h_1 set negated after hascii =>
        split at h
        case h_1 set' hfinish =>
          simp only [hascii, Option.map_some, hfinish]
          exact ih h hfuel
        case h_2 => cases h
      case h_2 hascii =>
        split at h
        rename_i negated start after hstart
        split at h
        case h_1 inner after' hinner =>
          split at h
          case h_1 set hfinish =>
            have hafter : after ≠ [] := Flags.ne_nil_of_skip (readClassBody_ne_nil hinner)
            simp only [hascii, Option.map_none, readClassStart_append hstart hafter,
              ih hinner hfuel, hfinish]
            exact ih h hfuel
          case h_2 => cases h
        case h_2 => cases h
    case h_4 inside => exact ih h hfuel
    case h_5 inside => exact ih h hfuel
    case h_6 inside => exact ih h hfuel
    case h_7 hnil hclose hopen hinter hdiff hsymm =>
      split at h
      case h_1 set after hrange =>
        have hafter : after ≠ [] := Flags.ne_nil_of_skip (readClassBody_ne_nil h)
        have hnext := ih h hfuel
        split
        case h_1 heq => simp at heq
        case h_2 heq => exact (append_ne_append [']'] (by decide) hclose _ heq).elim
        case h_3 heq => exact (append_ne_append ['['] (by decide) hopen _ heq).elim
        case h_4 heq => exact (append_ne_append ['&', '&'] (by decide) hinter _ heq).elim
        case h_5 heq => exact (append_ne_append ['-', '-'] (by decide) hdiff _ heq).elim
        case h_6 heq => exact (append_ne_append ['~', '~'] (by decide) hsymm _ heq).elim
        case h_7 => rw [readClassRange_append hrange hafter]; exact hnext
      case h_2 => cases h

/-- A class is read as if it stood alone, because it ends with its bracket. -/
theorem readClass_append {cs rest : List Char} {s : NestedSet}
    (h : readClass f cs = some (s, rest)) (behind : List Char) :
    readClass f (cs ++ ')' :: behind) = some (s, rest ++ ')' :: behind) := by
  unfold readClass at h ⊢
  split at h
  rename_i negated start after hstart
  obtain ⟨⟨inner, after'⟩, hinner, h⟩ := Option.bind_eq_some_iff.1 h
  have hafter : after ≠ [] := Flags.ne_nil_of_skip (readClassBody_ne_nil hinner)
  rw [readClassStart_append hstart hafter]
  obtain ⟨set, hset, h⟩ := Option.bind_eq_some_iff.1 h
  cases h
  exact Option.bind_eq_some_iff.2 ⟨_, readClassBody_append hinner (by simp) _,
    Option.bind_eq_some_iff.2 ⟨set, hset, rfl⟩⟩

end ScopeLint.Pattern
