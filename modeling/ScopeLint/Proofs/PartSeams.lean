import ScopeLint.Proofs.PatternSeams

/-!
# Parts of a pattern before a seam

The openings of groups, repetitions and single parts are read as if the pattern stood alone.  What
an opening means may hang on the names before it in one way only: a name that is taken is refused.
-/

namespace ScopeLint.Pattern

variable {f : Flags} {behind : List Char}

/-! ## Openings of groups -/

/-- Flags are read up to the sign behind them. -/
theorem readFlags_append {g g' : FlagList} {cs rest : List Char} {c : Char}
    (h : readFlags g cs = some (g', c, rest)) (behind : List Char) :
    readFlags g (cs ++ behind) = some (g', c, rest ++ behind) := by
  fun_induction readFlags g cs with
  | case1 | case2 | case4 | case6 | case8 | case10 => cases h
  | case3 g cs hdangling | case5 g cs hdangling =>
    cases h
    rw [List.cons_append, readFlags, if_neg hdangling]
  | case7 g cs hnegated ih =>
    rw [List.cons_append, readFlags, if_neg hnegated]
    exact ih h
  | case9 g d cs _ _ _ hnew flags hflags ih =>
    rw [List.cons_append, readFlags, if_neg hnew, hflags]
    · exact ih h
    all_goals assumption

/-- The name of a group ends at its angle bracket. -/
theorem readName_eq_some_iff {cs rest : List Char} {name : String} :
    readName cs = some (name, rest) ↔
      ∃ first others, '>' ∉ first :: others ∧
        (isNameChar true first && others.all (isNameChar false)) = true ∧
        name = String.ofList (first :: others) ∧ cs = first :: others ++ '>' :: rest := by
  constructor
  · intro h
    unfold readName at h
    simp only at h
    split at h
    case h_1 first others c rest' hname hrest =>
      obtain ⟨hgood, h⟩ := Option.ite_none_right_eq_some.1 h
      cases h
      refine ⟨first, others, ?_, hgood, by rw [hname], ?_⟩
      · rw [← hname]
        exact fun h => by simpa using List.mem_takeWhile_imp h
      · rw [← hname]
        exact eq_of_cut hrest
    case h_2 => cases h
  · rintro ⟨first, others, hangle, hgood, rfl, rfl⟩
    have hcut := takeWhile_sign hangle rest
    rw [readName]
    simp only [hcut, List.drop_left]
    exact if_pos hgood

theorem readName_append {cs rest : List Char} {name : String}
    (h : readName cs = some (name, rest)) (behind : List Char) :
    readName (cs ++ behind) = some (name, rest ++ behind) := by
  obtain ⟨first, others, hangle, hgood, rfl, rfl⟩ := readName_eq_some_iff.1 h
  exact readName_eq_some_iff.2 ⟨first, others, hangle, hgood, rfl, by simp⟩

/-- A group with a name, which must be new. -/
def captureNew (names : List String) (name : String) (rest : List Char) :
    Option (GroupStart × List Char) :=
  if names.contains name then none else some (.capture name, rest)

/-- Flags, for the rest of the enclosing group or for a group of their own. -/
def openWith (f : FlagList) (stop : Char) (rest : List Char) : Option (GroupStart × List Char) :=
  if stop = ':' then some (.plain f.flags, rest)
  else if f.letters.isEmpty then none
  else some (.setFlags f.flags, rest)

section
variable {names : List String} {cs inside : List Char}

theorem readGroupStart_named (hskip : f.skip cs = '?' :: 'P' :: '<' :: inside) :
    readGroupStart f names cs = (readName inside).bind fun r => captureNew names r.1 r.2 := by
  unfold readGroupStart
  rw [hskip]
  simp only
  cases readName inside <;> rfl

theorem readGroupStart_angle (hskip : f.skip cs = '?' :: '<' :: inside)
    (hequals : ∀ tail, inside = '=' :: tail → False)
    (hbang : ∀ tail, inside = '!' :: tail → False) :
    readGroupStart f names cs = (readName inside).bind fun r => captureNew names r.1 r.2 := by
  unfold readGroupStart
  rw [hskip]
  simp only
  cases readName inside <;> rfl

theorem readGroupStart_flags (hskip : f.skip cs = '?' :: inside)
    (hname : ∀ tail, inside = 'P' :: '<' :: tail → False)
    (hangle : ∀ tail, inside = '<' :: tail → False) :
    readGroupStart f names cs =
      (readFlags { flags := f } inside).bind fun r => openWith r.1 r.2.1 r.2.2 := by
  unfold readGroupStart
  rw [hskip]
  have hequals (tail : List Char) : inside = '<' :: '=' :: tail → False := hangle _
  have hbang (tail : List Char) : inside = '<' :: '!' :: tail → False := hangle _
  simp only
  cases hread : readFlags { flags := f } inside with
  | none => rfl
  | some r =>
    obtain ⟨g, stop, rest⟩ := r
    simp only [Option.bind_some, openWith]
    split
    case h_1 heq => cases heq; rfl
    case h_2 hstop heq =>
      cases heq
      rw [if_neg hstop]
    case h_3 heq => cases heq

theorem readGroupStart_bare (hmark : ∀ tail, f.skip cs = '?' :: tail → False) :
    readGroupStart f names cs = some (.capture none, f.skip cs) := by
  unfold readGroupStart
  generalize f.skip cs = ds at hmark
  simp only
  split
  case h_6 => rfl
  all_goals exact (hmark _ rfl).elim

end

/-- An opening is read as if it stood alone, and a name is read up to its end; the names before it
may only forbid it. -/
theorem readGroupStart_append {names names' : List String} {cs rest : List Char} {g : GroupStart}
    {r : GroupStart × List Char} (h : readGroupStart f names cs = some (g, rest))
    (hne : f.skip cs ≠ []) (h' : readGroupStart f names' (cs ++ ')' :: behind) = some r) :
    r = (g, rest ++ ')' :: behind) := by
  have hskip' := Flags.skip_append (.inl hne) (')' :: behind)
  have hcapture {inside : List Char}
      (h : ((readName inside).bind fun r => captureNew names r.1 r.2) = some (g, rest))
      (h' : ((readName (inside ++ ')' :: behind)).bind fun r => captureNew names' r.1 r.2) =
        some r) : r = (g, rest ++ ')' :: behind) := by
    obtain ⟨⟨name, after⟩, hname, h⟩ := Option.bind_eq_some_iff.1 h
    rw [readName_append hname, Option.bind_some] at h'
    obtain ⟨-, h⟩ := Option.ite_none_left_eq_some.1 h
    obtain ⟨-, h'⟩ := Option.ite_none_left_eq_some.1 h'
    cases h
    exact (Option.some.inj h').symm
  by_cases hmark : ∃ inside, f.skip cs = '?' :: inside
  case neg =>
    have hmark : ∀ inside, f.skip cs = '?' :: inside → False := fun inside h => hmark ⟨inside, h⟩
    rw [readGroupStart_bare hmark] at h
    rw [readGroupStart_bare (hskip' ▸ append_ne_append ['?'] (by decide) hmark), hskip'] at h'
    cases h
    exact (Option.some.inj h').symm
  obtain ⟨inside, hskip⟩ := hmark
  rw [hskip, List.cons_append] at hskip'
  by_cases hname : ∃ tail, inside = 'P' :: '<' :: tail
  case pos =>
    obtain ⟨tail, rfl⟩ := hname
    rw [readGroupStart_named hskip] at h
    rw [readGroupStart_named hskip'] at h'
    exact hcapture h h'
  have hname : ∀ tail, inside = 'P' :: '<' :: tail → False := fun tail h => hname ⟨tail, h⟩
  by_cases hangle : ∃ tail, inside = '<' :: tail
  case pos =>
    obtain ⟨tail, rfl⟩ := hangle
    have hequals : ∀ after, tail = '=' :: after → False := by
      rintro after rfl
      rw [readGroupStart, hskip] at h
      cases h
    have hbang : ∀ after, tail = '!' :: after → False := by
      rintro after rfl
      rw [readGroupStart, hskip] at h
      cases h
    rw [readGroupStart_angle hskip hequals hbang] at h
    rw [readGroupStart_angle hskip' (append_ne_append ['='] (by decide) hequals)
      (append_ne_append ['!'] (by decide) hbang)] at h'
    exact hcapture h h'
  have hangle : ∀ tail, inside = '<' :: tail → False := fun tail h => hangle ⟨tail, h⟩
  rw [readGroupStart_flags hskip hname hangle] at h
  rw [readGroupStart_flags hskip' (append_ne_append ['P', '<'] (by decide) hname)
    (append_ne_append ['<'] (by decide) hangle)] at h'
  obtain ⟨⟨flags, stop, after⟩, hflags, h⟩ := Option.bind_eq_some_iff.1 h
  rw [readFlags_append hflags, Option.bind_some] at h'
  unfold openWith at h h'
  split at h
  case isTrue hstop =>
    rw [if_pos hstop] at h'
    cases h
    exact (Option.some.inj h').symm
  case isFalse hstop =>
    obtain ⟨hletters, h⟩ := Option.ite_none_left_eq_some.1 h
    rw [if_neg hstop, if_neg hletters] at h'
    cases h
    exact (Option.some.inj h').symm

/-! ## Repetitions -/

theorem dropWhile_seam {isPart : Char → Bool} {cs : List Char} (h : cs.dropWhile isPart ≠ []) :
    (cs ++ behind).dropWhile isPart = cs.dropWhile isPart ++ behind := by
  rw [List.dropWhile_append, if_neg (by simpa using h)]

theorem readCount_append {cs rest : List Char} {n : Nat} (h : readCount f cs = some (n, rest))
    (hrest : rest ≠ []) (behind : List Char) :
    readCount f (cs ++ ')' :: behind) = some (n, rest ++ ')' :: behind) := by
  unfold readCount at h ⊢
  split at h
  rename_i digits after hpart
  simp only at h
  obtain ⟨hdigits, h⟩ := Option.ite_none_left_eq_some.1 h
  obtain ⟨rfl, rfl⟩ := Prod.mk.inj (Option.some.inj h)
  have hafter : after.dropWhile Text.isBlank ≠ [] := hrest
  have hne : after ≠ [] := by
    rintro rfl
    exact hafter rfl
  have hpart' := Flags.readPart_append hpart hne (')' :: behind)
  have hblanks : cs.dropWhile Text.isBlank ≠ [] := by
    intro hnil
    rw [hnil] at hpart
    obtain ⟨rfl, -⟩ := Prod.mk.inj hpart
    simp at hdigits
  rw [dropWhile_seam hblanks, hpart']
  simp only
  rw [if_neg hdigits, dropWhile_seam hafter]

/-- The counts of a repetition end with a brace, so nothing behind it is looked at. -/
theorem readCounts_append {cs rest : List Char} {low : Nat} {high : Option Nat}
    (h : readCounts f cs = some (low, high, rest)) (behind : List Char) :
    readCounts f (cs ++ ')' :: behind) = some (low, high, rest ++ ')' :: behind) := by
  unfold readCounts at h ⊢
  have hne : f.skip cs ≠ [] := by
    intro hnil
    rw [hnil] at h
    cases h
  rw [Flags.skip_append (.inl hne)]
  split at h
  case h_1 low after hlow =>
    cases h
    rw [readCount_append hlow (by simp), List.cons_append]
    rfl
  case h_2 low after hlow =>
    rw [readCount_append hlow (by simp), List.cons_append]
    simp only
    have hne : f.skip after ≠ [] := by
      intro hnil
      rw [hnil] at h
      cases h
    rw [Flags.skip_append (.inl hne)]
    generalize f.skip after = ds at h hne ⊢
    split at h
    case h_1 => cases h; rfl
    case h_2 hbrace =>
      split at h
      case h_1 high after' hhigh =>
        obtain ⟨hle, h⟩ := Option.ite_none_right_eq_some.1 h
        cases h
        split
        case h_1 heq => exact (append_ne_append ['\x7d'] (by decide) hbrace _ heq).elim
        case h_2 =>
          rw [readCount_append hhigh (by simp), List.cons_append]
          exact if_pos hle
      case h_2 => cases h
  case h_3 => cases h

variable {p q : Progress}

/-- The last part repeated, whose greed is inverted if the repetition is `marked`. -/
def Progress.repeated (p : Progress) (min : Nat) (max : Option Nat) (marked : Bool) (a : Item) :
    Progress :=
  { p with last := some ⟨.repeated (marked == p.flags.swapGreed) min max a.node, a.height + 1⟩ }

theorem Progress.repeatLast_marked {a : Item} (h : p.last = some a) (min : Nat) (max : Option Nat)
    (rest : List Char) :
    p.repeatLast min max ('?' :: rest) = some (p.repeated min max true a, rest) := by
  rw [repeatLast, h]
  rfl

theorem Progress.repeatLast_plain {a : Item} (h : p.last = some a) (min : Nat) (max : Option Nat)
    {rest : List Char} (hmark : ∀ tail, rest = '?' :: tail → False) :
    p.repeatLast min max rest = some (p.repeated min max false a, rest) := by
  unfold repeatLast
  rw [h]
  simp only [repeated]

/-- A repetition looks for a question mark behind it, and the seam is none. -/
theorem Progress.repeatLast_append {min : Nat} {max : Option Nat} {rest rest' : List Char}
    (h : p.repeatLast min max rest = some (q, rest')) (names : List String) (behind : List Char) :
    { p with names := names }.repeatLast min max (rest ++ ')' :: behind) =
      some ({ q with names := names }, rest' ++ ')' :: behind) := by
  rcases Option.eq_none_or_eq_some p.last with hlast | ⟨a, hlast⟩
  · unfold repeatLast at h
    rw [hlast] at h
    cases h
  · by_cases hmark : ∃ tail, rest = '?' :: tail
    case pos =>
      obtain ⟨tail, rfl⟩ := hmark
      rw [repeatLast_marked hlast] at h
      cases h
      exact repeatLast_marked (p := { p with names := names }) hlast min max _
    case neg =>
      have hmark : ∀ tail, rest = '?' :: tail → False := fun tail h => hmark ⟨tail, h⟩
      rw [repeatLast_plain hlast min max hmark] at h
      cases h
      exact repeatLast_plain (p := { p with names := names }) hlast min max
        (append_ne_append ['?'] (by decide) hmark)

theorem Progress.repeatLast_nil {min : Nat} {max : Option Nat} {rest : List Char}
    (h : p.repeatLast min max [] = some (q, rest)) : rest = [] := by
  unfold repeatLast at h
  split at h
  case h_1 => cases h
  case h_2 => cases h; rfl

/-! ## Parts -/

/-- A part is read as if it stood alone, where nothing has been passed over up to the seam. -/
theorem readItem_append {c : Char} {rest rest' : List Char}
    (h : readItem p c rest = some (q, rest')) (hrest : Settled p.flags rest')
    (names : List String) (behind : List Char) :
    readItem { p with names := names } c (rest ++ ')' :: behind) =
      some ({ q with names := names }, rest' ++ ')' :: behind) := by
  unfold readItem at h ⊢
  split at h
  case h_1 | h_2 | h_3 => exact Progress.repeatLast_append h names behind
  case h_4 =>
    split at h
    case h_1 a low high after hlast hcounts =>
      have hskip : Settled p.flags (p.flags.skip after) := by
        refine hrest.imp_left fun hne hnil => ?_
        rw [hnil] at h
        exact hne (Progress.repeatLast_nil h)
      simp only [hlast, readCounts_append hcounts, Flags.skip_append hskip]
      exact hlast ▸ Progress.repeatLast_append h names behind
    case h_2 => cases h
  case h_5 =>
    obtain ⟨⟨s, after⟩, hclass, h⟩ := Option.map_eq_some_iff.1 h
    cases h
    simp only [readClass_append hclass]
    rfl
  case h_6 =>
    obtain ⟨⟨a, after⟩, hescape, h⟩ := Option.map_eq_some_iff.1 h
    cases h
    simp only [readEscape_append hescape hrest]
    cases a <;> rfl
  case h_7 =>
    obtain ⟨set, hdot, h⟩ := Option.map_eq_some_iff.1 h
    cases h
    simp only [hdot]
    rfl
  case h_8 => cases h; rfl
  case h_9 => cases h; rfl
  case h_10 => cases h; rfl

end ScopeLint.Pattern
