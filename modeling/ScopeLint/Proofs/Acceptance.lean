import Mathlib.Data.List.TakeWhile
import ScopeLint.Proofs.Escaping
import ScopeLint.Proofs.Reported

/-!
# Which tables are accepted

A table is compiled entry by entry: keywords, spacers, bracket pairs, and the pattern of variables.
Whether an entry is faulty, and what is said of it, can be told from the entry and its place alone.
So a table is refused for its first faulty entry and accepted when it has none.  A keyword that is
not blank is at fault only when its pattern grows too large, which takes hundreds of characters.
-/

namespace ScopeLint

open Pattern (Node)

theorem Text.trimChars_eq_nil_iff {cs : List Char} : trimChars cs = [] ↔ cs.all isBlank = true := by
  rw [List.all_eq_true]
  constructor
  · intro h c hc
    have hrest : ∀ c ∈ cs.dropWhile isBlank, isBlank c = true := by
      intro c hc
      exact List.dropWhile_eq_nil_iff.1 (List.reverse_eq_nil_iff.1 h) c (List.mem_reverse.2 hc)
    rw [← @List.takeWhile_append_dropWhile _ isBlank cs] at hc
    rcases List.mem_append.1 hc with hc | hc
    · exact List.mem_takeWhile_imp hc
    · exact hrest c hc
  · intro h
    rw [trimChars, List.dropWhile_eq_nil_iff.2 h]
    rfl

/-! ## Refusals -/

/-- The refusal, if there is one. -/
def refusal? {α : Type} : Except LintError α → Option LintError
  | .ok _ => none
  | .error e => some e

section

variable {α β : Type} {x : Except LintError α}

theorem refusal?_eq_some_iff {e : LintError} : refusal? x = some e ↔ x = .error e := by
  cases x <;> simp [refusal?]

theorem refusal?_eq_none_iff : refusal? x = none ↔ ∃ a, x = .ok a := by
  cases x <;> simp [refusal?]

/-- Of two steps, the second is refused only if the first is not. -/
theorem refusal?_bind {f : α → Except LintError β} {next : Option LintError}
    (h : ∀ a, refusal? (f a) = next) : refusal? (x >>= f) = (refusal? x).or next := by
  cases x with
  | error e => rfl
  | ok a => exact h a

theorem refusal?_bind_pure (f : α → β) : refusal? (x >>= fun a => pure (f a)) = refusal? x := by
  cases x <;> rfl

theorem refusal?_discard : refusal? (discard x) = refusal? x := by
  cases x <;> rfl

end

/-- Can the text be read as a pattern that is light enough? -/
def Pattern.compiles (source : String) : Bool :=
  (Node.read? false source.toList).any Node.isLight

theorem Pattern.refusal?_compile (origin : Origin) (source : String) :
    refusal? (compile origin false source) =
      if compiles source then none else some (.invalidPattern origin source) := by
  unfold compile compiles
  cases Node.read? false source.toList with
  | none => rfl
  | some node =>
    show refusal? (if node.isLight = true then _ else _) = if node.isLight = true then _ else _
    split <;> rfl

namespace RuleTable

theorem refusal?_checkNonEmpty (origin : Origin) (pattern : String) :
    refusal? (checkNonEmpty origin pattern) =
      if pattern = "" then some (.emptyPattern origin) else none := by
  unfold checkNonEmpty
  split <;> rfl

/-- Entries are compiled in turn, so the refusal is that of the first one that is refused. -/
theorem refusal?_compileAll {α β : Type} (compile : Nat → α → Except LintError β) (index : Nat)
    (entries : List α) : refusal? (compileAll compile index entries) =
      (entries.zipIdx index).findSome? (fun p => refusal? (compile p.2 p.1)) := by
  induction entries generalizing index with
  | nil => rfl
  | cons entry rest ih =>
    have hrest : ∀ first, refusal? (compileAll compile (index + 1) rest >>= fun others =>
        pure (first :: others)) =
          (rest.zipIdx (index + 1)).findSome? (fun p => refusal? (compile p.2 p.1)) := by
      intro first
      rw [refusal?_bind_pure, ih]
    unfold compileAll
    rw [refusal?_bind hrest, List.zipIdx_cons, List.findSome?_cons]
    cases refusal? (compile index entry) <;> rfl

/-- The pattern of the keyword is larger than patterns may be. -/
def IsHeavy (keyword : String) : Prop :=
  Node.weightLimit < (BuiltIn.keywordNode keyword.toList).weight .alone

instance (keyword : String) : Decidable (IsHeavy keyword) := inferInstanceAs (Decidable (_ < _))

theorem isLight_iff_not_isHeavy {keyword : String} :
    (BuiltIn.keywordNode keyword.toList).isLight = true ↔ ¬ IsHeavy keyword := by
  rw [Node.isLight, decide_eq_true_iff]
  exact Nat.not_lt.symm

theorem IsHeavy.lt_length {keyword : String} (h : IsHeavy keyword) : 300 < keyword.length := by
  apply Nat.lt_of_not_le
  intro hle
  rw [← String.length_toList] at hle
  exact isLight_iff_not_isHeavy.1 (BuiltIn.keywordNode_isLight hle) h

end RuleTable

/-! ## Faults of single entries -/

namespace TableSpec

/-- An entry of a table with its place among those of its kind. -/
inductive Entry where
  | keyword (index : Nat) (text : String)
  | spacer (index : Nat) (spec : SpacerSpec)
  | pair (index : Nat) (spec : BracketSpec)
  | variableNames (pattern : String)

/-- All entries, in the order in which they are compiled. -/
def entries (spec : TableSpec) : List Entry :=
  spec.keywords.mapIdx .keyword ++ (spec.spacers.mapIdx .spacer ++
    (spec.brackets.mapIdx .pair ++ [.variableNames spec.variablePattern]))

namespace Entry

/-- The entry's kind and place. -/
def origin : Entry → Origin
  | .keyword index _ => .keyword index
  | .spacer index _ => .spacer index
  | .pair index _ => .bracketPair index
  | .variableNames _ => .variableNames

/-- The fault of the patterns `given` by an entry and of those `made` from them.  None that is given
may be empty, and all of them have to compile. -/
def patternFault? (origin : Origin) (given made : List String) : Option LintError :=
  if "" ∈ given then some (.emptyPattern origin)
  else (given ++ made).findSome? fun source =>
    if Pattern.compiles source then none else some (.invalidPattern origin source)

/-- What is wrong with the entry. -/
def fault? : Entry → Option LintError
  | .keyword index text =>
    if text.toList.all Text.isBlank then some (.emptyKeyword index)
    else if RuleTable.IsHeavy text then
      some (.invalidPattern (.keyword index) (RuleTable.keywordSource text))
    else none
  | .spacer index spec => patternFault? (.spacer index) [spec.pattern] []
  | .pair index spec =>
    patternFault? (.bracketPair index) [spec.opening, spec.closing] [RuleTable.pairSource spec]
  | .variableNames pattern => patternFault? .variableNames [pattern] []

theorem patternFault?_cases {origin : Origin} {given made : List String} {e : LintError}
    (h : patternFault? origin given made = some e) :
    e = .emptyPattern origin ∨ ∃ pattern, e = .invalidPattern origin pattern := by
  unfold patternFault? at h
  split at h
  · exact .inl (Option.some.inj h).symm
  · obtain ⟨source, -, h⟩ := List.exists_of_findSome?_eq_some h
    obtain ⟨-, h⟩ := Option.ite_none_left_eq_some.1 h
    exact .inr ⟨source, (Option.some.inj h).symm⟩

theorem keyword_fault?_cases {index : Nat} {text : String} {e : LintError}
    (h : (Entry.keyword index text).fault? = some e) :
    (text.toList.all Text.isBlank = true ∧ e = .emptyKeyword index) ∨
      (RuleTable.IsHeavy text ∧
        e = .invalidPattern (.keyword index) (RuleTable.keywordSource text)) := by
  unfold fault? at h
  simp only at h
  split at h
  case isTrue hblank => exact .inl ⟨hblank, (Option.some.inj h).symm⟩
  case isFalse =>
    obtain ⟨hheavy, h⟩ := Option.ite_none_right_eq_some.1 h
    exact .inr ⟨hheavy, (Option.some.inj h).symm⟩

/-- A fault is told with the kind and the place of the entry. -/
theorem fault?_cases {entry : Entry} {e : LintError} (h : entry.fault? = some e) :
    (∃ index, entry.origin = .keyword index ∧ e = .emptyKeyword index) ∨
      e = .emptyPattern entry.origin ∨ ∃ pattern, e = .invalidPattern entry.origin pattern := by
  cases entry with
  | keyword index text =>
    rcases keyword_fault?_cases h with ⟨-, hempty⟩ | ⟨-, hinvalid⟩
    · exact .inl ⟨index, rfl, hempty⟩
    · exact .inr (.inr ⟨_, hinvalid⟩)
  | spacer index spec => exact .inr (patternFault?_cases h)
  | pair index spec => exact .inr (patternFault?_cases h)
  | variableNames pattern => exact .inr (patternFault?_cases h)

theorem keyword_fault?_eq_none_iff {index : Nat} {text : String} :
    (Entry.keyword index text).fault? = none ↔
      (∃ c ∈ text.toList, Text.isBlank c = false) ∧ ¬ RuleTable.IsHeavy text := by
  have hblank : text.toList.all Text.isBlank = true ↔
      ¬ ∃ c ∈ text.toList, Text.isBlank c = false := by
    rw [List.all_eq_true]
    simp
  unfold fault?
  simp only [hblank]
  split
  case isTrue h => exact iff_of_false (by simp) (fun hsound => h hsound.1)
  case isFalse h =>
    split
    case isTrue hheavy => exact iff_of_false (by simp) (fun hsound => hsound.2 hheavy)
    case isFalse hlight => exact iff_of_true rfl ⟨not_not.1 h, hlight⟩

/-- An entry is sound when no pattern it gives is empty and all of its patterns compile. -/
theorem patternFault?_eq_none_iff {origin : Origin} {given made : List String} :
    patternFault? origin given made = none ↔
      "" ∉ given ∧ ∀ source ∈ given ++ made, Pattern.compiles source = true := by
  unfold patternFault?
  split
  case isTrue h => simp [h]
  case isFalse h => simp [h, or_imp, forall_and]

end Entry

end TableSpec

namespace RuleTable

open TableSpec (Entry)
open TableSpec.Entry (patternFault?)

theorem refusal?_compileKeyword (index : Nat) (text : String) :
    refusal? (compileKeyword index text) = (Entry.keyword index text).fault? := by
  show _ = if text.toList.all Text.isBlank = true then _ else _
  split
  case isTrue hblank =>
    rw [compileKeyword, if_pos (Text.trimChars_eq_nil_iff.2 hblank)]
    rfl
  case isFalse hblank =>
    rw [compileKeyword_cases index (fun h => hblank (Text.trimChars_eq_nil_iff.1 h))]
    by_cases hheavy : IsHeavy text
    · rw [if_pos hheavy, if_neg (fun h => isLight_iff_not_isHeavy.1 h hheavy)]
      rfl
    · rw [if_neg hheavy, if_pos (isLight_iff_not_isHeavy.2 hheavy)]
      rfl

theorem findSome?_cons_or {α β : Type} (f : α → Option β) (a : α) (rest : List α) :
    (a :: rest).findSome? f = (f a).or (rest.findSome? f) := by
  rw [List.findSome?_cons]
  cases f a <;> rfl

/-- The fault of a pattern that stands for itself. -/
theorem patternFault?_single (origin : Origin) (source : String) :
    patternFault? origin [source] [] =
      (refusal? (checkNonEmpty origin source)).or
        (refusal? (Pattern.compile origin false source)) := by
  rw [refusal?_checkNonEmpty, Pattern.refusal?_compile]
  simp only [patternFault?, List.mem_singleton, List.append_nil, findSome?_cons_or,
    List.findSome?_nil, Option.or_none, eq_comm (a := "")]
  split <;> rfl

theorem refusal?_compileSpacer (index : Nat) (spec : SpacerSpec) :
    refusal? (compileSpacer index spec) = (Entry.spacer index spec).fault? := by
  unfold compileSpacer
  rw [refusal?_bind (fun _ => refusal?_bind_pure _)]
  exact (patternFault?_single _ _).symm

/-- A pair is refused for one of its sides, or for the pattern that is made of both. -/
theorem refusal?_compilePair (index : Nat) (spec : BracketSpec) :
    refusal? (compilePair index spec) = (Entry.pair index spec).fault? := by
  unfold compilePair
  rw [refusal?_bind fun _ => refusal?_bind fun _ => refusal?_bind fun _ =>
    refusal?_bind fun _ => rfl]
  show _ = patternFault? _ _ _
  simp only [refusal?_discard, refusal?_checkNonEmpty, Pattern.refusal?_compile, patternFault?,
    List.mem_cons, List.not_mem_nil, or_false, List.cons_append, List.nil_append,
    findSome?_cons_or, List.findSome?_nil, Option.or_none, eq_comm (a := "")]
  by_cases hopening : spec.opening = ""
  · rw [if_pos hopening, if_pos (Or.inl hopening)]
    rfl
  by_cases hclosing : spec.closing = ""
  · rw [if_neg hopening, if_pos hclosing, if_pos (Or.inr hclosing)]
    rfl
  · rw [if_neg hopening, if_neg hclosing, if_neg (not_or.2 ⟨hopening, hclosing⟩)]
    rfl

/-- A table is refused with the fault of its first faulty entry, and for nothing else. -/
theorem refusal?_compile (spec : TableSpec) :
    refusal? (compile spec) = spec.entries.findSome? Entry.fault? := by
  unfold compile
  rw [refusal?_bind fun _ => refusal?_bind fun _ => refusal?_bind fun _ =>
    refusal?_bind fun _ => refusal?_bind_pure _]
  simp only [TableSpec.entries, List.findSome?_append, List.mapIdx_eq_zipIdx_map,
    List.findSome?_map, refusal?_compileAll, refusal?_compileKeyword, refusal?_compileSpacer,
    refusal?_compilePair, ← patternFault?_single, findSome?_cons_or, List.findSome?_nil,
    Option.or_none]
  rfl

/-! ## What a compiled table keeps -/

theorem compile_eq_ok {spec : TableSpec} {t : RuleTable} (h : compile spec = .ok t) :
    compileAll compileKeyword 0 spec.keywords = .ok t.keywords ∧
      compileAll compileSpacer 0 spec.spacers = .ok t.spacers ∧
      compileAll compilePair 0 spec.brackets = .ok t.brackets ∧
      Pattern.compile .variableNames false spec.variablePattern = .ok t.variablePattern ∧
      t.strategy = spec.strategy ∧ t.limits = spec.limits := by
  obtain ⟨keywords, hkeywords, h⟩ := bind_eq_ok.1 h
  obtain ⟨spacers, hspacers, h⟩ := bind_eq_ok.1 h
  obtain ⟨brackets, hbrackets, h⟩ := bind_eq_ok.1 h
  obtain ⟨-, -, h⟩ := bind_eq_ok.1 h
  obtain ⟨variablePattern, hvariable, h⟩ := bind_eq_ok.1 h
  cases h
  exact ⟨hkeywords, hspacers, hbrackets, hvariable, rfl, rfl⟩

/-- What each entry keeps, the compiled entries keep in number and order. -/
theorem map_of_compileAll {α β γ : Type} {compile : Nat → α → Except LintError β} {f : α → γ}
    {g : β → γ} {index : Nat} {entries : List α} {compiled : List β}
    (h : compileAll compile index entries = .ok compiled)
    (hkeep : ∀ {index a b}, compile index a = .ok b → g b = f a) :
    compiled.map g = entries.map f := by
  induction entries generalizing index compiled with
  | nil =>
    cases h
    rfl
  | cons entry rest ih =>
    obtain ⟨first, hfirst, h⟩ := bind_eq_ok.1 h
    obtain ⟨others, hothers, h⟩ := bind_eq_ok.1 h
    cases h
    rw [List.map_cons, List.map_cons, hkeep hfirst, ih hothers]

theorem source_of_compile {origin : Origin} {ignoreCase : Bool} {source : String} {p : Pattern}
    (h : Pattern.compile origin ignoreCase source = .ok p) : p.source = source := by
  unfold Pattern.compile at h
  split at h
  case h_1 node _ =>
    split at h
    · cases h
      rfl
    · cases h
  case h_2 => cases h

theorem compileKeyword_eq_ok {index : Nat} {text : String} {keyword : Keyword}
    (h : compileKeyword index text = .ok keyword) : keyword = BuiltIn.keyword text := by
  have hblank : Text.trimChars text.toList ≠ [] := by
    intro hblank
    rw [compileKeyword, if_pos hblank] at h
    cases h
  rw [compileKeyword_cases index hblank] at h
  split at h
  · exact (Except.ok.inj h).symm
  · cases h

theorem compileSpacer_eq_ok {index : Nat} {spec : SpacerSpec} {spacer : Spacer}
    (h : compileSpacer index spec = .ok spacer) :
    SpacerSpec.mk spacer.pattern.source spacer.requiredScope spacer.breakScope = spec := by
  obtain ⟨-, -, h⟩ := bind_eq_ok.1 h
  obtain ⟨pattern, hpattern, h⟩ := bind_eq_ok.1 h
  cases h
  rw [source_of_compile hpattern]

theorem compilePair_eq_ok {index : Nat} {spec : BracketSpec} {p : Pattern}
    (h : compilePair index spec = .ok p) : p.source = pairSource spec := by
  obtain ⟨-, -, h⟩ := bind_eq_ok.1 h
  obtain ⟨-, -, h⟩ := bind_eq_ok.1 h
  obtain ⟨-, -, h⟩ := bind_eq_ok.1 h
  obtain ⟨-, -, h⟩ := bind_eq_ok.1 h
  exact source_of_compile h

/-- The table has the entries of the settings, as many and in the same order. -/
structure Keeps (t : RuleTable) (spec : TableSpec) : Prop where
  keywords : t.keywords = spec.keywords.map BuiltIn.keyword
  spacers : t.spacers.map (fun s => SpacerSpec.mk s.pattern.source s.requiredScope s.breakScope) =
    spec.spacers
  brackets : t.brackets.map (fun p => p.source) = spec.brackets.map pairSource
  variablePattern : t.variablePattern.source = spec.variablePattern
  strategy : t.strategy = spec.strategy
  limits : t.limits = spec.limits

/-- What is compiled keeps the text of what it was compiled from, kind by kind. -/
theorem keeps_of_compile {spec : TableSpec} {t : RuleTable} (h : compile spec = .ok t) :
    t.Keeps spec := by
  obtain ⟨hkeywords, hspacers, hbrackets, hvariable, hstrategy, hlimits⟩ := compile_eq_ok h
  refine ⟨?_, ?_, map_of_compileAll hbrackets compilePair_eq_ok, source_of_compile hvariable,
    hstrategy, hlimits⟩
  · have hmap : t.keywords.map id = spec.keywords.map BuiltIn.keyword :=
      map_of_compileAll hkeywords compileKeyword_eq_ok
    rwa [List.map_id] at hmap
  · have hmap : t.spacers.map _ = spec.spacers.map id :=
      map_of_compileAll hspacers compileSpacer_eq_ok
    rwa [List.map_id] at hmap

end RuleTable

/-! ## Acceptance -/

namespace TableSpec

theorem forall_mem_mapIdx {α β : Type} {f : Nat → α → β} {P : β → Prop} {Q : α → Prop}
    (h : ∀ index a, P (f index a) ↔ Q a) (entries : List α) :
    (∀ b ∈ entries.mapIdx f, P b) ↔ ∀ a ∈ entries, Q a := by
  constructor
  · intro hall a ha
    obtain ⟨index, hindex, rfl⟩ := List.mem_iff_getElem.1 ha
    exact (h index _).1 (hall _ (List.mem_mapIdx.2 ⟨index, hindex, rfl⟩))
  · intro hall b hb
    obtain ⟨index, hindex, rfl⟩ := List.mem_mapIdx.1 hb
    exact (h index _).2 (hall _ (List.getElem_mem hindex))

/-- The conditions that all entries of a table have to meet. -/
structure IsSound (spec : TableSpec) : Prop where
  keywords : ∀ keyword ∈ spec.keywords,
    (∃ c ∈ keyword.toList, Text.isBlank c = false) ∧ ¬ RuleTable.IsHeavy keyword
  spacers : ∀ s ∈ spec.spacers, s.pattern ≠ "" ∧ Pattern.compiles s.pattern = true
  brackets : ∀ pair ∈ spec.brackets, (pair.opening ≠ "" ∧ pair.closing ≠ "") ∧
    Pattern.compiles pair.opening = true ∧ Pattern.compiles pair.closing = true ∧
    Pattern.compiles (RuleTable.pairSource pair) = true
  variablePattern : spec.variablePattern ≠ "" ∧ Pattern.compiles spec.variablePattern = true

theorem isSound_iff {spec : TableSpec} :
    spec.IsSound ↔ ∀ entry ∈ spec.entries, entry.fault? = none := by
  have hsingle : ∀ (origin : Origin) (pattern : String), Entry.patternFault? origin [pattern] [] =
      none ↔ pattern ≠ "" ∧ Pattern.compiles pattern = true := by
    intro origin pattern
    rw [Entry.patternFault?_eq_none_iff]
    simp [eq_comm (a := "")]
  have hpair : ∀ (index : Nat) (pair : BracketSpec), (Entry.pair index pair).fault? = none ↔
      (pair.opening ≠ "" ∧ pair.closing ≠ "") ∧ Pattern.compiles pair.opening = true ∧
        Pattern.compiles pair.closing = true ∧
        Pattern.compiles (RuleTable.pairSource pair) = true := by
    intro index pair
    refine Entry.patternFault?_eq_none_iff.trans ?_
    simp [eq_comm (a := "")]
  rw [entries, List.forall_mem_append, List.forall_mem_append, List.forall_mem_append,
    List.forall_mem_singleton, forall_mem_mapIdx @Entry.keyword_fault?_eq_none_iff,
    forall_mem_mapIdx (fun index s => hsingle (.spacer index) s.pattern), forall_mem_mapIdx hpair]
  constructor
  · rintro ⟨hkeywords, hspacers, hbrackets, hvariable⟩
    exact ⟨hkeywords, hspacers, hbrackets, (hsingle _ _).2 hvariable⟩
  · rintro ⟨hkeywords, hspacers, hbrackets, hvariable⟩
    exact ⟨hkeywords, hspacers, hbrackets, (hsingle _ _).1 hvariable⟩

theorem keyword_mem_entries {spec : TableSpec} {index : Nat} {text : String}
    (h : Entry.keyword index text ∈ spec.entries) : spec.keywords[index]? = some text := by
  simp only [entries, List.mem_append, List.mem_mapIdx, List.mem_singleton, reduceCtorEq,
    exists_const, exists_false, or_false] at h
  obtain ⟨i, hi, h⟩ := h
  cases h
  exact List.getElem?_eq_getElem hi

end TableSpec

open TableSpec (Entry)

/-- Every fault is worded with the name of the entry. -/
theorem LintError.message_of_fault? {entry : Entry} {e : LintError} (h : entry.fault? = some e) :
    ∃ front back, e.message = front ++ entry.origin.text ++ back := by
  rcases Entry.fault?_cases h with ⟨index, horigin, rfl⟩ | rfl | ⟨pattern, rfl⟩
  · rw [horigin]
    exact ⟨"Invalid rule table: ", " is empty", rfl⟩
  · exact ⟨"Invalid rule table: ", " has an empty pattern", rfl⟩
  · exact ⟨"Invalid pattern '" ++ pattern ++ "' in ", ": regex parse error", rfl⟩

theorem RuleTable.exists_compile_iff {spec : TableSpec} :
    (∃ t, compile spec = .ok t) ↔ spec.IsSound := by
  rw [← refusal?_eq_none_iff, refusal?_compile, List.findSome?_eq_none_iff, TableSpec.isSound_iff]

/-- A keyword is refused as a pattern only when it is heavy. -/
theorem RuleTable.isHeavy_of_compile {spec : TableSpec} {index : Nat} {pattern : String}
    (h : compile spec = .error (.invalidPattern (.keyword index) pattern)) :
    ∃ keyword, spec.keywords[index]? = some keyword ∧ IsHeavy keyword := by
  rw [← refusal?_eq_some_iff, refusal?_compile] at h
  obtain ⟨entry, hentry, hfault⟩ := List.exists_of_findSome?_eq_some h
  have horigin : entry.origin = .keyword index := by
    rcases Entry.fault?_cases hfault with ⟨_, -, h⟩ | h | ⟨_, h⟩
    · cases h
    · cases h
    · injection h with h
      exact h.symm
  cases entry
  case keyword place text =>
    cases horigin
    refine ⟨text, TableSpec.keyword_mem_entries hentry, ?_⟩
    rcases Entry.keyword_fault?_cases hfault with ⟨-, hempty⟩ | ⟨hheavy, -⟩
    · cases hempty
    · exact hheavy
  all_goals cases horigin

/-- A table is accepted exactly when all of its entries are sound, and then it keeps them in number
and order.  Otherwise it is refused for the first faulty one, which the refusal names.  A keyword
that is not blank is refused only when its pattern is too large, which takes more than 300
characters. -/
theorem first_faulty_entry_refuses (spec : TableSpec) :
    ((∃ t, RuleTable.compile spec = .ok t) ↔ spec.IsSound) ∧
    (∀ t, RuleTable.compile spec = .ok t → t.Keeps spec) ∧
    (∀ e, RuleTable.compile spec = .error e ↔
      ∃ before entry behind, spec.entries = before ++ entry :: behind ∧
        (∀ sound ∈ before, sound.fault? = none) ∧ entry.fault? = some e) ∧
    (∀ entry e, Entry.fault? entry = some e →
      ∃ front back, e.message = front ++ entry.origin.text ++ back) ∧
    (∀ index pattern,
      RuleTable.compile spec = .error (.invalidPattern (.keyword index) pattern) →
        ∃ keyword, spec.keywords[index]? = some keyword ∧ RuleTable.IsHeavy keyword ∧
          300 < keyword.length) := by
  refine ⟨RuleTable.exists_compile_iff, fun t => RuleTable.keeps_of_compile, fun e => ?_,
    fun entry e => LintError.message_of_fault?, fun index pattern h => ?_⟩
  · rw [← refusal?_eq_some_iff, RuleTable.refusal?_compile, List.findSome?_eq_some_iff]
    constructor
    · rintro ⟨before, entry, behind, hentries, hfault, hsound⟩
      exact ⟨before, entry, behind, hentries, hsound, hfault⟩
    · rintro ⟨before, entry, behind, hentries, hsound, hfault⟩
      exact ⟨before, entry, behind, hentries, hfault, hsound⟩
  · obtain ⟨keyword, hkeyword, hheavy⟩ := RuleTable.isHeavy_of_compile h
    exact ⟨keyword, hkeyword, hheavy, hheavy.lt_length⟩

/-- An empty side is told before a side that cannot be read. -/
example : (Entry.pair 1 ⟨"(", ""⟩).fault? = some (.emptyPattern (.bracketPair 1)) := by
  decide +kernel

/-- Sides may name properties of characters. -/
example : (Entry.pair 0 ⟨"\\p{Pi}", "\\P{gc!=Pf}"⟩).fault? = none := by
  decide +kernel

/-- A property that there is not is told. -/
example : (Entry.pair 0 ⟨"\\p{Ps}", "\\p{Pq}"⟩).fault? =
    some (.invalidPattern (.bracketPair 0) "\\p{Pq}") := by
  decide +kernel

end ScopeLint
