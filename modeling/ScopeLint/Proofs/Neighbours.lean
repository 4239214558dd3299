import ScopeLint.Proofs.Pairing

/-!
# The neighbours of a match in the text

Spacing looks for the neighbours of a match by row and column: one column to the left of its start,
and at its end.  In the text these are the characters directly before and directly behind it.  A cut
of the text has no character at its position exactly where a line ends there, and none to the left
exactly where a line starts.  The carriage return of a line end is no character of its line.
-/

namespace ScopeLint

namespace Text

/-- A line starts behind the text before. -/
def StartsLine (before : List Char) : Prop := before = [] ∨ before.getLast? = some '\n'

/-- A line ends in front of the text behind: that text is empty, or starts with a line feed or with
the carriage return of a line end. -/
def EndsLine (behind : List Char) : Prop :=
  behind = [] ∨ behind.head? = some '\n' ∨
    behind.head? = some '\r' ∧ (behind.tail = [] ∨ behind.tail.head? = some '\n')

instance (before : List Char) : Decidable (StartsLine before) :=
  inferInstanceAs (Decidable (_ ∨ _))

instance (behind : List Char) : Decidable (EndsLine behind) :=
  inferInstanceAs (Decidable (_ ∨ _ ∨ _ ∧ (_ ∨ _)))

end Text

open Text (StartsLine EndsLine)

/-- A character ends the line before it, if it is a line feed or a cut behind it falls into a line
end. -/
theorem endsLine_cons_iff (before : List Char) {c : Char} {rest : List Char} :
    EndsLine (c :: rest) ↔ c = '\n' ∨ CutsLineEnd (before ++ [c]) rest := by
  simp [EndsLine, CutsLineEnd]

namespace Document

def textBefore (d : Document) (offset : Nat) : List Char := takeBytes offset d.chars.toList

def textBehind (d : Document) (offset : Nat) : List Char := dropBytes offset d.chars.toList

variable {d : Document} {before behind : List Char}

theorem textBefore_cut (h : d.chars.toList = before ++ behind) :
    d.textBefore (Text.byteLength before) = before := by
  rw [textBefore, h, takeBytes_append]

theorem textBehind_cut (h : d.chars.toList = before ++ behind) :
    d.textBehind (Text.byteLength before) = behind := by
  rw [textBehind, h, dropBytes_append]

theorem contains_next_of_charAt? {p : Position} {c : Char} (h : d.charAt? p = some c) :
    d.contains ⟨p.row, p.column + 1⟩ = true := by
  unfold charAt? at h
  split at h
  case h_1 chars hchars =>
    have hlt := (Array.getElem?_eq_some_iff.1 h).1
    simp [contains, lineLength?, hchars]
    omega
  case h_2 => cases h

theorem charAt?_cut {c : Char} {rest : List Char} (h : d.chars.toList = before ++ c :: rest)
    (hend : ¬ EndsLine (c :: rest)) :
    d.charAt? (Position.origin.after before) = some c := by
  have htake : d.chars.toList.take before.length = before := by rw [h, List.take_left]
  have hchar : d.chars[before.length]? = some c := by
    rw [chars_behind h (Nat.le_refl _), Nat.sub_self]
    rfl
  unfold EndsLine at hend
  rw [← htake]
  apply charAt?_after hchar
  · rintro rfl
    exact hend (.inr (.inl rfl))
  · rintro rfl
    cases rest with
    | nil => exact absurd (.inr (.inr ⟨rfl, .inl rfl⟩)) hend
    | cons e rest =>
      refine ⟨e, ?_, ?_⟩
      · rw [chars_behind h (Nat.le_add_right _ 1), Nat.add_sub_cancel_left]
        rfl
      · rintro rfl
        exact hend (.inr (.inr ⟨rfl, .inr rfl⟩))

/-- Where the next column is in the document too, a character of the line stands between.  That one
character leads to the column, so nothing more is read. -/
theorem exists_char_of_next (h : d.chars.toList = before ++ behind) {p : Position}
    (hp : Position.origin.after before = p) (hnext : d.contains ⟨p.row, p.column + 1⟩ = true) :
    ∃ c rest, behind = c :: rest ∧ c ≠ '\n' ∧ ¬ CutsLineEnd (before ++ [c]) rest := by
  obtain ⟨before', behind', hcut, hwhole, hafter⟩ := (d.contains_iff _).1 hnext
  rcases List.prefix_or_prefix_of_prefix ⟨behind, h.symm⟩ ⟨behind', hcut.symm⟩ with
    ⟨more, rfl⟩ | ⟨more, rfl⟩
  · rw [h, List.append_assoc, List.append_cancel_left_eq] at hcut
    rw [Position.after_append, hp] at hafter
    cases more with
    | nil =>
      have hcolumn := congrArg Position.column hafter
      simp at hcolumn
    | cons c more =>
      have hfeed : c ≠ '\n' := by
        rintro rfl
        have hle := (p.step '\n').le_after more
        rw [← Position.after_cons, hafter, Position.le_def, Position.step, if_pos rfl] at hle
        simp only at hle
        omega
      have hstep : p.step c = ⟨p.row, p.column + 1⟩ := by rw [Position.step, if_neg hfeed]
      obtain rfl : more = [] := by
        by_contra hmore
        have hlt := (p.step c).lt_after hmore
        rw [← Position.after_cons, hafter, hstep] at hlt
        exact Position.lt_irrefl _ hlt
      exact ⟨c, behind', hcut, hfeed, hwhole⟩
  · have hle := (Position.origin.after before').le_after more
    rw [← Position.after_append, hp, hafter, Position.le_def] at hle
    simp only at hle
    omega

theorem charAt?_lineEnd_cut (h : d.chars.toList = before ++ behind) (hend : EndsLine behind) :
    d.charAt? (Position.origin.after before) = none := by
  cases hchar : d.charAt? (Position.origin.after before) with
  | none => rfl
  | some a =>
    obtain ⟨c, rest, rfl, hfeed, hwhole⟩ :=
      exists_char_of_next h rfl (contains_next_of_charAt? hchar)
    rcases (endsLine_cons_iff before).1 hend with hc | hcuts
    · exact absurd hc hfeed
    · exact absurd hcuts hwhole

end Document

/-! ## Crowded matches -/

/-- The scope path at a byte offset. -/
def Context.pathFrom (ctx : Context) (offset : Nat) : ScopePath :=
  match ctx.document.positionAt? offset with
  | some p => ctx.path p
  | none => []

theorem Context.pathFrom_cut {ctx : Context} {before behind : List Char}
    (h : ctx.document.chars.toList = before ++ behind) :
    ctx.pathFrom (Text.byteLength before) = ctx.path (Position.origin.after before) := by
  rw [pathFrom, Document.positionAt?_cut h]

namespace Spacing

/-- The break scope, if any, is not found at a byte offset. -/
def LacksBreak (ctx : Context) (breakScope : String) (offset : Nat) : Prop :=
  breakScope = "" ∨ Scope.carries (ctx.pathFrom offset) breakScope = false

/-- A character of the same line stands directly before the offset, and it is neither a blank nor
in the break scope. -/
def IsCrowdedBefore (ctx : Context) (breakScope : String) (offset : Nat) : Prop :=
  let before := ctx.document.textBefore offset
  ¬ StartsLine before ∧ before.getLast? ≠ some ' ' ∧ before.getLast? ≠ some '\t' ∧
    LacksBreak ctx breakScope (Text.byteLength before.dropLast)

/-- A character of the same line stands directly behind the offset, and it is neither a blank nor in
the break scope. -/
def IsCrowdedBehind (ctx : Context) (breakScope : String) (offset : Nat) : Prop :=
  let behind := ctx.document.textBehind offset
  ¬ EndsLine behind ∧ behind.head? ≠ some ' ' ∧ behind.head? ≠ some '\t' ∧
    LacksBreak ctx breakScope offset

/-- The bytes from `first` to `last` are in code and in the required scope, if any, and crowded on
one side at least. -/
def IsCrowded (ctx : Context) (spacer : Spacer) (first last : Nat) : Prop :=
  Scope.isTypical (ctx.pathFrom first) = true ∧
    (spacer.requiredScope ≠ "" →
      Scope.carries (ctx.pathFrom first) spacer.requiredScope = true) ∧
    (IsCrowdedBefore ctx spacer.breakScope first ∨ IsCrowdedBehind ctx spacer.breakScope last)

instance (ctx : Context) (breakScope : String) (offset : Nat) :
    Decidable (LacksBreak ctx breakScope offset) := inferInstanceAs (Decidable (_ ∨ _))

instance (ctx : Context) (breakScope : String) (offset : Nat) :
    Decidable (IsCrowdedBefore ctx breakScope offset) :=
  inferInstanceAs (Decidable (_ ∧ _ ∧ _ ∧ _))

instance (ctx : Context) (breakScope : String) (offset : Nat) :
    Decidable (IsCrowdedBehind ctx breakScope offset) :=
  inferInstanceAs (Decidable (_ ∧ _ ∧ _ ∧ _))

instance (ctx : Context) (spacer : Spacer) (first last : Nat) :
    Decidable (IsCrowded ctx spacer first last) :=
  inferInstanceAs (Decidable (_ ∧ (_ → _) ∧ (_ ∨ _)))

variable {ctx : Context} {before behind : List Char} {breakScope : String}

theorem spaced_eq_false_iff {c : Char} {rest : List Char}
    (h : ctx.document.chars.toList = before ++ c :: rest) (hend : ¬ EndsLine (c :: rest)) :
    spaced ctx breakScope (Position.origin.after before) = false ↔
      c ≠ ' ' ∧ c ≠ '\t' ∧ LacksBreak ctx breakScope (Text.byteLength before) := by
  unfold spaced LacksBreak
  rw [Document.charAt?_cut h hend, Context.pathFrom_cut h]
  simp [and_assoc, or_iff_not_imp_left]

/-- The place behind a match lacks a blank where a character crowds it from behind. -/
theorem spaced_behind_iff (h : ctx.document.chars.toList = before ++ behind) :
    spaced ctx breakScope (Position.origin.after before) = false ↔
      IsCrowdedBehind ctx breakScope (Text.byteLength before) := by
  unfold IsCrowdedBehind
  rw [Document.textBehind_cut h]
  by_cases hend : EndsLine behind
  · have hnone := Document.charAt?_lineEnd_cut h hend
    unfold spaced
    simp [hnone, hend]
  · cases behind with
    | nil => exact absurd (.inl rfl) hend
    | cons c rest =>
      rw [spaced_eq_false_iff h hend]
      simp [hend]

theorem spacedBefore_iff (h : ctx.document.chars.toList = before ++ behind)
    (hwhole : ¬ CutsLineEnd before behind) :
    spacedBefore ctx breakScope (Position.origin.after before) = false ↔
      IsCrowdedBefore ctx breakScope (Text.byteLength before) := by
  unfold IsCrowdedBefore
  rw [Document.textBefore_cut h]
  cases before using List.reverseRecOn with
  | nil => simp [spacedBefore, StartsLine, Position.origin]
  | append_singleton front c =>
    rw [List.append_assoc, List.singleton_append] at h
    rw [Position.after_append, Position.after_cons, Position.after_nil]
    by_cases hfeed : c = '\n'
    · simp [spacedBefore, StartsLine, Position.step, hfeed]
    · have hend : ¬ EndsLine (c :: behind) := by
        rw [endsLine_cons_iff front, not_or]
        exact ⟨hfeed, hwhole⟩
      have hspaced : spacedBefore ctx breakScope ((Position.origin.after front).step c) =
          spaced ctx breakScope (Position.origin.after front) := by
        rw [Position.step, if_neg hfeed]
        rfl
      rw [hspaced, spaced_eq_false_iff h hend]
      simp [StartsLine, hfeed]

/-- When a match is at fault, by the neighbours in its row. -/
theorem isFaulty_of_ok {spacer : Spacer} {m : Match} {fault : Bool}
    (h : isFaulty ctx spacer m = .ok fault) :
    ctx.document.contains m.span.start = true ∧
      (fault = true ↔ Scope.isTypical (ctx.path m.span.start) = true ∧
        (spacer.requiredScope ≠ "" →
          Scope.carries (ctx.path m.span.start) spacer.requiredScope = true) ∧
        (spacedBefore ctx spacer.breakScope m.span.start = false ∨
          spaced ctx spacer.breakScope m.span.stop = false)) := by
  obtain ⟨path, hpath, h⟩ := bind_eq_ok.1 h
  obtain ⟨hin, rfl⟩ := Context.pathAt_of_ok hpath
  refine ⟨hin, ?_⟩
  split at h
  case isTrue htypical =>
    cases h
    simp_all
  case isFalse htypical =>
    split at h
    case isTrue hscope =>
      cases h
      simp_all
    case isFalse hscope =>
      cases h
      simp_all

/-- When a match is at fault, by its neighbours in the text. -/
theorem isFaulty_iff {spacer : Spacer} {m : Match} {fault : Bool}
    (hm : m ∈ spacer.pattern.scan ctx.document) (h : isFaulty ctx spacer m = .ok fault) :
    fault = true ↔ IsCrowded ctx spacer m.first m.last := by
  obtain ⟨before, inside, behind, hlast, hm₁, hm₂, hspan, -⟩ := Pattern.exists_stretch hm
  have hfirst : ctx.document.chars.toList = before ++ (inside ++ behind) := by
    rw [hlast, List.append_assoc]
  obtain ⟨hin, hfault⟩ := isFaulty_of_ok h
  rw [hspan] at hin hfault
  have hwhole := (Document.contains_cut hfirst).1 hin
  rw [hfault, IsCrowded, hm₁, hm₂, Context.pathFrom_cut hfirst, spacedBefore_iff hfirst hwhole,
    spaced_behind_iff hlast]

theorem judge_of_ok {severity : Severity} {spacer : Spacer} {m : Match}
    {verdict : Option Diagnostic} (hm : m ∈ spacer.pattern.scan ctx.document)
    (h : judge ctx severity spacer m = .ok verdict) :
    verdict = if IsCrowded ctx spacer m.first m.last then
      some (.ofMessage Family.spacing.id severity message m.span) else none := by
  rw [judge_eq_reportIf] at h
  obtain ⟨fault, hfault, h⟩ := bind_eq_ok.1 h
  rw [Context.reportIf_of_ok h]
  simp only [isFaulty_iff hm hfault]

/-- What is found for a spacer are its crowded matches, in the order of the document. -/
theorem spacerFindings_of_ok {severity : Severity} {spacer : Spacer} {part : Findings}
    (h : spacerFindings ctx severity spacer = .ok part) :
    part = ⟨(spacer.pattern.scan ctx.document).length,
      ((spacer.pattern.scan ctx.document).filter
        (fun m => IsCrowded ctx spacer m.first m.last)).map
          (fun m => .ofMessage Family.spacing.id severity message m.span)⟩ := by
  obtain ⟨verdicts, hverdicts, h⟩ := bind_eq_ok.1 h
  cases h
  rw [eq_map_of_mapM hverdicts (fun m hm verdict hverdict => judge_of_ok hm hverdict),
    List.filterMap_map, ← List.filterMap_eq_map, List.filterMap_filter]
  simp

/-- Spacing reports, spacer by spacer and match by match, exactly the matches that are crowded in
the text: in code and in the required scope, with a character directly before or directly behind
that belongs to the same line, is no blank and lacks the break scope.  Where a match starts and ends
is told by its byte offsets. -/
theorem crowded_matches_reported (ctx : Context) (severity : Severity) (found : Findings)
    (h : findings ctx severity = .ok found) :
    found.diagnostics = ctx.table.spacers.flatMap (fun spacer =>
      ((spacer.pattern.scan ctx.document).filter
        (fun m => IsCrowded ctx spacer m.first m.last)).map
          (fun m => .ofMessage Family.spacing.id severity message m.span)) ∧
    ∀ spacer ∈ ctx.table.spacers, ∀ m ∈ spacer.pattern.scan ctx.document,
      ctx.document.positionAt? m.first = some m.span.start ∧
      ctx.document.positionAt? m.last = some m.span.stop ∧
      ctx.document.slice m.first m.last = m.text := by
  obtain ⟨parts, hparts, h⟩ := bind_eq_ok.1 h
  cases h
  obtain rfl := eq_map_of_mapM hparts (fun spacer _ part hpart => spacerFindings_of_ok hpart)
  constructor
  · rw [Findings.concat, List.flatMap_map]
  · intro spacer _ m hm
    exact Pattern.offsets_of_mem_scan hm

/-- Operators behind a wide letter, at the start of a row, and in front of two line ends. -/
def edges : Context :=
  ⟨.ofString "é=\r\n= \t+\r", ⟨fun _ => [Scope.root]⟩, BuiltIn.table⟩

/-- The first operator is crowded by the letter, and no other one is. -/
theorem crowded_matches_reported_edges :
    ∃ found, findings edges .warning = .ok found ∧
      found.diagnostics = edges.table.spacers.flatMap (fun spacer =>
        ((spacer.pattern.scan edges.document).filter
          (fun m => IsCrowded edges spacer m.first m.last)).map
            (fun m => .ofMessage Family.spacing.id .warning message m.span)) ∧
      found.diagnostics.map (·.span) = [Span.charAt ⟨0, 1⟩] ∧
      IsCrowdedBefore edges "aseOperator" 2 ∧ ¬ IsCrowdedBehind edges "aseOperator" 3 := by
  have hfound : findings edges .warning =
      .ok ⟨3, [.ofMessage "spacing" .warning message (Span.charAt ⟨0, 1⟩)]⟩ := by
    decide +kernel
  exact ⟨_, hfound, (crowded_matches_reported edges .warning _ hfound).1, rfl, by decide +kernel,
    by decide +kernel⟩

end Spacing

end ScopeLint
