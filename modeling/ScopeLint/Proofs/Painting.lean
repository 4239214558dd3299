import Mathlib.Data.List.Forall2
import ScopeLint.Output.Text

/-!
# Colours and content

Colours are put around parts of the output: around the name of a file, a severity, a rule, the label
of a suggestion and each of the three counts.  What is printed without colours comes back when the
codes are taken out again, as long as no text of the summary holds an escape character itself.
-/

namespace ScopeLint

/-! ## Taking colour codes out -/

namespace Look

/-- May the character stand between the bracket of a colour code and its last letter? -/
def isCodeChar (c : Char) : Bool := c.isDigit || c == ';'

/-- Does the text behind an escape character begin with the rest of a colour code: a bracket, digits
and semicolons, and the letter `m`? -/
def completesCode : List Char → Bool
  | '[' :: rest => (rest.dropWhile isCodeChar).head? == some 'm'
  | _ => false

/-- The text without its colour codes.  `inside` tells that a code has begun, which ends with the
next `m`. -/
def stripFrom : (inside : Bool) → List Char → List Char
  | _, [] => []
  | true, c :: rest => stripFrom (c != 'm') rest
  | false, c :: rest =>
    if c = '\x1b' ∧ completesCode rest = true then stripFrom true rest
    else c :: stripFrom false rest

def strip (text : String) : String := String.ofList (stripFrom false text.toList)

/-- The text holds no escape character. -/
def IsBare (text : String) : Prop := '\x1b' ∉ text.toList

instance (text : String) : Decidable (IsBare text) := inferInstanceAs (Decidable (_ ∉ _))

/-- Without its colour codes, and whatever follows, the painted text is the plain one. -/
def Strips (painted plain : String) : Prop :=
  ∀ rest, stripFrom false (painted.toList ++ rest) = plain.toList ++ stripFrom false rest

theorem Strips.strip_eq {painted plain : String} (h : Strips painted plain) :
    strip painted = plain := by
  have hall := h []
  rw [List.append_nil, stripFrom, List.append_nil] at hall
  rw [strip, hall, String.ofList_toList]

theorem stripFrom_inside {digits : List Char} (h : ∀ c ∈ digits, c ≠ 'm') (rest : List Char) :
    stripFrom true (digits ++ 'm' :: rest) = stripFrom false rest := by
  induction digits with
  | nil => rfl
  | cons c digits ih =>
    rw [List.cons_append, stripFrom, bne_iff_ne.2 (h c List.mem_cons_self)]
    exact ih fun d hd => h d (List.mem_cons_of_mem c hd)

theorem stripFrom_code {digits : List Char} (h : digits.all isCodeChar = true) (rest : List Char) :
    stripFrom false ('\x1b' :: '[' :: (digits ++ 'm' :: rest)) = stripFrom false rest := by
  have hdigits := List.all_eq_true.1 h
  have hcode : completesCode ('[' :: (digits ++ 'm' :: rest)) = true := by
    rw [completesCode, List.dropWhile_append_of_pos hdigits,
      List.dropWhile_cons_of_neg (by decide)]
    rfl
  rw [stripFrom, if_pos ⟨rfl, hcode⟩]
  refine @stripFrom_inside ('[' :: digits) (fun c hc => ?_) rest
  rintro rfl
  rcases List.mem_cons.1 hc with hc | hc
  · exact absurd hc (by decide)
  · exact absurd (hdigits _ hc) (by decide)

theorem code_all (look : Look) : look.code.toList.all isCodeChar = true := by
  cases look <;> decide

theorem stripFrom_start (look : Look) (rest : List Char) :
    stripFrom false (look.start.toList ++ rest) = stripFrom false rest := by
  have hstart : look.start.toList ++ rest =
      '\x1b' :: '[' :: (look.code.toList ++ 'm' :: rest) := by
    rw [start, String.toList_append, String.toList_append, List.append_assoc, List.append_assoc]
    rfl
  rw [hstart, stripFrom_code look.code_all]

theorem stripFrom_reset (rest : List Char) :
    stripFrom false (reset.toList ++ rest) = stripFrom false rest :=
  @stripFrom_code ['0'] (by decide) rest

theorem stripFrom_bare {cs : List Char} (h : '\x1b' ∉ cs) (rest : List Char) :
    stripFrom false (cs ++ rest) = cs ++ stripFrom false rest := by
  induction cs with
  | nil => rfl
  | cons c cs ih =>
    rw [List.mem_cons, not_or] at h
    rw [List.cons_append, stripFrom, if_neg fun hc => h.1 hc.1.symm, ih h.2]
    rfl

/-- A text without an escape character has no reset after which to switch the look on again. -/
theorem resume_bare (start : List Char) {cs : List Char} (h : '\x1b' ∉ cs) :
    resume start cs = cs := by
  induction cs with
  | nil => rfl
  | cons c cs ih =>
    rw [List.mem_cons, not_or] at h
    rw [resume, ih h.2]
    exact fun _ hc _ => absurd hc.symm h.1

end Look

open Look (IsBare Strips)

namespace Look.Strips

theorem of_bare {text : String} (h : IsBare text) : Strips text text := stripFrom_bare h

/-- What follows a painted text is stripped by itself, so painted texts can be put together. -/
theorem append {a a' b b' : String} (ha : Strips a a') (hb : Strips b b') :
    Strips (a ++ b) (a' ++ b') := by
  intro rest
  rw [String.toList_append, String.toList_append, List.append_assoc, ha, hb, List.append_assoc]

theorem paintIf (on : Bool) (look : Look) {text : String} (h : IsBare text) :
    Strips (look.paintIf on text) text := by
  cases on with
  | false => exact of_bare h
  | true =>
    intro rest
    show stripFrom false ((look.start ++ String.ofList (resume look.start.toList text.toList) ++
      reset).toList ++ rest) = _
    rw [resume_bare _ h, String.ofList_toList, String.toList_append, String.toList_append,
      List.append_assoc, List.append_assoc, stripFrom_start, stripFrom_bare h, stripFrom_reset]

theorem join {painted plain : List String} (h : List.Forall₂ Strips painted plain) :
    Strips (String.join painted) (String.join plain) := by
  induction h with
  | nil => exact fun _ => rfl
  | cons hfirst _ ih =>
    rw [String.join_cons, String.join_cons]
    exact hfirst.append ih

theorem intercalate {separator : String} (hseparator : IsBare separator)
    {painted plain : List String} (h : List.Forall₂ Strips painted plain) :
    Strips (separator.intercalate painted) (separator.intercalate plain) := by
  induction h with
  | nil => exact fun _ => rfl
  | cons hfirst hrest ih =>
    cases hrest with
    | nil => exact hfirst
    | cons =>
      rw [String.intercalate_cons_cons, String.intercalate_cons_cons]
      exact (hfirst.append (of_bare hseparator)).append ih

end Look.Strips

/-! ## Texts without escape characters -/

namespace Look.IsBare

theorem append {a b : String} (ha : IsBare a) (hb : IsBare b) : IsBare (a ++ b) := by
  rw [IsBare, String.toList_append, List.mem_append]
  exact not_or.2 ⟨ha, hb⟩

theorem nat (n : Nat) : IsBare (toString n) := by
  have hdigits : (toString n).toList = Nat.toDigits 10 n := Nat.toList_repr
  rw [IsBare, hdigits]
  intro h
  exact absurd (Nat.isDigit_of_mem_toDigits (by decide) (by decide) h) (by decide)

theorem twoPlaces (a : BinaryFraction) : IsBare a.twoPlaces := by
  unfold BinaryFraction.twoPlaces
  refine append (append (append (nat _) (by decide)) ?_) (nat _)
  split <;> decide

theorem location {path : String} (h : IsBare path) (d : Diagnostic) :
    IsBare (TextStyle.location path d) :=
  append (append (append (append h (by decide)) (nat _)) (by decide)) (nat _)

theorem counted (n : Nat) {singular plural : String} (hsingular : IsBare singular)
    (hplural : IsBare plural) : IsBare (TextStyle.counted n singular plural) := by
  refine append (append (nat n) (by decide)) ?_
  split
  · exact hsingular
  · exact hplural

end Look.IsBare

/-- No text of the diagnostic holds an escape character. -/
structure Diagnostic.IsBare (d : Diagnostic) : Prop where
  rule : Look.IsBare d.rule
  message : Look.IsBare d.message
  suggestion : ∀ text, d.suggestion = some text → Look.IsBare text

/-- No path and no text of a diagnostic holds an escape character. -/
structure Summary.IsBare (s : Summary) : Prop where
  path : ∀ f ∈ s.files, Look.IsBare f.path
  diagnostic : ∀ f ∈ s.files, ∀ d ∈ f.diagnostics, d.IsBare

/-! ## The output with and without colours -/

namespace TextStyle

open Look.Strips

def uncolored (style : TextStyle) : TextStyle := { style with colored := false }

variable (style : TextStyle)

@[simp] theorem uncolored_showFixes : style.uncolored.showFixes = style.showFixes := rfl

@[simp] theorem uncolored_showStats : style.uncolored.showStats = style.showStats := rfl

/-- Without colours a text is printed as it is. -/
@[simp] theorem paintIf_uncolored (look : Look) (text : String) :
    look.paintIf style.uncolored.paints text = text := rfl

/-- A diagnostic without escape characters is printed in colour as it is without, but for the codes.
-/
theorem strips_diagnostic {path : String} (hpath : IsBare path) {d : Diagnostic} (h : d.IsBare) :
    Strips (style.diagnostic path d) (style.uncolored.diagnostic path d) := by
  have hseverity : IsBare d.severity.text := by cases d.severity <;> decide
  have hplace : Strips (location path d ++ ": ") (location path d ++ ": ") :=
    of_bare ((IsBare.location hpath d).append (by decide))
  have hhead := (hplace.append (paintIf style.paints (severityLook d.severity) hseverity)).append
    (of_bare (by decide : IsBare "["))
  have hrule := (hhead.append (paintIf style.paints .cyan h.rule)).append
    (of_bare (by decide : IsBare "]: "))
  have hline := (hrule.append (of_bare h.message)).append (of_bare (by decide : IsBare "\n"))
  simp only [diagnostic, paintIf_uncolored, uncolored_showFixes]
  cases hsuggestion : d.suggestion with
  | none => cases style.showFixes <;> exact hline
  | some suggestion =>
    have hlabel := (hline.append (of_bare (by decide : IsBare "   = "))).append
      (paintIf style.paints .boldGreen (by decide : IsBare "help"))
    have hhint := ((hlabel.append (of_bare (by decide : IsBare ": replace with \x60"))).append
      (of_bare (h.suggestion suggestion hsuggestion))).append
      (of_bare (by decide : IsBare "\x60\n"))
    cases style.showFixes
    · exact hline
    · exact hhint

/-- So are the diagnostics of a file under its path. -/
theorem strips_file {f : FileReport} (hpath : IsBare f.path)
    (h : ∀ d ∈ f.diagnostics, d.IsBare) : Strips (style.file f) (style.uncolored.file f) := by
  have hdiagnostics : List.Forall₂ Strips (f.diagnostics.map (style.diagnostic f.path))
      (f.diagnostics.map (style.uncolored.diagnostic f.path)) := by
    rw [List.forall₂_map_left_iff, List.forall₂_map_right_iff, List.forall₂_same]
    exact fun d hd => style.strips_diagnostic hpath (h d hd)
  unfold file
  split
  · exact of_bare (by decide)
  · have hhead := (paintIf style.paints .underline hpath).append (of_bare (by decide : IsBare "\n"))
    exact (hhead.append (join hdiagnostics)).append (of_bare (by decide))

theorem strips_counts (s : Summary) :
    List.Forall₂ Strips (style.counts s) (style.uncolored.counts s) := by
  have hcount : ∀ (n : Nat) (look : Look) {text : String}, IsBare text →
      List.Forall₂ Strips (if 0 < n then [look.paintIf style.paints text] else [])
        (if 0 < n then [text] else []) := by
    intro n look text htext
    split
    · exact .cons (paintIf style.paints look htext) .nil
    · exact .nil
  refine List.rel_append (List.rel_append ?_ ?_) ?_
  · exact hcount _ .red (IsBare.counted _ (by decide) (by decide))
  · exact hcount _ .yellow (IsBare.counted _ (by decide) (by decide))
  · exact hcount _ .blue (IsBare.counted _ (by decide) (by decide))

theorem strips_statistics (s : Summary) :
    Strips (style.statistics s) (style.uncolored.statistics s) := by
  have hcounts := style.strips_counts s
  have hlist : Strips
      (if (style.counts s).isEmpty then "" else ": " ++ ", ".intercalate (style.counts s))
      (if (style.uncolored.counts s).isEmpty then ""
        else ": " ++ ", ".intercalate (style.uncolored.counts s)) := by
    generalize style.counts s = painted, style.uncolored.counts s = plain at hcounts
    cases hcounts with
    | nil => exact of_bare (by decide)
    | cons hfirst hrest =>
      exact (of_bare (by decide : IsBare ": ")).append
        (intercalate (by decide) (.cons hfirst hrest))
  have hfiles : IsBare (counted s.filesProcessed "file" "files" ++ " processed") :=
    (IsBare.counted _ (by decide) (by decide)).append (by decide)
  exact (((((of_bare hfiles).append hlist).append (of_bare (by decide))).append
    (of_bare (by decide))).append (of_bare (IsBare.twoPlaces _))).append (of_bare (by decide))

/-- So is a whole summary. -/
theorem strips_format {s : Summary} (h : s.IsBare) :
    Strips (style.format s) (style.uncolored.format s) := by
  have hfiles : List.Forall₂ Strips (s.files.map style.file)
      (s.files.map style.uncolored.file) := by
    rw [List.forall₂_map_left_iff, List.forall₂_map_right_iff, List.forall₂_same]
    exact fun f hf => style.strips_file (h.path f hf) (h.diagnostic f hf)
  refine (join hfiles).append ?_
  rw [uncolored_showStats]
  split
  · exact style.strips_statistics s
  · exact of_bare (by decide)

end TextStyle

/-- Colours change nothing but the codes: what is printed in colour, the codes taken out, is what is
printed without colour.  Where codes are not let through, both are the same as they stand. -/
theorem colors_keep_content (showFixes showStats : Bool) (s : Summary) :
    (s.IsBare →
      Look.strip (TextStyle.format ⟨true, true, showFixes, showStats⟩ s) =
        TextStyle.format ⟨false, true, showFixes, showStats⟩ s) ∧
    TextStyle.format ⟨true, false, showFixes, showStats⟩ s =
      TextStyle.format ⟨false, false, showFixes, showStats⟩ s := by
  refine ⟨fun h => ?_, rfl⟩
  exact (TextStyle.strips_format ⟨true, true, showFixes, showStats⟩ h).strip_eq

/-- A summary whose texts have the rest of colour codes in them, but not their first character. -/
def Summary.vivid : Summary :=
  .ofReport "[4m.ase" { diagnostics :=
    [⟨"casing", .warning, "Did you mean: [0m", ⟨⟨2, 4⟩, ⟨2, 7⟩⟩, some "[0m"⟩,
      ⟨"31m", .error, "\t", ⟨⟨0, 0⟩, ⟨0, 1⟩⟩, none⟩] }

theorem colors_keep_content_vivid :
    Summary.vivid.IsBare ∧
      Look.strip (TextStyle.format ⟨true, true, true, true⟩ .vivid) =
        TextStyle.format ⟨false, true, true, true⟩ .vivid ∧
      TextStyle.format ⟨true, true, true, true⟩ .vivid ≠
        TextStyle.format ⟨false, true, true, true⟩ .vivid := by
  have hcasing : Diagnostic.IsBare ⟨"casing", .warning, "Did you mean: [0m", ⟨⟨2, 4⟩, ⟨2, 7⟩⟩,
      some "[0m"⟩ := ⟨by decide, by decide, by rintro text ⟨rfl⟩; decide⟩
  have hother : Diagnostic.IsBare ⟨"31m", .error, "\t", ⟨⟨0, 0⟩, ⟨0, 1⟩⟩, none⟩ :=
    ⟨by decide, by decide, by rintro text ⟨⟩⟩
  have hdiagnostics : ∀ f ∈ Summary.vivid.files, ∀ d ∈ f.diagnostics, d.IsBare :=
    List.forall_mem_singleton.2
      (List.forall_mem_cons.2 ⟨hcasing, List.forall_mem_singleton.2 hother⟩)
  have hbare : Summary.vivid.IsBare := ⟨by decide, hdiagnostics⟩
  exact ⟨hbare, (colors_keep_content true true .vivid).1 hbare, by decide +kernel⟩

end ScopeLint
