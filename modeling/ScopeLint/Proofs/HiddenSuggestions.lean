import ScopeLint.Proofs.ReadBack

/-!
# Suggestions that the settings hide

Settings can ask for output without suggestions.  Text output follows them: of two summaries that
differ in their suggestions only it prints the same.  Output for programs does not look at this
setting.  All suggestions can be read back from it, so it tells any two such summaries apart.
-/

namespace ScopeLint

/-! ## Leaving out suggestions -/

def Diagnostic.withoutSuggestion (d : Diagnostic) : Diagnostic := { d with suggestion := none }

variable {π : Type}

def FileReport.withoutSuggestions (f : FileReport π) : FileReport π :=
  { f with diagnostics := f.diagnostics.map Diagnostic.withoutSuggestion }

namespace Summary

def withoutSuggestions (s : Summary π) : Summary π :=
  { s with files := s.files.map FileReport.withoutSuggestions }

/-- Files that agree but for their suggestions, and have the same diagnostics, are the same. -/
theorem files_eq_of_diagnostics {files files' : List (FileReport π)}
    (hrest : files.map FileReport.withoutSuggestions = files'.map FileReport.withoutSuggestions)
    (h : files.flatMap (fun f => f.diagnostics.map (fun d => (f.path, d))) =
      files'.flatMap (fun f => f.diagnostics.map (fun d => (f.path, d)))) : files = files' := by
  induction files generalizing files' with
  | nil => exact (List.map_eq_nil_iff.1 hrest.symm).symm
  | cons f files ih =>
    obtain ⟨f', files', rfl, hfirst, hothers⟩ := List.map_eq_cons_iff.1 hrest.symm
    obtain ⟨path, diagnostics, disabled⟩ := f
    obtain ⟨path', diagnostics', disabled'⟩ := f'
    simp only [FileReport.withoutSuggestions, FileReport.mk.injEq] at hfirst
    obtain ⟨rfl, hdiagnostics, rfl⟩ := hfirst
    have hlength : (diagnostics.map (Prod.mk path')).length =
        (diagnostics'.map (Prod.mk path')).length := by
      simpa using congrArg List.length hdiagnostics.symm
    rw [List.flatMap_cons, List.flatMap_cons] at h
    obtain ⟨hown, hbehind⟩ := List.append_inj h hlength
    have hsame : diagnostics = diagnostics' :=
      List.map_injective_iff.2 (fun _ _ heq => (Prod.mk.inj heq).2) hown
    rw [hsame, ih hothers.symm hbehind]

theorem eq_of_diagnostics {a b : Summary π} (hrest : a.withoutSuggestions = b.withoutSuggestions)
    (h : a.diagnostics = b.diagnostics) : a = b := by
  obtain ⟨files⟩ := a
  obtain ⟨files'⟩ := b
  simp only [withoutSuggestions, mk.injEq] at hrest
  obtain ⟨hfiles, rfl, rfl, rfl, rfl, rfl, rfl, rfl, rfl⟩ := hrest
  rw [files_eq_of_diagnostics hfiles h]

end Summary

/-! ## Text -/

namespace TextStyle

variable {style : TextStyle}

theorem diagnostic_withoutSuggestion (h : style.showFixes = false) (path : String)
    (d : Diagnostic) : style.diagnostic path d = style.diagnostic path d.withoutSuggestion := by
  simp only [diagnostic, h]
  rfl

theorem file_withoutSuggestions (h : style.showFixes = false) (f : FileReport) :
    style.file f = style.file f.withoutSuggestions := by
  simp only [file, FileReport.withoutSuggestions, List.isEmpty_map, List.map_map]
  simp only [Function.comp_def, ← diagnostic_withoutSuggestion h]

/-- Text output that shows no fixes reads no suggestion. -/
theorem format_withoutSuggestions (h : style.showFixes = false) (s : Summary) :
    style.format s = style.format s.withoutSuggestions := by
  have hfiles : s.files.map style.file = s.withoutSuggestions.files.map style.file := by
    rw [Summary.withoutSuggestions, List.map_map]
    exact List.map_congr_left fun f _ => file_withoutSuggestions h f
  rw [format, hfiles]
  rfl

end TextStyle

/-! ## Output for programs -/

namespace JsonOutput

theorem content?_format (s : Summary) :
    (Json.read? ((Formatter.json true).format s)).bind content? = some (.ofSummary s) := by
  rw [read?_format, Option.bind_some, content?_summary]

/-- Output for programs that is the same shows the same diagnostics. -/
theorem diagnostics_eq_of_format {a b : Summary}
    (h : (Formatter.json true).format a = (Formatter.json true).format b) :
    a.diagnostics = b.diagnostics := by
  have hcontent := content?_format a
  rw [h, content?_format] at hcontent
  exact (congrArg Content.diagnostics (Option.some.inj hcontent)).symm

theorem diagnostic?_format (path : String) (d : Diagnostic) :
    (Json.read? ((Formatter.json true).diagnostic path d)).bind diagnostic? = some (path, d) := by
  have hread : Json.read? ((Formatter.json true).diagnostic path d) = some (diagnostic path d) :=
    Json.read?_pretty (plain_diagnostic path d)
  rw [hread, Option.bind_some, (shows_diagnostic path d).diagnostic?_eq]

theorem eq_of_format_diagnostic {path : String} {x y : Diagnostic}
    (h : (Formatter.json true).diagnostic path x = (Formatter.json true).diagnostic path y) :
    x = y := by
  have hshown := diagnostic?_format path x
  rw [h, diagnostic?_format] at hshown
  exact (Prod.mk.inj (Option.some.inj hshown)).2.symm

end JsonOutput

/-- Where the settings hide suggestions, text output shows none of them and output for programs
shows all: two summaries that differ in their suggestions only are printed alike exactly if the
output is text or they do not differ at all.  The same holds of single diagnostics. -/
theorem suggestions_hidden_iff (o : OutputSettings) (ho : o.suggestions = false)
    (colored escapes : Bool) :
    (∀ a b : Summary, a.withoutSuggestions = b.withoutSuggestions →
      (((Formatter.ofSettings o colored).withEscapes escapes).format a =
          ((Formatter.ofSettings o colored).withEscapes escapes).format b ↔
        o.format = .text ∨ a = b)) ∧
    ∀ (path : String) (x y : Diagnostic), x.withoutSuggestion = y.withoutSuggestion →
      (((Formatter.ofSettings o colored).withEscapes escapes).diagnostic path x =
          ((Formatter.ofSettings o colored).withEscapes escapes).diagnostic path y ↔
        o.format = .text ∨ x = y) := by
  unfold Formatter.ofSettings
  cases hformat : o.format with
  | text =>
    refine ⟨fun a b h => iff_of_true ?_ (.inl rfl), fun path x y h => iff_of_true ?_ (.inl rfl)⟩
    · exact (TextStyle.format_withoutSuggestions ho a).trans
        (h ▸ (TextStyle.format_withoutSuggestions ho b).symm)
    · exact (TextStyle.diagnostic_withoutSuggestion ho path x).trans
        (h ▸ (TextStyle.diagnostic_withoutSuggestion ho path y).symm)
  | json =>
    refine ⟨fun a b h => ⟨fun hsame => .inr ?_, ?_⟩, fun path x y _ => ⟨fun hsame => .inr ?_, ?_⟩⟩
    · exact Summary.eq_of_diagnostics h (JsonOutput.diagnostics_eq_of_format hsame)
    · rintro (h | rfl)
      · cases h
      · rfl
    · exact JsonOutput.eq_of_format_diagnostic hsame
    · rintro (h | rfl)
      · cases h
      · rfl

/-- A diagnostic with a suggestion. -/
def Diagnostic.hinted : Diagnostic :=
  ⟨"casing", .warning, "Did you mean: eoi", ⟨⟨0, 0⟩, ⟨0, 3⟩⟩, some "eoi"⟩

/-- Text output hides the suggestion of a diagnostic, and output for programs does not. -/
theorem suggestions_hidden_iff_hinted :
    Diagnostic.hinted.withoutSuggestion = Diagnostic.hinted.withoutSuggestion.withoutSuggestion ∧
      (Formatter.ofSettings { suggestions := false } true).diagnostic "a.ase" .hinted =
        (Formatter.ofSettings { suggestions := false } true).diagnostic "a.ase"
          Diagnostic.hinted.withoutSuggestion ∧
      (Formatter.ofSettings { suggestions := false, format := .json } true).diagnostic "a.ase"
          .hinted ≠
        (Formatter.ofSettings { suggestions := false, format := .json } true).diagnostic "a.ase"
          Diagnostic.hinted.withoutSuggestion := by
  obtain ⟨-, htext⟩ := suggestions_hidden_iff { suggestions := false } rfl true true
  obtain ⟨-, hjson⟩ :=
    suggestions_hidden_iff { suggestions := false, format := .json } rfl true true
  refine ⟨rfl, (htext "a.ase" .hinted Diagnostic.hinted.withoutSuggestion rfl).2 (.inl rfl), ?_⟩
  intro hsame
  rcases (hjson "a.ase" .hinted Diagnostic.hinted.withoutSuggestion rfl).1 hsame with h | h
  · cases h
  · cases h

end ScopeLint
