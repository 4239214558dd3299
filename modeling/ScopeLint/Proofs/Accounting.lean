import Mathlib.Algebra.GroupWithZero.Nat
import Mathlib.Data.List.Basic
import ScopeLint.Proofs.Acceptance
import ScopeLint.Proofs.Independence
import ScopeLint.Settings

/-!
# What a report accounts for

A pass goes through the enabled families in the order of `Family.all`.  A family whose limit lies
below the number of lines is skipped and named in the notice; every other family runs once and adds
one block of diagnostics, whose length stands in its entry.  Which families are enabled, their
limits and their severities are read off the steps that made the linter.  Nothing is said here of
what a block holds beyond its rule and its severity.
-/

namespace ScopeLint

/-! ## How linters are made -/

/-- The steps that make a linter: a table or settings first, and then changes. -/
inductive Setup where
  | table (t : RuleTable)
  | settings (s : Settings)
  | families (before : Setup) (chosen : List Family)
  | severity (before : Setup) (f : Family) (s : Severity)
  /-- How documents are shared out to workers, which a pass over one document does not see. -/
  | workers (before : Setup) (parallel : Bool) (jobs : Nat)

namespace Setup

/-- The linter that the steps make; settings with a faulty table make none. -/
def linter : Setup → Except LintError Linter
  | .table t => .ok { table := t }
  | .settings s => s.linter
  | .families before chosen => do return (← before.linter).withFamilies chosen
  | .severity before f s => do return (← before.linter).withSeverity f s
  | .workers before _ _ => before.linter

def limits : Setup → Limits
  | .table t => t.limits
  | .settings s => s.table.limits
  | .families before _ | .severity before _ _ | .workers before _ _ => before.limits

/-- Is the family enabled?  A choice of families overrules what was chosen before. -/
def enables : Setup → Family → Bool
  | .table _, _ => true
  | .settings s, f => s.isEnabled f.id
  | .families _ chosen, f => chosen.contains f
  | .severity before _ _, f | .workers before _ _, f => before.enables f

/-- The severity of a family: the last one that was set, and its own where none was. -/
def severityOf : Setup → Family → Severity
  | .table _, f => f.defaultSeverity
  | .settings s, f => (s.severityFor? f).getD f.defaultSeverity
  | .severity before g s, f => if f = g then s else before.severityOf f
  | .families before _, f | .workers before _ _, f => before.severityOf f

/-- Is the text too long for the family? -/
def isTooLong (b : Setup) (text : String) (f : Family) : Bool :=
  (b.limits.maxLines f).any (fun limit => limit < 1 + text.toList.count '\n')

end Setup

theorem Settings.isEnabled_id (s : Settings) (f : Family) : s.isEnabled f.id = !s.disables f := by
  have hparse : Family.parse? f.id = some f := by cases f <;> decide +kernel
  rw [isEnabled, hparse]

/-- In a list of chosen severities a family has the one that was chosen for it: it stands nowhere
else, so no later entry is its own. -/
theorem Family.find?_chosen (choice : Family → Option Severity) {f : Family} {fs : List Family}
    (hnodup : fs.Nodup) (hf : f ∈ fs) :
    (fs.filterMap (fun g => (choice g).map (g, ·))).find? (fun entry => entry.1 == f) =
      (choice f).map (f, ·) := by
  induction fs with
  | nil => cases hf
  | cons g fs ih =>
    obtain ⟨hg, hnodup⟩ := List.nodup_cons.1 hnodup
    by_cases hgf : g = f
    · subst hgf
      cases hchoice : choice g with
      | some severity =>
        rw [List.filterMap_cons_some (by rw [hchoice]; rfl), List.find?_cons_of_pos (by simp)]
        rfl
      | none =>
        have hnone : ∀ entry ∈ fs.filterMap (fun g => (choice g).map (g, ·)),
            ¬ (entry.1 == g) = true := by
          intro entry hentry heq
          obtain ⟨f, hf, hentry⟩ := List.mem_filterMap.1 hentry
          obtain ⟨severity, -, rfl⟩ := Option.map_eq_some_iff.1 hentry
          exact hg (beq_iff_eq.1 heq ▸ hf)
        rw [List.filterMap_cons_none (by rw [hchoice]; rfl), List.find?_eq_none.2 hnone]
        rfl
    · have hrest : f ∈ fs := (List.mem_cons.1 hf).resolve_left (Ne.symm hgf)
      cases hchoice : choice g with
      | some severity =>
        rw [List.filterMap_cons_some (by rw [hchoice]; rfl),
          List.find?_cons_of_neg (by simpa using hgf), ih hnodup hrest]
      | none => rw [List.filterMap_cons_none (by rw [hchoice]; rfl), ih hnodup hrest]

namespace Setup

/-- The linter has the limits, the families and the severities of the steps. -/
structure Describes (b : Setup) (l : Linter) : Prop where
  limits : l.table.limits = b.limits
  families : l.families = Family.all.filter b.enables
  severityOf : ∀ f, l.severityOf f = b.severityOf f

variable {b : Setup} {l : Linter}

theorem describes_table (t : RuleTable) : (Setup.table t).Describes { table := t } where
  limits := rfl
  families := rfl
  severityOf _ := rfl

theorem describes_settings {s : Settings} (h : s.linter = .ok l) :
    (Setup.settings s).Describes l := by
  obtain ⟨table, htable, h⟩ := bind_eq_ok.1 h
  cases h
  refine ⟨(RuleTable.keeps_of_compile htable).limits, ?_, fun f => ?_⟩
  · exact List.filter_congr fun f _ => (s.isEnabled_id f).symm
  · have hall : f ∈ Family.all := by cases f <;> decide
    rw [Linter.severityOf, Family.find?_chosen s.severityFor? (by decide) hall, severityOf]
    cases s.severityFor? f <;> rfl

theorem Describes.families_step (h : b.Describes l) (chosen : List Family) :
    (b.families chosen).Describes (l.withFamilies chosen) where
  limits := h.limits
  families := rfl
  severityOf := h.severityOf

theorem Describes.severity_step (h : b.Describes l) (g : Family) (s : Severity) :
    (b.severity g s).Describes (l.withSeverity g s) where
  limits := h.limits
  families := h.families
  severityOf f := by
    simp only [Setup.severityOf, Linter.severityOf, Linter.withSeverity]
    by_cases hfg : f = g
    · rw [if_pos hfg, List.find?_cons_of_pos (by simp [hfg])]
    · rw [if_neg hfg, List.find?_cons_of_neg (by simpa using Ne.symm hfg)]
      exact h.severityOf f

/-- The steps describe the linter that they make, by induction on the steps. -/
theorem describes_linter {b : Setup} {l : Linter} (h : b.linter = .ok l) : b.Describes l := by
  induction b generalizing l with
  | table t =>
    cases h
    exact describes_table t
  | settings s => exact describes_settings h
  | families before chosen ih =>
    obtain ⟨l', hl', h⟩ := bind_eq_ok.1 h
    cases h
    exact (ih hl').families_step chosen
  | severity before g s ih =>
    obtain ⟨l', hl', h⟩ := bind_eq_ok.1 h
    cases h
    exact (ih hl').severity_step g s
  | workers before parallel jobs ih => exact ⟨(ih h).limits, (ih h).families, (ih h).severityOf⟩

end Setup

/-! ## The length of a text -/

theorem Text.length_splitAt (sep : Char) (cs : List Char) :
    (splitAt sep cs).length = 1 + cs.count sep := by
  induction cs with
  | nil => rfl
  | cons c cs ih =>
    by_cases hc : c = sep
    · rw [hc, splitAt_sep, List.length_cons, ih, List.count_cons_self]
      omega
    · have hfirst : ∀ pieces, pieces ≠ [] →
          (consFirst c pieces).length = pieces.length := by
        intro pieces hne
        obtain ⟨piece, rest, rfl⟩ := List.exists_cons_of_ne_nil hne
        rfl
      rw [splitAt_cons hc, hfirst _ (splitAt_ne_nil sep cs), ih, List.count_cons_of_ne hc]

theorem Document.lineCount_ofString (text : String) :
    (Document.ofString text).lineCount = 1 + text.toList.count '\n' := by
  rw [lineCount, lines_eq, linesOf]
  simp only [List.size_toArray, List.length_map, ofString, Text.length_splitAt]

/-- Which families are skipped can be told from the steps and the number of line feeds. -/
theorem Setup.Describes.exceeded {b : Setup} {l : Linter} (h : b.Describes l) (text : String)
    (f : Family) : (l.exceeded? (.ofString text) f).isSome = b.isTooLong text f := by
  rw [Linter.exceeded?, h.limits, isTooLong, Document.lineCount_ofString]
  cases b.limits.maxLines f with
  | none => rfl
  | some limit =>
    by_cases hlimit : limit < 1 + text.toList.count '\n' <;> simp [hlimit]

/-! ## The pass -/

namespace Linter

/-- A pass that has gone through `seen` has skipped the families that the document is too long for,
and each of the others has left one block in the sink and one entry with the block's length. -/
structure Accounts (l : Linter) (d : Document) (seen : List Family)
    (blocks : List (Family × List Diagnostic)) (now : Progress) : Prop where
  document : now.sink.document = d
  disabled : now.disabled = seen.filter (fun f => (l.exceeded? d f).isSome)
  ran : blocks.map Prod.fst = seen.filter (fun f => !(l.exceeded? d f).isSome)
  timings : now.timings.map (fun t => (t.rule, t.runs, t.diagnostics)) =
    blocks.map (fun block => (block.1.id, 1, block.2.length))
  diagnostics : now.sink.diagnostics = blocks.flatMap Prod.snd
  marked : ∀ block ∈ blocks, ∀ x ∈ block.2,
    x.rule = block.1.id ∧ x.severity = l.severityOf block.1

variable {l : Linter} {d : Document} {classifier : Classifier} {seen : List Family}
  {blocks : List (Family × List Diagnostic)} {now next : Progress} {f : Family}

theorem accounts_start (l : Linter) (d : Document) : l.Accounts d [] [] ⟨.empty d, [], []⟩ where
  document := rfl
  disabled := rfl
  ran := rfl
  timings := rfl
  diagnostics := rfl
  marked _ hblock := absurd hblock List.not_mem_nil

/-- A family that the document is too long for leaves nothing but its name. -/
theorem Accounts.skip (h : l.Accounts d seen blocks now) (hf : (l.exceeded? d f).isSome = true) :
    l.Accounts d (seen ++ [f]) blocks { now with disabled := now.disabled ++ [f] } where
  document := h.document
  disabled := by
    rw [List.filter_append, ← h.disabled, List.filter_cons_of_pos (by simp [hf]), List.filter_nil]
  ran := by
    rw [List.filter_append, ← h.ran, List.filter_cons_of_neg (by simp [hf]), List.filter_nil,
      List.append_nil]
  timings := h.timings
  diagnostics := h.diagnostics
  marked := h.marked

/-- A family that runs leaves one block and one entry. -/
theorem Accounts.keep (h : l.Accounts d seen blocks now) (hf : (l.exceeded? d f).isSome = false)
    {found : Findings}
    (hfound : f.findings ⟨d, classifier, l.table⟩ (l.severityOf f) = .ok found) :
    l.Accounts d (seen ++ [f]) (blocks ++ [(f, found.diagnostics)])
      { now with
        sink := (Tally.plus ⟨0, now.sink⟩ found).sink
        timings := now.timings ++
          [{ rule := f.id, runs := 1, examined := 0 + found.examined,
             diagnostics := (Tally.plus ⟨0, now.sink⟩ found).sink.size - now.sink.size }] } where
  document := h.document
  disabled := by
    rw [List.filter_append, ← h.disabled, List.filter_cons_of_neg (by simp [hf]), List.filter_nil,
      List.append_nil]
  ran := by
    rw [List.filter_append, ← h.ran, List.filter_cons_of_pos (by simp [hf]), List.filter_nil,
      List.map_append, List.map_singleton]
  timings := by
    have hgrown : (Tally.plus ⟨0, now.sink⟩ found).sink.size - now.sink.size =
        found.diagnostics.length := by
      simp only [Tally.plus, Sink.size, List.length_append]
      omega
    rw [List.map_append, List.map_append, h.timings, List.map_singleton, List.map_singleton, hgrown]
  diagnostics := by
    rw [List.flatMap_append, ← h.diagnostics, List.flatMap_singleton]
    rfl
  marked := by
    intro block hblock x hx
    rcases List.mem_append.1 hblock with hblock | hblock
    · exact h.marked block hblock x hx
    · cases List.mem_singleton.1 hblock
      exact Family.rule_severity_of_mem hfound hx

/-- One more family. -/
theorem Accounts.advance (h : l.Accounts d seen blocks now)
    (hnext : l.advance d classifier now f = .ok next) :
    ∃ blocks, l.Accounts d (seen ++ [f]) blocks next := by
  rw [Linter.advance] at hnext
  cases hf : l.exceeded? d f with
  | some limit =>
    rw [hf] at hnext
    cases hnext
    exact ⟨blocks, h.skip (by rw [hf]; rfl)⟩
  | none =>
    rw [hf] at hnext
    obtain ⟨t, ht, hnext⟩ := bind_eq_ok.1 hnext
    rw [f.run_eq ⟨d, classifier, l.table⟩ (l.severityOf f) h.document] at ht
    cases hfound : f.findings ⟨d, classifier, l.table⟩ (l.severityOf f) with
    | error e =>
      rw [hfound] at ht
      cases ht
    | ok found =>
      rw [hfound] at ht
      cases ht
      cases hnext
      exact ⟨_, h.keep (by rw [hf]; rfl) hfound⟩

/-- What holds so far holds after any further families. -/
theorem Accounts.run {fs : List Family} (h : l.Accounts d seen blocks now)
    (hnext : fs.foldlM (l.advance d classifier) now = .ok next) :
    ∃ blocks, l.Accounts d (seen ++ fs) blocks next := by
  induction fs generalizing seen blocks now with
  | nil =>
    cases hnext
    exact ⟨blocks, by rwa [List.append_nil]⟩
  | cons f fs ih =>
    rw [List.foldlM_cons] at hnext
    obtain ⟨after, hafter, hnext⟩ := bind_eq_ok.1 hnext
    obtain ⟨blocks', h'⟩ := h.advance hafter
    rw [List.append_cons]
    exact ih h' hnext

/-- A pass accounts for the families of its linter, each of them once. -/
theorem accounts_of_lint {report : Report} (h : l.lint d classifier = .ok report) :
    ∃ blocks done, l.Accounts d l.families blocks done ∧ report = done.report := by
  rw [← pass_eq_lint] at h
  obtain ⟨done, hdone, h⟩ := bind_eq_ok.1 h
  cases h
  obtain ⟨blocks, hblocks⟩ := (accounts_start l d).run hdone
  exact ⟨blocks, done, hblocks, rfl⟩

namespace Accounts

theorem length_diagnostics (h : l.Accounts d seen blocks now) :
    now.sink.diagnostics.length = (now.timings.map (·.diagnostics)).sum := by
  have hlengths : now.timings.map (·.diagnostics) = blocks.map (fun block => block.2.length) := by
    have hproject := congrArg (List.map (fun entry : String × Nat × Nat => entry.2.2)) h.timings
    rwa [List.map_map, List.map_map] at hproject
  rw [h.diagnostics, List.length_flatMap, hlengths]

/-- A diagnostic comes from a family that was not skipped. -/
theorem exists_family (h : l.Accounts d seen blocks now) {x : Diagnostic}
    (hx : x ∈ now.sink.diagnostics) : ∃ f ∈ seen, f ∉ now.disabled ∧ x.rule = f.id := by
  rw [h.diagnostics] at hx
  obtain ⟨block, hblock, hx⟩ := List.mem_flatMap.1 hx
  have hran : block.1 ∈ seen.filter (fun f => !(l.exceeded? d f).isSome) :=
    h.ran ▸ List.mem_map_of_mem hblock
  obtain ⟨hseen, hshort⟩ := List.mem_filter.1 hran
  refine ⟨block.1, hseen, ?_, (h.marked block hblock x hx).1⟩
  rw [h.disabled, List.mem_filter]
  rintro ⟨-, hlong⟩
  rw [hlong] at hshort
  cases hshort

theorem diagnostics_report (now : Progress) : now.report.diagnostics =
    (if now.disabled = [] then [] else [notice now.disabled]) ++ now.sink.diagnostics := by
  rw [Progress.report_eq]
  simp only [List.isEmpty_iff]

theorem exists_notice_iff (h : l.Accounts d seen blocks now) :
    (∃ x ∈ now.report.diagnostics, x.rule = skippedRule) ↔ now.disabled ≠ [] := by
  rw [diagnostics_report]
  constructor
  · rintro ⟨x, hx, hrule⟩ hnone
    rw [if_pos hnone, List.nil_append] at hx
    obtain ⟨f, -, -, hf⟩ := h.exists_family hx
    exact f.id_ne_skippedRule (hf.symm.trans hrule)
  · intro hsome
    rw [if_neg hsome]
    exact ⟨_, List.mem_cons_self, rfl⟩

theorem rule_ne_of_disabled (h : l.Accounts d seen blocks now) (hf : f ∈ now.disabled)
    {x : Diagnostic} (hx : x ∈ now.report.diagnostics) : x.rule ≠ f.id := by
  intro hrule
  rw [diagnostics_report, if_neg (List.ne_nil_of_mem hf)] at hx
  rcases List.mem_cons.1 hx with rfl | hx
  · exact f.id_ne_skippedRule hrule.symm
  · obtain ⟨g, -, hg, hrule'⟩ := h.exists_family hx
    exact hg (Family.id_injective (hrule.symm.trans hrule') ▸ hf)

/-- The entries of the report count its diagnostics, all but the notice. -/
theorem length_report (h : l.Accounts d seen blocks now) :
    now.report.diagnostics.length = (now.timings.map (·.diagnostics)).sum +
      (if now.disabled = [] then 0 else 1) := by
  rw [diagnostics_report, List.length_append, h.length_diagnostics, Nat.add_comm]
  refine congrArg (_ + ·) ?_
  split <;> rfl

end Accounts

end Linter

/-- The report of any linter accounts for all its families.  The skipped ones are those that are
enabled and have a limit below the number of lines, the entries are those of the other enabled ones,
both in the order of `Family.all`.  The diagnostics are the notice, if and only if something was
skipped, and then one block for each entry, as long as the entry says, with the rule and the
severity of its family. -/
theorem report_accounts {b : Setup} {l : Linter} {text : String} {classifier : Classifier}
    {report : Report} (hmade : b.linter = .ok l)
    (hlint : l.lint (.ofString text) classifier = .ok report) :
    report.disabled = Family.all.filter (fun f => b.enables f && b.isTooLong text f) ∧
    (∃ (note : Diagnostic) (blocks : List (Family × List Diagnostic)),
      (note.rule = "disabled-rules" ∧ note.severity = .info ∧ note.span = ⟨⟨0, 0⟩, ⟨0, 0⟩⟩ ∧
        note.message =
          "Disabled for large documents: " ++ ", ".intercalate (report.disabled.map (·.id))) ∧
      blocks.map Prod.fst = Family.all.filter (fun f => b.enables f && !b.isTooLong text f) ∧
      report.timings.map (fun t => (t.rule, t.runs, t.diagnostics)) =
        blocks.map (fun block => (block.1.id, 1, block.2.length)) ∧
      (∀ block ∈ blocks, ∀ x ∈ block.2,
        x.rule = block.1.id ∧ x.severity = b.severityOf block.1) ∧
      report.diagnostics =
        (if report.disabled = [] then [] else [note]) ++ blocks.flatMap Prod.snd) ∧
    ((∃ x ∈ report.diagnostics, x.rule = "disabled-rules") ↔ report.disabled ≠ []) ∧
    (∀ f ∈ report.disabled, ∀ x ∈ report.diagnostics, x.rule ≠ f.id) ∧
    report.diagnostics.length = (report.timings.map (·.diagnostics)).sum +
      (if report.disabled = [] then 0 else 1) := by
  have hdescribes := Setup.describes_linter hmade
  obtain ⟨blocks, done, hblocks, rfl⟩ := Linter.accounts_of_lint hlint
  have hchoice : ∀ p : Bool → Bool,
      l.families.filter (fun f => p (l.exceeded? (.ofString text) f).isSome) =
        Family.all.filter (fun f => b.enables f && p (b.isTooLong text f)) := by
    intro p
    rw [hdescribes.families, List.filter_filter]
    refine List.filter_congr fun f _ => ?_
    rw [hdescribes.exceeded, Bool.and_comm]
  refine ⟨hblocks.disabled.trans (hchoice id), ⟨Linter.notice done.disabled, blocks,
    ⟨rfl, rfl, rfl, rfl⟩, hblocks.ran.trans (hchoice not), hblocks.timings, ?_, ?_⟩,
    hblocks.exists_notice_iff, fun f hf x hx => hblocks.rule_ne_of_disabled hf hx,
    hblocks.length_report⟩
  · intro block hblock x hx
    rw [← hdescribes.severityOf]
    exact hblocks.marked block hblock x hx
  · rw [← hblocks.diagnostics]
    exact Linter.Accounts.diagnostics_report done

/-- Settings that disable the brackets, then a choice that enables them again, with limits that
leave out the spacing and the names in a text of two lines. -/
def Setup.renewed : Setup :=
  .workers (.severity (.families (.settings
    { rules := { disabled := ["Brackets"], severity := .ofList [("CASE", .error)] }
      table := { limits := { spacing := some 1, brackets := some 2, naming := some 0 } } })
    [.naming, .brackets, .spacing, .casing]) .brackets .info) true 4

theorem Setup.linter_renewed :
    renewed.linter = .ok
      ⟨{ BuiltIn.table with limits := { spacing := some 1, brackets := some 2, naming := some 0 } },
        Family.all, [(.brackets, .info), (.casing, .error)]⟩ := by
  have hsettings : Settings.linter
      { rules := { disabled := ["Brackets"], severity := .ofList [("CASE", .error)] }
        table := { limits := { spacing := some 1, brackets := some 2, naming := some 0 } } } =
      .ok ⟨{ BuiltIn.table with
          limits := { spacing := some 1, brackets := some 2, naming := some 0 } },
        [.casing, .spacing, .naming], [(.casing, .error)]⟩ := by
    rw [Settings.linter, BuiltIn.compile_variant]
    decide +kernel
  simp only [renewed, linter, hsettings]
  rfl

/-- Two families are skipped, and the two that run are the first and the third. -/
theorem report_accounts_renewed : ∃ (l : Linter) (report : Report),
    Setup.renewed.linter = .ok l ∧ l.lint crowded ⟨fun _ => [Scope.root]⟩ = .ok report ∧
      report.disabled = [.spacing, .naming] ∧
      report.diagnostics.length = (report.timings.map (·.diagnostics)).sum + 1 ∧
      ∀ x ∈ report.diagnostics, x.rule ≠ "spacing" := by
  have hlint : Linter.lint
      ⟨{ BuiltIn.table with limits := { spacing := some 1, brackets := some 2, naming := some 0 } },
        Family.all, [(.brackets, .info), (.casing, .error)]⟩ crowded ⟨fun _ => [Scope.root]⟩ =
      .ok ⟨[Linter.notice [.spacing, .naming],
          .ofMessage "casing" .error (Casing.message "eoi") (Span.onRow 0 0 3),
          .ofMessage "bracket-match" .info Brackets.message (Span.charAt ⟨0, 4⟩)],
        [.spacing, .naming],
        [⟨"casing", 0, 1, 1, 1⟩, ⟨"bracket-match", 0, 1, 1, 1⟩]⟩ := by
    decide +kernel
  obtain ⟨-, -, -, hskipped, hlength⟩ := report_accounts Setup.linter_renewed hlint
  exact ⟨_, _, Setup.linter_renewed, hlint, rfl, hlength, hskipped .spacing (by decide)⟩

end ScopeLint
