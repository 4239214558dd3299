import ScopeLint.Proofs.Accounting

/-!
# Rules chosen by meaning

Settings and the command line name the families that are not to run, and settings give severities
by name.  Only the families that are meant count: not the order of the names, not how often or by
which of its names a family is mentioned, and not how the names are capitalized.
-/

namespace ScopeLint

namespace Family

def names : Family → List String
  | .casing => ["casing", "case"]
  | .spacing => ["spacing"]
  | .brackets => ["bracket-match", "brackets"]
  | .naming => ["notation"]

/-- Is `id` a name of the family, in any capitalization? -/
def IsNamed (f : Family) (id : String) : Prop := Text.lower id ∈ f.names

/-- Is the family named by one of the ids? -/
def IsMentioned (f : Family) (ids : List String) : Prop := ∃ id ∈ ids, f.IsNamed id

theorem parse?_eq_some_iff {f : Family} {id : String} : parse? id = some f ↔ f.IsNamed id := by
  unfold parse? IsNamed
  generalize Text.lower id = name
  split <;> cases f <;> simp_all [names]

theorem IsNamed.unique {f g : Family} {id : String} (hf : f.IsNamed id) (hg : g.IsNamed id) :
    f = g := by
  rw [← parse?_eq_some_iff] at hf hg
  exact Option.some.inj (hf.symm.trans hg)

theorem mem_all (f : Family) : f ∈ all := by cases f <;> decide

end Family

/-! ## Lists of ids that mean the same -/

/-- Two lists of ids are the same but for their order, repeated ids, other names of the families
that they mention, and ids that name no family. -/
inductive Rephrased : List String → List String → Prop where
  | perm {ids ids' : List String} (h : ids.Perm ids') : Rephrased ids ids'
  | repeated {ids : List String} {id : String} (h : id ∈ ids) : Rephrased ids (id :: ids)
  | renamed {ids : List String} {id id' : String} {f : Family} (h : f.IsNamed id)
      (h' : f.IsNamed id') : Rephrased (id :: ids) (id' :: ids)
  | unknown {ids : List String} {id : String} (h : ∀ f : Family, ¬ f.IsNamed id) :
      Rephrased ids (id :: ids)
  | symm {ids ids' : List String} (h : Rephrased ids ids') : Rephrased ids' ids
  | trans {ids ids' ids'' : List String} (h : Rephrased ids ids') (h' : Rephrased ids' ids'') :
      Rephrased ids ids''

namespace Family

theorem isMentioned_cons {f : Family} {id : String} {ids : List String} :
    f.IsMentioned (id :: ids) ↔ f.IsNamed id ∨ f.IsMentioned ids := by
  simp [IsMentioned]

theorem IsMentioned.mono {f : Family} {ids ids' : List String} (h : f.IsMentioned ids)
    (hsub : ids ⊆ ids') : f.IsMentioned ids' := by
  obtain ⟨id, hid, hf⟩ := h
  exact ⟨id, hsub hid, hf⟩

/-- Other words for the same families mention the same families: two ids that can take each other's
place name one family, and no other. -/
theorem isMentioned_rephrased {ids ids' : List String} (h : Rephrased ids ids') (f : Family) :
    f.IsMentioned ids ↔ f.IsMentioned ids' := by
  induction h with
  | perm h => exact ⟨fun hf => hf.mono h.subset, fun hf => hf.mono h.symm.subset⟩
  | repeated hid =>
    rw [isMentioned_cons]
    constructor
    · exact Or.inr
    · intro hf
      apply hf.elim
      · intro hname
        exact ⟨_, hid, hname⟩
      · intro hrest
        exact hrest
  | renamed hg hg' =>
    rw [isMentioned_cons, isMentioned_cons]
    have hsame : f.IsNamed _ ↔ f.IsNamed _ :=
      ⟨fun hf => (hf.unique hg) ▸ hg', fun hf => (hf.unique hg') ▸ hg⟩
    rw [hsame]
  | unknown hid =>
    rw [isMentioned_cons]
    exact ⟨Or.inr, fun hf => hf.resolve_left (hid f)⟩
  | symm _ ih => exact ih.symm
  | trans _ _ ih ih' => exact ih.trans ih'

end Family

/-! ## What a linter takes from its settings -/

namespace Settings

variable {s s' : Settings} {l l' : Linter}

theorem exists_linter {table : RuleTable} (h : RuleTable.compile s.table = .ok table) :
    ∃ l, s.linter = .ok l ∧ l.table = table := by
  rw [linter, h]
  exact ⟨_, rfl, rfl⟩

theorem disables_iff {f : Family} : s.disables f = true ↔ f.IsMentioned s.rules.disabled := by
  simp only [disables, List.any_eq_true, beq_iff_eq, Family.parse?_eq_some_iff]
  rfl

/-- A family runs unless the settings disable it by one of its names. -/
theorem mem_families_iff (h : s.linter = .ok l) {f : Family} :
    f ∈ l.families ↔ ¬ f.IsMentioned s.rules.disabled := by
  rw [(Setup.describes_settings h).families, List.mem_filter, ← disables_iff]
  show f ∈ Family.all ∧ s.isEnabled f.id = true ↔ ¬ s.disables f = true
  rw [isEnabled_id]
  simp [f.mem_all]

/-- A linter has its families in the order of all families. -/
theorem families_eq_filter (h : s.linter = .ok l) {p : Family → Bool}
    (hp : ∀ f, p f = true ↔ f ∈ l.families) : l.families = Family.all.filter p := by
  have hfamilies := (Setup.describes_settings h).families
  rw [hfamilies]
  apply List.filter_congr
  intro f _
  rw [Bool.eq_iff_iff, hp f, hfamilies, List.mem_filter]
  simp [f.mem_all]

/-- An id is enabled when it names a family that runs. -/
theorem isEnabled_iff (h : s.linter = .ok l) {id : String} :
    s.isEnabled id = true ↔ ∃ f ∈ l.families, f.IsNamed id := by
  unfold isEnabled
  split
  · next f hf =>
    rw [Family.parse?_eq_some_iff] at hf
    rw [Bool.not_eq_true', ← Bool.not_eq_true, disables_iff, ← mem_families_iff h]
    constructor
    · intro hmem
      exact ⟨f, hmem, hf⟩
    · intro hother
      obtain ⟨g, hg, hid⟩ := hother
      exact hf.unique hid ▸ hg
  · next hnone =>
    constructor
    · intro hfalse
      cases hfalse
    · intro hother
      obtain ⟨g, -, hid⟩ := hother
      rw [← Family.parse?_eq_some_iff, hnone] at hid
      cases hid

/-- A linter runs fewer families than another if its settings disable more. -/
theorem families_sublist (h : s.linter = .ok l) (h' : s'.linter = .ok l')
    (hmore : ∀ f : Family, f.IsMentioned s.rules.disabled → f.IsMentioned s'.rules.disabled) :
    l'.families.Sublist l.families := by
  rw [(Setup.describes_settings h).families, (Setup.describes_settings h').families]
  apply List.monotone_filter_right
  intro f hf
  change s'.isEnabled f.id = true at hf
  show s.isEnabled f.id = true
  rw [isEnabled_id, Bool.not_eq_true', ← Bool.not_eq_true, disables_iff] at hf ⊢
  exact fun hs => hf (hmore f hs)

theorem families_eq_of_rephrased (h : s.linter = .ok l) (h' : s'.linter = .ok l')
    (hids : Rephrased s.rules.disabled s'.rules.disabled) : l'.families = l.families := by
  apply List.Sublist.antisymm
  · exact families_sublist h h' fun f => (Family.isMentioned_rephrased hids f).1
  · exact families_sublist h' h fun f => (Family.isMentioned_rephrased hids f).2

end Settings

/-! ## Severities -/

namespace SeverityMap

/-- Do no two ids name the same family? -/
def IsUnambiguous (m : SeverityMap) : Prop :=
  ∀ id ∈ m.ids, ∀ id' ∈ m.ids, ∀ f : Family, f.IsNamed id → f.IsNamed id' → id = id'

/-- In an unambiguous map the entry for a family is the only one. -/
theorem IsUnambiguous.entry_eq {m : SeverityMap} (h : m.IsUnambiguous) {f : Family}
    {e e' : String × Severity} (he : e ∈ m.entries) (he' : e' ∈ m.entries) (hf : f.IsNamed e.1)
    (hf' : f.IsNamed e'.1) : e = e' := by
  have hid : e.1 = e'.1 :=
    h _ (List.mem_map_of_mem he) _ (List.mem_map_of_mem he') f hf hf'
  exact List.inj_on_of_nodup_map m.distinct he he' hid

theorem IsUnambiguous.of_perm {m m' : SeverityMap} (h : m.IsUnambiguous)
    (hperm : m'.entries.Perm m.entries) : m'.IsUnambiguous := by
  have hids : ∀ id, id ∈ m'.ids → id ∈ m.ids := fun id hid => (hperm.map Prod.fst).subset hid
  intro id hid id' hid' f
  exact h id (hids id hid) id' (hids id' hid') f

end SeverityMap

namespace Settings

variable {s s' : Settings} {l : Linter} {f : Family}

theorem severityFor?_eq_none_iff :
    s.severityFor? f = none ↔ ∀ id ∈ s.rules.severity.ids, ¬ f.IsNamed id := by
  rw [severityFor?, Option.map_eq_none_iff, List.find?_eq_none]
  simp [SeverityMap.ids, Family.parse?_eq_some_iff]

/-- Where no two ids name one family, its severity is that of any id that names it. -/
theorem severityFor?_eq_some_iff (h : s.rules.severity.IsUnambiguous) {severity : Severity} :
    s.severityFor? f = some severity ↔
      ∃ e ∈ s.rules.severity.entries, f.IsNamed e.1 ∧ e.2 = severity := by
  unfold severityFor?
  constructor
  · intro hsome
    obtain ⟨e, he, rfl⟩ := Option.map_eq_some_iff.1 hsome
    have hname := List.find?_some he
    rw [beq_iff_eq, Family.parse?_eq_some_iff] at hname
    exact ⟨e, List.mem_of_find?_eq_some he, hname, rfl⟩
  · intro hentry
    obtain ⟨e, he, hname, rfl⟩ := hentry
    cases hfound : s.rules.severity.entries.find? (fun e => Family.parse? e.1 == some f) with
    | none =>
      have hmiss := List.find?_eq_none.1 hfound e he
      rw [beq_iff_eq, Family.parse?_eq_some_iff] at hmiss
      exact absurd hname hmiss
    | some e' =>
      have hname' := List.find?_some hfound
      rw [beq_iff_eq, Family.parse?_eq_some_iff] at hname'
      rw [h.entry_eq he (List.mem_of_find?_eq_some hfound) hname hname']
      rfl

/-- The order of the entries of an unambiguous map is not seen. -/
theorem severityFor?_perm (h : s.rules.severity.IsUnambiguous)
    (hperm : s'.rules.severity.entries.Perm s.rules.severity.entries) :
    s'.severityFor? f = s.severityFor? f := by
  apply Option.ext
  intro severity
  rw [severityFor?_eq_some_iff h, severityFor?_eq_some_iff (h.of_perm hperm)]
  simp only [hperm.mem_iff]

/-- The command line says nothing of severities. -/
theorem severityOf_merge {o : Overrides} (h : (s.merge o).linter = .ok l) (f : Family) :
    l.severityOf f = (s.severityFor? f).getD f.defaultSeverity :=
  (Setup.describes_settings h).severityOf f

end Settings

/-- Rules are chosen by meaning.  If the table is valid, the merged settings make a linter, which
runs the families that no id of the settings or of the command line names, in the order of all
families, and these are what the settings call enabled under any name.  A rephrased list of ids
chooses the same families, and a longer one chooses among these.  If no two ids of the severities
name the same family, a family has the severity of the id that names it, in whatever order the
severities stand, and its own one if there is none. -/
theorem rules_chosen_by_meaning (s : Settings) (o : Overrides) {table : RuleTable}
    (htable : RuleTable.compile (s.merge o).table = .ok table) :
    ∃ l, (s.merge o).linter = .ok l ∧ l.table = table ∧
      l.families = Family.all.filter (fun f =>
        (s.rules.disabled ++ o.disabled.getD []).all (fun id => Family.parse? id != some f)) ∧
      (∀ id, (s.merge o).isEnabled id = true ↔ ∃ f ∈ l.families, f.IsNamed id) ∧
      (∀ (s' : Settings) (o' : Overrides) (l' : Linter), (s'.merge o').linter = .ok l' →
        (Rephrased (s.rules.disabled ++ o.disabled.getD [])
          (s'.rules.disabled ++ o'.disabled.getD []) → l'.families = l.families) ∧
        (s.rules.disabled ++ o.disabled.getD [] ⊆ s'.rules.disabled ++ o'.disabled.getD [] →
          l'.families.Sublist l.families)) ∧
      (s.rules.severity.IsUnambiguous → ∀ f : Family,
        (∀ e ∈ s.rules.severity.entries, f.IsNamed e.1 → l.severityOf f = e.2) ∧
        ((∀ id ∈ s.rules.severity.ids, ¬ f.IsNamed id) → l.severityOf f = f.defaultSeverity) ∧
        ∀ (s' : Settings) (o' : Overrides) (l' : Linter), (s'.merge o').linter = .ok l' →
          s'.rules.severity.entries.Perm s.rules.severity.entries →
          l'.severityOf f = l.severityOf f) := by
  obtain ⟨l, hl, rfl⟩ := Settings.exists_linter htable
  refine ⟨l, hl, rfl, ?_, fun id => Settings.isEnabled_iff hl, ?_, ?_⟩
  · apply Settings.families_eq_filter hl
    intro f
    rw [Settings.mem_families_iff hl, List.all_eq_true]
    show _ ↔ ¬ ∃ id ∈ s.rules.disabled ++ o.disabled.getD [], f.IsNamed id
    simp only [bne_iff_ne, ne_eq, Family.parse?_eq_some_iff, not_exists, not_and]
  · intro s' o' l' hl'
    exact ⟨Settings.families_eq_of_rephrased hl hl',
      fun hsub => Settings.families_sublist hl hl' fun f hf => hf.mono hsub⟩
  · intro hclear f
    rw [Settings.severityOf_merge hl f]
    refine ⟨fun e he hf => ?_, fun hnone => ?_, fun s' o' l' hl' hperm => ?_⟩
    · rw [(Settings.severityFor?_eq_some_iff hclear).2 ⟨e, he, hf, rfl⟩]
      rfl
    · rw [Settings.severityFor?_eq_none_iff.2 hnone]
      rfl
    · rw [Settings.severityOf_merge hl', Settings.severityFor?_perm hclear hperm]

/-- Settings that disable a family by its short name and mention a family that does not exist. -/
def Settings.aliased : Settings :=
  { rules := { disabled := ["CASE", "hungarian"], severity := .ofList [("Brackets", .info)] } }

/-- The same two families, under other names and in another order. -/
theorem rephrased_aliased :
    Rephrased ["CASE", "hungarian", "Bracket-Match"] ["brackets", "BRACKETS", "casing"] := by
  have hunknown : ∀ f : Family, ¬ f.IsNamed "hungarian" := by
    intro f
    rw [← Family.parse?_eq_some_iff]
    cases f <;> decide +kernel
  have hcasing : Family.casing.IsNamed "CASE" ∧ Family.casing.IsNamed "casing" := by
    rw [← Family.parse?_eq_some_iff, ← Family.parse?_eq_some_iff]
    decide +kernel
  have hbrackets : Family.brackets.IsNamed "Bracket-Match" ∧ Family.brackets.IsNamed "BRACKETS" ∧
      Family.brackets.IsNamed "brackets" := by
    rw [← Family.parse?_eq_some_iff, ← Family.parse?_eq_some_iff, ← Family.parse?_eq_some_iff]
    decide +kernel
  have hknown : Rephrased ["CASE", "hungarian", "Bracket-Match"] ["CASE", "Bracket-Match"] :=
    .trans (.perm (List.Perm.swap _ _ _)) (.symm (.unknown hunknown))
  have hnames : Rephrased ["CASE", "Bracket-Match"] ["BRACKETS", "casing"] :=
    .trans (.renamed hcasing.1 hcasing.2)
      (.trans (.perm (List.Perm.swap _ _ _)) (.renamed hbrackets.1 hbrackets.2.1))
  have hagain : Rephrased ["BRACKETS", "casing"] ["brackets", "BRACKETS", "casing"] :=
    .trans (.repeated List.mem_cons_self) (.renamed hbrackets.2.1 hbrackets.2.2)
  exact .trans hknown (.trans hnames hagain)

theorem rules_chosen_by_meaning_aliased : ∃ l,
    (Settings.aliased.merge { disabled := some ["Bracket-Match"], maxLines := some 5 }).linter =
      .ok l ∧ l.families = [.spacing, .naming] ∧
    (∀ (s' : Settings) (l' : Linter), s'.rules.disabled = ["brackets", "BRACKETS"] →
      (s'.merge { disabled := some ["casing"] }).linter = .ok l' → l'.families = l.families) ∧
    l.severityOf .brackets = .info ∧ l.severityOf .casing = .warning := by
  obtain ⟨l, hl, -, hfamilies, -, hother, hseverity⟩ := rules_chosen_by_meaning Settings.aliased
    { disabled := some ["Bracket-Match"], maxLines := some 5 } (BuiltIn.compile_variant _ _)
  have hclear : Settings.aliased.rules.severity.IsUnambiguous := by
    intro id hid id' hid' f _ _
    exact (List.mem_singleton.1 hid).trans (List.mem_singleton.1 hid').symm
  have hnamed : Family.brackets.IsNamed "Brackets" := by
    rw [← Family.parse?_eq_some_iff]
    decide +kernel
  refine ⟨l, hl, hfamilies.trans (by decide +kernel), fun s' l' hids hl' => ?_, ?_, ?_⟩
  · apply (hother s' _ l' hl').1
    rw [hids]
    exact rephrased_aliased
  · exact (hseverity hclear .brackets).1 ("Brackets", .info) (by decide) hnamed
  · apply (hseverity hclear .casing).2.1
    intro id hid hname
    rw [List.mem_singleton.1 hid] at hname
    cases hname.unique hnamed

end ScopeLint
