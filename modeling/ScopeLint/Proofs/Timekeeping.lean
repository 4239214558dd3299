import ScopeLint.CommandLine.Run
import ScopeLint.Proofs.Independence
import ScopeLint.Proofs.Merging

/-!
# Times do not matter

The program takes the time of every family and of the whole run.  On a host whose files stay as they
are, what it makes of a list of files is the summary of these files but for the times, whatever the
clock shows and however the host changes between two readings of it.
-/

namespace ScopeLint

/-! ## Leaving out the times -/

def Timing.withoutTime (t : Timing) : Timing := { t with total := 0 }

theorem Timing.withoutTime_join (a b : Option Timing) :
    (join a b).map withoutTime = join (a.map withoutTime) (b.map withoutTime) := by
  cases a <;> cases b <;> rfl

namespace TimingMap

/-- All entries without their times. -/
def withoutTimes (m : TimingMap) : TimingMap where
  entries := m.entries.map (fun e => (e.1, e.2.withoutTime))
  sorted := List.pairwise_map.2 m.sorted

theorem get?_withoutTimes (m : TimingMap) (k : String) :
    m.withoutTimes.get? k = (m.get? k).map Timing.withoutTime := by
  change (m.entries.map _).lookup k = (m.entries.lookup k).map _
  induction m.entries with
  | nil => rfl
  | cons e rest ih =>
    rw [List.map_cons, lookup_cons, lookup_cons, ih]
    split <;> rfl

theorem withoutTimes_absorb (m : TimingMap) (key : String) (t : Timing) :
    (m.absorb key t).withoutTimes = m.withoutTimes.absorb key t.withoutTime := by
  apply ext_get?
  intro k
  rw [get?_withoutTimes, get?_absorb, get?_absorb, get?_withoutTimes, get?_withoutTimes]
  split
  · exact Timing.withoutTime_join _ _
  · rfl

/-- Times can be left out before a merge or behind it. -/
theorem withoutTimes_merge (a b : TimingMap) :
    (a.merge b).withoutTimes = a.withoutTimes.merge b.withoutTimes := by
  apply ext_get?
  intro k
  rw [get?_withoutTimes, get?_merge, get?_merge, get?_withoutTimes, get?_withoutTimes,
    Timing.withoutTime_join]

theorem withoutTimes_ofTimings (timings : List Timing) :
    (ofTimings timings).withoutTimes = ofTimings (timings.map Timing.withoutTime) := by
  have hfold : ∀ m : TimingMap, (timings.foldl (fun m t => m.absorb t.rule t) m).withoutTimes =
      (timings.map Timing.withoutTime).foldl (fun m t => m.absorb t.rule t) m.withoutTimes := by
    induction timings with
    | nil => exact fun _ => rfl
    | cons t timings ih =>
      intro m
      rw [List.foldl_cons, ih, withoutTimes_absorb]
      rfl
  exact hfold empty

end TimingMap

def Report.withoutTimes (r : Report) : Report :=
  { r with timings := r.timings.map Timing.withoutTime }

namespace Summary

variable {π : Type}

/-- The summary without its duration and the times of the rules. -/
def withoutTimes (s : Summary π) : Summary π :=
  { s with duration := 0, byRule := s.byRule.withoutTimes }

theorem withoutTimes_merge (a b : Summary π) :
    (a.merge b).withoutTimes = a.withoutTimes.merge b.withoutTimes := by
  simp only [withoutTimes, merge, TimingMap.withoutTimes_merge]

theorem withoutTimes_ofReport (path : π) (r : Report) :
    (ofReport path r).withoutTimes = ofReport path r.withoutTimes := by
  simp only [withoutTimes, ofReport, TimingMap.withoutTimes_ofTimings]
  rfl

end Summary

theorem Linter.withoutTimes_settle {π : Type} (path : π) (outcome : Except LintError Report) :
    (settle path outcome).withoutTimes = settle path (outcome.map Report.withoutTimes) := by
  cases outcome <;> exact Summary.withoutTimes_ofReport _ _

/-! ## Hosts with a clock -/

namespace Host

variable {σ : Type}

/-- The files of the host stay as they are, and it computes what it is asked to. -/
structure IsSteady (h : Host (StateM σ)) (read : String → Except ReadError String) : Prop where
  read_eq : ∀ path s, ((h.read path).run s).1 = read path
  compute_eq : ∀ {α : Type} (f : Unit → α) s, ((h.compute f).run s).1 = f ()

theorem fst_bind {α β : Type} (x : StateM σ α) (f : α → StateM σ β) (s : σ) :
    ((x >>= f).run s).1 = ((f (x.run s).1).run (x.run s).2).1 := rfl

/-- What a computation that may fail comes to from a state of the host. -/
def value {α : Type} (x : ExceptT LintError (StateM σ) α) (s : σ) : Except LintError α :=
  (x.run.run s).1

theorem value_bind {α β : Type} (x : ExceptT LintError (StateM σ) α)
    (f : α → ExceptT LintError (StateM σ) β) (s : σ) :
    value (x >>= f) s = value x s >>= fun a => value (f a) (x.run.run s).2 := by
  change ((ExceptT.bindCont f (x.run.run s).1).run (x.run.run s).2).1 = (x.run.run s).1 >>= _
  cases (x.run.run s).1 <;> rfl

theorem value_lift {α : Type} (x : StateM σ α) (s : σ) :
    value (x : ExceptT LintError (StateM σ) α) s = .ok (x.run s).1 := rfl

theorem value_mk {α : Type} (x : StateM σ (Except LintError α)) (s : σ) :
    value (ExceptT.mk x) s = (x.run s).1 := rfl

variable {h : Host (StateM σ)} {read : String → Except ReadError String}

/-- Measuring a family does not change what it comes to. -/
theorem value_timedOutcome (hh : h.IsSteady read) (l : Linter) (d : Document)
    (classifier : Classifier) (f : Family) (s : σ) :
    (value (h.timedOutcome l d classifier f) s).map Prod.fst =
      (do return (f, ← l.outcome d classifier f)) := by
  rw [timedOutcome, value_bind, value_lift]
  change (value _ _).map _ = _
  rw [value_bind, value_mk, hh.compute_eq]
  cases l.outcome d classifier f <;> rfl

/-- All families in turn, each from the state that the one before has left. -/
theorem value_timedOutcomes (hh : h.IsSteady read) (l : Linter) (d : Document)
    (classifier : Classifier) (fs : List Family) (s : σ) :
    (value (fs.mapM (h.timedOutcome l d classifier)) s).map (List.map Prod.fst) =
      fs.mapM (fun f => do return (f, ← l.outcome d classifier f)) := by
  induction fs generalizing s with
  | nil => rfl
  | cons f fs ih =>
    rw [List.mapM_cons, List.mapM_cons, value_bind, ← value_timedOutcome hh l d classifier f s]
    cases value (h.timedOutcome l d classifier f) s with
    | error e => rfl
    | ok timed =>
      change (value _ _).map _ = _
      rw [value_bind, ← ih ((h.timedOutcome l d classifier f).run.run s).2]
      cases value (fs.mapM (h.timedOutcome l d classifier)) _ <;> rfl

/-- But for times, a pass on a steady host ends with the report of the linter, whose entries have no
time of their own. -/
theorem value_lintText (hh : h.IsSteady read) (l : Linter) (text : String) (s : σ) :
    (value (h.lintText l text) s).map Report.withoutTimes = l.lintText text := by
  rw [lintText, value_bind, value_lift, hh.compute_eq]
  change (value _ _).map _ = _
  rw [value_bind, Linter.lintText, Linter.lint, ← value_timedOutcomes hh l _ _ l.families _]
  cases value (l.families.mapM (h.timedOutcome l _ _)) _ with
  | error e => rfl
  | ok timed =>
    refine congrArg Except.ok ?_
    simp only [Report.withoutTimes, Linter.reportOf, List.map_map]
    rfl

/-- But for times, a file on a steady host comes to the summary of what is read there. -/
theorem lintFile_withoutTimes (hh : h.IsSteady read) (l : Linter) (path : String) (s : σ) :
    ((h.lintFile l path).run s).1.1.withoutTimes = l.lintFile read path := by
  rw [lintFile, fst_bind, hh.read_eq, Linter.lintFile]
  cases read path with
  | error e => exact Summary.withoutTimes_ofReport path _
  | ok text =>
    change (Linter.settle path (value (h.lintText l text) _)).withoutTimes = _
    rw [Linter.withoutTimes_settle, value_lintText hh]

/-- One file after the other, with the warnings so far. -/
theorem foldlM_withoutTimes (hh : h.IsSteady read) (l : Linter) (paths : List String)
    (acc : Summary) (warnings : List String) (s : σ) :
    ((paths.foldlM (fun (acc, warnings) path => do
      let (next, more) ← h.lintFile l path
      return (acc.merge next, warnings ++ more)) ((acc, warnings) : Summary × List String) :
        StateM σ (Summary × List String)).run s).1.1.withoutTimes =
      acc.withoutTimes.merge (l.lintFiles read paths) := by
  induction paths generalizing acc warnings s with
  | nil => exact acc.withoutTimes.merge_empty.symm
  | cons path paths ih =>
    rw [List.foldlM_cons, Linter.lintFiles_cons, ← Summary.merge_assoc,
      ← lintFile_withoutTimes hh l path s, ← Summary.withoutTimes_merge]
    exact ih _ _ _

/-- But for times, so do any number of files, one after the other. -/
theorem lintFiles_withoutTimes (hh : h.IsSteady read) (l : Linter) (paths : List String) (s : σ) :
    ((h.lintFiles l paths).run s).1.1.withoutTimes = l.lintFiles read paths := by
  have hfold := foldlM_withoutTimes hh l paths {} [] (h.now.run s).2
  rw [lintFiles, fst_bind, fst_bind]
  exact hfold.trans (Linter.lintFiles_foldl l read paths {}).symm

end Host

/-- Summaries merge as lists do.  A merge is associative, the empty summary is neutral but for the
duration, which is that of the first, and the order of two summaries shows in the order of their
files only.  Linting two lists of files one after the other gives the merge of both, with one report
for each path, in order, the one that the file has alone.  So does a host that takes the time,
whatever the times are. -/
theorem summaries_merge {π : Type} :
    (∀ a b c : Summary π, (a.merge b).merge c = a.merge (b.merge c)) ∧
    (∀ a : Summary π, a.merge {} = a ∧ Summary.merge {} a = { a with duration := 0 }) ∧
    (∀ a b : Summary π, a.byRule.IsKeyed → b.byRule.IsKeyed →
      b.merge a = { a.merge b with files := b.files ++ a.files, duration := b.duration }) ∧
    (∀ (l : Linter) (read : π → Except ReadError String),
      (∀ a b, l.lintFiles read (a ++ b) = (l.lintFiles read a).merge (l.lintFiles read b)) ∧
      ∀ paths, List.Forall₂
        (fun path file => file.path = path ∧ (l.lintFile read path).files = [file]) paths
        (l.lintFiles read paths).files) ∧
    ∀ (σ : Type) (h : Host (StateM σ)) (read : String → Except ReadError String),
      h.IsSteady read → ∀ l : Linter,
        (∀ paths s, ((h.lintFiles l paths).run s).1.1.withoutTimes = l.lintFiles read paths) ∧
        ∀ a b s s₁ s₂, ((h.lintFiles l (a ++ b)).run s).1.1.withoutTimes =
          (((h.lintFiles l a).run s₁).1.1.merge ((h.lintFiles l b).run s₂).1.1).withoutTimes := by
  refine ⟨Summary.merge_assoc, fun a => ⟨a.merge_empty, a.empty_merge⟩,
    fun a b ha hb => Summary.merge_comm ha hb,
    fun l read => ⟨l.lintFiles_append read, l.files_lintFiles read⟩, fun σ h read hh l =>
    ⟨Host.lintFiles_withoutTimes hh l, fun a b s s₁ s₂ => ?_⟩⟩
  rw [Summary.withoutTimes_merge, Host.lintFiles_withoutTimes hh, Host.lintFiles_withoutTimes hh,
    Host.lintFiles_withoutTimes hh, l.lintFiles_append read]

/-- Files under names that need not be text: one with something for each family, one that is not
text itself, and no others. -/
def attic : List UInt8 → Except ReadError String
  | [255] => .ok "EOI=(\n$x"
  | [254] => .error .notText
  | _ => .error .notFound

/-- A host on which each look at the clock takes one nanosecond and each computation three. -/
def Host.ticking (read : String → Except ReadError String) : Host (StateM Nat) where
  read path := pure (read path)
  kind? _ := pure none
  children _ := pure (.ok [])
  home? := none
  depth := 0
  colored := false
  now := modifyGet (fun n => (n, n + 1))
  compute f := do
    modify (· + 3)
    return f ()

theorem Host.ticking_isSteady (read : String → Except ReadError String) :
    (ticking read).IsSteady read :=
  ⟨fun _ _ => rfl, fun _ _ => rfl⟩

/-- A file that is given twice, one that is not text and one that is not there; and a host that
lints two files at other times than it lints both. -/
theorem summaries_merge_attic :
    (∃ a b : Summary (List UInt8),
      a = Linter.standard.lintFiles attic [[255], [255]] ∧
      b = Linter.standard.lintFiles attic [[254], []] ∧
      a.timings.map (·.runs) = [2, 2, 2, 2] ∧
      b.merge a = { a.merge b with files := b.files ++ a.files, duration := b.duration } ∧
      Linter.standard.lintFiles attic [[255], [255], [254], []] = a.merge b) ∧
    ∃ a b c : Summary,
      a = (((Host.ticking fun _ => .ok "EOI").lintFiles Linter.standard ["x"]).run 0).1.1 ∧
      b = (((Host.ticking fun _ => .ok "EOI").lintFiles Linter.standard ["y"]).run 7).1.1 ∧
      c = (((Host.ticking fun _ => .ok "EOI").lintFiles Linter.standard ["x", "y"]).run 0).1.1 ∧
      a.timings.map (·.total) = [4, 4, 4, 4] ∧ a.duration ≠ c.duration ∧
      c.withoutTimes = (a.merge b).withoutTimes := by
  obtain ⟨-, -, hcomm, hlinted, -⟩ := @summaries_merge (List UInt8)
  obtain ⟨-, -, -, -, htimed⟩ := @summaries_merge String
  obtain ⟨happend, -⟩ := hlinted Linter.standard attic
  refine ⟨⟨_, _, rfl, rfl, ?_, hcomm _ _ ?_ ?_, happend [[255], [255]] [[254], []]⟩,
    _, _, _, rfl, rfl, rfl, ?_, ?_, ?_⟩
  · decide +kernel
  · decide +kernel
  · decide +kernel
  · decide +kernel
  · decide +kernel
  · exact (htimed Nat _ _ (Host.ticking_isSteady _) Linter.standard).2 ["x"] ["y"] 0 0 7

end ScopeLint
