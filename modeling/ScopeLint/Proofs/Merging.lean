import Mathlib.Data.List.Basic
import ScopeLint.Summary

/-!
# Merging summaries

What a map of timings keeps under a key after a merge depends on what both maps keep under that key
and on nothing else.  Maps that keep the same under all keys are equal, so the laws of a merge are
laws of the addition of single entries: it is associative, the empty summary changes nothing, and
the order of the two summaries shows in the order of the files only.  Linting a list of files is
then a merge over its parts.
-/

namespace ScopeLint

/-! ## Entries of one key -/

namespace Timing

@[simp] theorem absorb_new (t : Timing) : absorb { rule := t.rule } t = t := by
  simp [absorb]

/-- What is kept under a key once what another map keeps there is added. -/
def join : Option Timing → Option Timing → Option Timing
  | kept, none => kept
  | none, some t => some t
  | some kept, some t => some (kept.absorb t)

@[simp] theorem none_join (t : Option Timing) : join none t = t := by cases t <;> rfl

theorem join_assoc (a b c : Option Timing) : join (join a b) c = join a (join b c) := by
  cases a <;> cases b <;> cases c <;> simp [join, absorb, Nat.add_assoc]

/-- Entries of one rule can be added in either order. -/
theorem join_comm {a b : Option Timing} (h : ∀ s ∈ a, ∀ t ∈ b, s.rule = t.rule) :
    join a b = join b a := by
  cases a with
  | none => cases b <;> rfl
  | some s =>
    cases b with
    | none => rfl
    | some t =>
      have hrule := h s rfl t rfl
      simp [join, absorb, hrule, Nat.add_comm]

end Timing

/-! ## Maps by what they keep -/

namespace TimingMap

def get? (m : TimingMap) (key : String) : Option Timing := m.entries.lookup key

/-- A key below all others is not there. -/
theorem lookup_eq_none_of_lt {key : String} {entries : List (String × Timing)}
    (h : ∀ e ∈ entries, key < e.1) : entries.lookup key = none := by
  rw [List.lookup_eq_none_iff]
  intro e he
  rw [bne_iff_ne]
  rintro rfl
  exact String.lt_irrefl _ (h e he)

theorem lookup_cons (key : String) (e : String × Timing) (entries : List (String × Timing)) :
    (e :: entries).lookup key = if key = e.1 then some e.2 else entries.lookup key := by
  rw [List.lookup_cons]
  by_cases hkey : key = e.1
  · rw [if_pos hkey, beq_iff_eq.2 hkey]
  · rw [if_neg hkey, beq_eq_false_iff_ne.2 hkey]

/-- Adding a timing changes what is kept under its key and nothing else.  The keys are in order, so
behind the place of a new key all keys are other ones. -/
theorem lookup_absorbAt (key : String) (t : Timing) {entries : List (String × Timing)}
    (h : entries.Pairwise (fun a b => a.1 < b.1)) (k : String) :
    (absorbAt key t entries).lookup k =
      if k = key then Timing.join (entries.lookup key) (some t) else entries.lookup k := by
  induction entries with
  | nil =>
    rw [absorbAt, lookup_cons, Timing.absorb_new]
    rfl
  | cons first rest ih =>
    obtain ⟨hfirst, hrest⟩ := List.pairwise_cons.1 h
    rw [absorbAt]
    split
    case isTrue hkey =>
      rw [lookup_cons, lookup_cons, lookup_cons, if_pos hkey, hkey]
      split <;> rfl
    case isFalse hne =>
      split
      case isTrue hlt =>
        have hnew : (first :: rest).lookup key = none := by
          apply lookup_eq_none_of_lt
          intro e he
          rcases List.mem_cons.1 he with rfl | he
          · exact hlt
          · exact String.lt_trans hlt (hfirst e he)
        rw [lookup_cons, hnew, Timing.none_join, Timing.absorb_new]
      case isFalse =>
        rw [lookup_cons, ih hrest, lookup_cons, lookup_cons, if_neg hne]
        by_cases hk : k = first.1
        · have hne' : ¬ k = key := fun heq => hne (heq.symm.trans hk)
          rw [if_pos hk, if_neg hne', if_pos hk]
        · rw [if_neg hk, if_neg hk]

theorem get?_absorb (m : TimingMap) (key : String) (t : Timing) (k : String) :
    (m.absorb key t).get? k =
      if k = key then Timing.join (m.get? key) (some t) else m.get? k :=
  lookup_absorbAt key t m.sorted k

/-- Adding the entries of a map one by one joins what the two keep under each key, where a key
stands in no later entry. -/
theorem get?_foldl_absorb {entries : List (String × Timing)}
    (h : entries.Pairwise (fun a b => a.1 < b.1)) (m : TimingMap) (k : String) :
    (entries.foldl (fun m e => m.absorb e.1 e.2) m).get? k =
      Timing.join (m.get? k) (entries.lookup k) := by
  induction entries generalizing m with
  | nil => rfl
  | cons e rest ih =>
    obtain ⟨hfirst, hrest⟩ := List.pairwise_cons.1 h
    rw [List.foldl_cons, ih hrest, get?_absorb, lookup_cons]
    by_cases hk : k = e.1
    · subst hk
      rw [if_pos rfl, if_pos rfl, lookup_eq_none_of_lt hfirst]
      rfl
    · rw [if_neg hk, if_neg hk]

/-- A merged map keeps under each key what the two keep there, joined. -/
theorem get?_merge (a b : TimingMap) (k : String) :
    (a.merge b).get? k = Timing.join (a.get? k) (b.get? k) :=
  get?_foldl_absorb b.sorted a k

@[simp] theorem get?_empty (k : String) : empty.get? k = none := rfl

theorem mem_entries_iff (m : TimingMap) (key : String) (t : Timing) :
    (key, t) ∈ m.entries ↔ m.get? key = some t := by
  obtain ⟨entries, hsorted⟩ := m
  change (key, t) ∈ entries ↔ entries.lookup key = some t
  induction entries with
  | nil => exact ⟨fun h => (nomatch h), fun h => (nomatch h)⟩
  | cons first rest ih =>
    obtain ⟨hfirst, hrest⟩ := List.pairwise_cons.1 hsorted
    rw [List.mem_cons, lookup_cons, ih hrest]
    by_cases hkey : key = first.1
    · subst hkey
      rw [if_pos rfl, lookup_eq_none_of_lt hfirst, Option.some_inj]
      constructor
      · rintro (heq | hnone)
        · rw [← heq]
        · cases hnone
      · rintro rfl
        exact .inl rfl
    · rw [if_neg hkey]
      exact or_iff_right fun heq => hkey (congrArg Prod.fst heq)

/-- A map is determined by what it keeps under its keys. -/
theorem ext_get? {a b : TimingMap} (h : ∀ k, a.get? k = b.get? k) : a = b := by
  have hmem : ∀ e, e ∈ a.entries ↔ e ∈ b.entries := by
    rintro ⟨key, t⟩
    rw [mem_entries_iff, mem_entries_iff, h]
  have hnodup : ∀ m : TimingMap, m.entries.Nodup := by
    intro m
    refine m.sorted.imp ?_
    rintro e _ hlt rfl
    exact String.lt_irrefl _ hlt
  have hentries : a.entries = b.entries :=
    ((List.perm_ext_iff_of_nodup (hnodup a) (hnodup b)).2 hmem).eq_of_pairwise
      (fun e e' _ _ hlt hgt => absurd (String.lt_trans hlt hgt) (String.lt_irrefl _))
      a.sorted b.sorted
  cases a
  cases b
  cases hentries
  rfl

theorem merge_assoc (a b c : TimingMap) : (a.merge b).merge c = a.merge (b.merge c) :=
  ext_get? fun k => by simp only [get?_merge, Timing.join_assoc]

theorem merge_empty (a : TimingMap) : a.merge empty = a := rfl

theorem empty_merge (a : TimingMap) : empty.merge a = a :=
  ext_get? fun k => by rw [get?_merge, get?_empty, Timing.none_join]

/-- Is each entry kept under its own rule? -/
def IsKeyed (m : TimingMap) : Prop := ∀ e ∈ m.entries, e.1 = e.2.rule

instance : DecidablePred IsKeyed :=
  fun m => inferInstanceAs (Decidable (∀ e ∈ m.entries, e.1 = e.2.rule))

theorem isKeyed_iff {m : TimingMap} :
    m.IsKeyed ↔ ∀ key t, m.get? key = some t → key = t.rule := by
  simp only [← mem_entries_iff]
  exact ⟨fun h key t he => h (key, t) he, fun h e he => h e.1 e.2 he⟩

/-- Maps that keep each entry under its own rule can be merged in either order. -/
theorem merge_comm {a b : TimingMap} (ha : a.IsKeyed) (hb : b.IsKeyed) :
    a.merge b = b.merge a := by
  apply ext_get?
  intro k
  rw [get?_merge, get?_merge]
  apply Timing.join_comm
  intro s hs t ht
  exact (isKeyed_iff.1 ha k s hs).symm.trans (isKeyed_iff.1 hb k t ht)

theorem IsKeyed.absorb {m : TimingMap} (h : m.IsKeyed) {key : String} {t : Timing}
    (hkey : key = t.rule) : (m.absorb key t).IsKeyed := by
  rw [isKeyed_iff] at h ⊢
  intro k s hs
  rw [get?_absorb] at hs
  split at hs
  case isTrue hk =>
    subst hk
    cases hkept : m.get? k with
    | none =>
      rw [hkept] at hs
      cases hs
      exact hkey
    | some kept =>
      rw [hkept] at hs
      cases hs
      exact h k kept hkept
  case isFalse => exact h k s hs

theorem IsKeyed.foldl_absorb {α : Type} {key : α → String} {entry : α → Timing} {xs : List α}
    (hkey : ∀ x ∈ xs, key x = (entry x).rule) {m : TimingMap} (h : m.IsKeyed) :
    (xs.foldl (fun m x => m.absorb (key x) (entry x)) m).IsKeyed := by
  induction xs generalizing m with
  | nil => exact h
  | cons x xs ih =>
    exact ih (fun y hy => hkey y (List.mem_cons_of_mem x hy)) (h.absorb (hkey x List.mem_cons_self))

theorem isKeyed_empty : empty.IsKeyed := fun _ he => nomatch he

theorem IsKeyed.merge {a b : TimingMap} (ha : a.IsKeyed) (hb : b.IsKeyed) : (a.merge b).IsKeyed :=
  ha.foldl_absorb hb

theorem isKeyed_ofTimings (timings : List Timing) : (ofTimings timings).IsKeyed :=
  isKeyed_empty.foldl_absorb (fun _ _ => rfl)

end TimingMap

/-! ## Summaries -/

namespace Summary

variable {π : Type}

theorem merge_assoc (a b c : Summary π) : (a.merge b).merge c = a.merge (b.merge c) := by
  simp only [merge, List.append_assoc, Nat.add_assoc, TimingMap.merge_assoc]

theorem merge_empty (a : Summary π) : a.merge {} = a := by
  simp only [merge, List.append_nil, Nat.add_zero, TimingMap.merge_empty]

theorem empty_merge (a : Summary π) : merge {} a = { a with duration := 0 } := by
  simp only [merge, List.nil_append, Nat.zero_add, TimingMap.empty_merge]

theorem merge_comm {a b : Summary π} (ha : a.byRule.IsKeyed) (hb : b.byRule.IsKeyed) :
    b.merge a = { a.merge b with files := b.files ++ a.files, duration := b.duration } := by
  simp only [merge, Nat.add_comm, TimingMap.merge_comm ha hb]

end Summary

/-! ## Files -/

namespace Linter

variable {π : Type} (l : Linter) (read : π → Except ReadError String)

/-- What is kept of a file: its report, or that it cannot be read or linted. -/
theorem lintFile_cases (path : π) : ∃ report, l.lintFile read path = .ofReport path report ∧
    ((∃ text, l.lintText text = .ok report) ∨
      ∃ rule ∈ [failedRule, unreadableRule], ∃ message, report = failure rule message) := by
  rw [lintFile]
  cases read path with
  | error e => exact ⟨_, rfl, .inr ⟨unreadableRule, by decide, _, rfl⟩⟩
  | ok text =>
    change ∃ report, settle path (l.lintText text) = _ ∧ _
    cases hreport : l.lintText text with
    | error e => exact ⟨_, rfl, .inr ⟨failedRule, by decide, _, rfl⟩⟩
    | ok report => exact ⟨report, rfl, .inl ⟨text, hreport⟩⟩

theorem lintFiles_foldl (paths : List π) (s : Summary π) :
    paths.foldl (fun acc path => acc.merge (l.lintFile read path)) s =
      s.merge (l.lintFiles read paths) := by
  induction paths generalizing s with
  | nil => exact s.merge_empty.symm
  | cons path paths ih =>
    rw [lintFiles, List.foldl_cons, List.foldl_cons, ih, ih, ← Summary.merge_assoc,
      ← Summary.merge_assoc, Summary.merge_empty]

/-- Linting two lists of files one after the other is linting them together. -/
theorem lintFiles_append (a b : List π) :
    l.lintFiles read (a ++ b) = (l.lintFiles read a).merge (l.lintFiles read b) := by
  rw [lintFiles, List.foldl_append, lintFiles_foldl]
  rfl

theorem lintFiles_cons (path : π) (paths : List π) :
    l.lintFiles read (path :: paths) = (l.lintFile read path).merge (l.lintFiles read paths) := by
  obtain ⟨report, hreport, -⟩ := l.lintFile_cases read path
  rw [lintFiles, List.foldl_cons, lintFiles_foldl, hreport, Summary.empty_merge]
  rfl

/-- One report for each path, the one that the file has when it is linted alone. -/
theorem files_lintFiles (paths : List π) :
    List.Forall₂ (fun path file => file.path = path ∧ (l.lintFile read path).files = [file]) paths
      (l.lintFiles read paths).files := by
  induction paths with
  | nil => exact .nil
  | cons path paths ih =>
    obtain ⟨report, hreport, -⟩ := l.lintFile_cases read path
    rw [lintFiles_cons, hreport]
    exact .cons ⟨rfl, by rw [hreport]; rfl⟩ ih

end Linter

end ScopeLint
