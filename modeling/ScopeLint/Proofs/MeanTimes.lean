import Mathlib.Algebra.GroupWithZero.Nat
import ScopeLint.Output.Timings
import ScopeLint.Proofs.Merging

/-!
# Mean times

A summary adds up the times and the runs of each rule over all reports that it is made of.  The mean
time of a run is the whole quotient of the two sums as long as there are fewer than 2^32 runs.
Beyond that it is the remainder of their number modulo 2^32 that is divided by.  So the mean is too
long there, or, where the remainder is zero, there is no mean and no table of timings either.
-/

namespace ScopeLint

/-! ## Means -/

/-- Divided by a number at least twice as large, a total has the same quotient only if it is
zero. -/
theorem div_eq_div_iff_lt {total small large : Nat} (hpos : 0 < small) (h : 2 * small ≤ large) :
    total / small = total / large ↔ total < small := by
  constructor
  · intro heq
    apply Nat.lt_of_not_le
    intro hle
    have hquotient : 0 < total / small := Nat.div_pos hle hpos
    have hhalf : total / large ≤ total / small / 2 := by
      rw [Nat.div_div_eq_div_mul]
      exact Nat.div_le_div_left (by omega) (by omega)
    omega
  · intro hlt
    rw [Nat.div_eq_of_lt hlt, Nat.div_eq_of_lt (by omega)]

namespace Timing

/-- There is no mean where the runs come to zero in 32 bits, though there are some. -/
theorem average?_eq_none_iff {t : Timing} :
    t.average? = none ↔ 0 < t.runs ∧ t.runs % 2 ^ 32 = 0 := by
  unfold average?
  split
  case isTrue h => simp [h]
  case isFalse h =>
    split
    case h_1 hzero => exact iff_of_true rfl ⟨by omega, hzero⟩
    case h_2 runs hsucc => exact iff_of_false (by simp) (by omega)

theorem average?_of_runs {t : Timing} (h : t.runs % 2 ^ 32 ≠ 0) :
    t.average? = some (t.total / (t.runs % 2 ^ 32)) := by
  unfold average?
  rw [if_neg (by omega)]
  split
  case h_1 hzero => exact absurd hzero h
  case h_2 runs hsucc => rw [show t.runs % 2 ^ 32 = runs + 1 from hsucc]

/-- The mean is right where the number of runs is its own remainder, and where the total is so short
that the quotient is zero either way. -/
theorem average?_exact_iff {t : Timing} (h : 0 < t.runs) :
    t.average? = some (t.total / t.runs) ↔ t.runs < 2 ^ 32 ∨ t.total < t.runs % 2 ^ 32 := by
  by_cases hlimit : t.runs < 2 ^ 32
  · have hmod := Nat.mod_eq_of_lt hlimit
    rw [average?_of_runs (by omega), hmod]
    exact iff_of_true rfl (.inl hlimit)
  by_cases hzero : t.runs % 2 ^ 32 = 0
  · rw [average?_eq_none_iff.2 ⟨h, hzero⟩, hzero]
    exact iff_of_false (by simp) (by omega)
  · rw [average?_of_runs hzero, Option.some_inj,
      div_eq_div_iff_lt (Nat.pos_of_ne_zero hzero) (by omega)]
    exact (or_iff_right hlimit).symm

end Timing

/-! ## The table -/

theorem mapM_eq_none_iff {α β : Type} {f : α → Option β} {xs : List α} :
    xs.mapM f = none ↔ ∃ x ∈ xs, f x = none := by
  induction xs with
  | nil => simp
  | cons x xs ih =>
    rw [List.mapM_cons, List.exists_mem_cons_iff, ← ih]
    cases f x with
    | none => simp
    | some y => cases xs.mapM f <;> simp

namespace TimingTable

theorem row_eq_none_iff {t : Timing} : row t = none ↔ t.average? = none := by
  unfold row
  cases t.average? <;> simp

/-- There is no table of statistics where one of its rows has no mean. -/
theorem format_eq_none_iff {s : Summary} :
    format s = none ↔ ∃ t ∈ s.timings, 0 < t.runs ∧ t.runs % 2 ^ 32 = 0 := by
  have hrows : s.sortedTimings.mapM row = none ↔
      ∃ t ∈ s.timings, 0 < t.runs ∧ t.runs % 2 ^ 32 = 0 := by
    rw [mapM_eq_none_iff]
    simp only [Summary.sortedTimings, List.mem_mergeSort, row_eq_none_iff,
      Timing.average?_eq_none_iff]
  rw [← hrows, format]
  split
  case h_1 hnil => rw [hnil]; simp
  case h_2 => cases s.sortedTimings.mapM row <;> simp

end TimingTable

/-! ## Sums over reports -/

namespace TimingMap

/-- What the timing of a rule says of some amount, 0 where there is none. -/
def amountOf (m : TimingMap) (amount : Timing → Nat) (rule : String) : Nat :=
  ((m.get? rule).map amount).getD 0

section

variable {amount : Timing → Nat} (hadd : ∀ s t : Timing, amount (s.absorb t) = amount s + amount t)
include hadd

theorem amountOf_join (a b : Option Timing) :
    ((Timing.join a b).map amount).getD 0 = (a.map amount).getD 0 + (b.map amount).getD 0 := by
  cases a <;> cases b <;> simp [Timing.join, hadd]

theorem amountOf_merge (a b : TimingMap) (rule : String) :
    (a.merge b).amountOf amount rule = a.amountOf amount rule + b.amountOf amount rule := by
  rw [amountOf, get?_merge, amountOf_join hadd, amountOf, amountOf]

theorem amountOf_foldl (records : List Timing) (m : TimingMap) (rule : String) :
    (records.foldl (fun m t => m.absorb t.rule t) m).amountOf amount rule =
      m.amountOf amount rule + ((records.filter (·.rule == rule)).map amount).sum := by
  induction records generalizing m with
  | nil => rfl
  | cons t records ih =>
    rw [List.foldl_cons, ih, List.filter_cons, amountOf, get?_absorb]
    by_cases h : t.rule = rule
    · rw [if_pos h.symm, h, amountOf_join hadd, if_pos (beq_self_eq_true rule), List.map_cons,
        List.sum_cons, ← Nat.add_assoc]
      rfl
    · rw [if_neg (Ne.symm h), if_neg (by simpa using h)]
      rfl

end

end TimingMap

namespace Summary

variable {π : Type}

/-- The summary is made of reports by merges, and these are the records of all their timings. -/
inductive MadeOf : Summary π → List Timing → Prop
  | empty : MadeOf {} []
  | report (path : π) (r : Report) : MadeOf (.ofReport path r) r.timings
  | merge {a b : Summary π} {xs ys : List Timing} :
    MadeOf a xs → MadeOf b ys → MadeOf (a.merge b) (xs ++ ys)

namespace MadeOf

variable {s : Summary π} {records : List Timing}

theorem isKeyed (h : s.MadeOf records) : s.byRule.IsKeyed := by
  induction h with
  | empty => exact TimingMap.isKeyed_empty
  | report path r => exact TimingMap.isKeyed_ofTimings r.timings
  | merge _ _ iha ihb => exact iha.merge ihb

/-- What the timing of a rule says of an amount that adds up is the sum over the records of that
rule. -/
theorem amountOf_eq (h : s.MadeOf records) {amount : Timing → Nat}
    (hadd : ∀ s t : Timing, amount (s.absorb t) = amount s + amount t) (rule : String) :
    s.byRule.amountOf amount rule = ((records.filter (·.rule == rule)).map amount).sum := by
  induction h with
  | empty => rfl
  | report path r =>
    refine (TimingMap.amountOf_foldl hadd r.timings .empty rule).trans ?_
    rw [TimingMap.amountOf, TimingMap.get?_empty]
    exact Nat.zero_add _
  | merge _ _ iha ihb =>
    rw [Summary.merge, TimingMap.amountOf_merge hadd, iha, ihb, List.filter_append,
      List.map_append, List.sum_append]

/-- The timing of a rule says as much as all records of that rule together. -/
theorem amount_eq (h : s.MadeOf records) {amount : Timing → Nat}
    (hadd : ∀ s t : Timing, amount (s.absorb t) = amount s + amount t) {t : Timing}
    (ht : t ∈ s.timings) :
    amount t = ((records.filter (·.rule == t.rule)).map amount).sum := by
  obtain ⟨⟨key, t⟩, hentry, rfl⟩ := List.mem_map.1 ht
  obtain rfl : key = t.rule := h.isKeyed _ hentry
  rw [← h.amountOf_eq hadd, TimingMap.amountOf, (TimingMap.mem_entries_iff _ _ _).1 hentry]
  rfl

end MadeOf

end Summary

/-- Mean times are right below 2^32 runs.  In a summary made of any reports by any merges, the
timing of a rule has the times and runs of all its records.  Its mean is the whole quotient of both
exactly if there are fewer than 2^32 runs, or so short a time that the quotient is zero with the
remainder of their number modulo 2^32 as well.  There is no table of timings exactly if that
remainder is zero for some rule that has run. -/
theorem mean_times_exact_iff {s : Summary} {records : List Timing} (h : s.MadeOf records) :
    (TimingTable.format s = none ↔ ∃ t ∈ s.timings, 0 < t.runs ∧ t.runs % 2 ^ 32 = 0) ∧
    ∀ t ∈ s.timings,
      t.total = ((records.filter (·.rule == t.rule)).map (·.total)).sum ∧
      t.runs = ((records.filter (·.rule == t.rule)).map (·.runs)).sum ∧
      (0 < t.runs →
        (t.average? = some (t.total / t.runs) ↔ t.runs < 2 ^ 32 ∨ t.total < t.runs % 2 ^ 32)) :=
  ⟨TimingTable.format_eq_none_iff, fun _ ht => ⟨h.amount_eq (fun _ _ => rfl) ht,
    h.amount_eq (fun _ _ => rfl) ht, Timing.average?_exact_iff⟩⟩

/-- Two files: one rule comes to 2^32 runs in both together, and another to one more in the
second. -/
def Summary.worn : Summary :=
  merge (.ofReport "a" { diagnostics := [], timings := [⟨"casing", 5, 2147483648, 0, 0⟩] })
    (.ofReport "b" { diagnostics := [], timings :=
      [⟨"casing", 7, 2147483648, 0, 0⟩, ⟨"spacing", 4294967297, 4294967297, 0, 0⟩] })

/-- There is no mean of the one rule, so there is no table, and the mean of the other is wrong. -/
theorem mean_times_exact_iff_worn :
    (∃ records, Summary.worn.MadeOf records) ∧ TimingTable.format .worn = none ∧
      ∃ t ∈ Summary.worn.timings, t.rule = "spacing" ∧ 0 < t.runs ∧
        t.average? ≠ some (t.total / t.runs) := by
  have hmade : Summary.worn.MadeOf _ := .merge (.report "a" _) (.report "b" _)
  obtain ⟨htable, hmeans⟩ := mean_times_exact_iff hmade
  have hspacing : ⟨"spacing", 4294967297, 4294967297, 0, 0⟩ ∈ Summary.worn.timings := by
    decide +kernel
  refine ⟨⟨_, hmade⟩, htable.2 ⟨⟨"casing", 12, 4294967296, 0, 0⟩, by decide +kernel, ?_⟩,
    _, hspacing, rfl, by decide, fun hmean => ?_⟩
  · decide
  · have hshort := ((hmeans _ hspacing).2.2 (by decide)).1 hmean
    exact absurd hshort (by decide)

end ScopeLint
