import Mathlib.Data.List.Basic
import ScopeLint.Pattern.Weight

/-!
# How heavy the pattern of a word is

A character without regard to case is a set of few codes.  Its weight is at most a multiple of
their number: a code range falls into no more runs of byte sequences than it has codes, and each run
adds at most four states.  So the weight of a word is at most a multiple of its length.
-/

namespace ScopeLint.Text

namespace Ranges

def size : Ranges → Nat
  | [] => 0
  | range :: rest => range.2 + 1 - range.1 + size rest

/-- Every range holds a code. -/
def Filled (a : Ranges) : Prop := ∀ range ∈ a, range.1 ≤ range.2

theorem Filled.length_le {a : Ranges} (h : a.Filled) : a.length ≤ a.size := by
  induction a with
  | nil => exact Nat.le_refl 0
  | cons range rest ih =>
    have hrange := h range List.mem_cons_self
    have hrest := ih (fun r hr => h r (List.mem_cons_of_mem _ hr))
    rw [List.length_cons, size]
    omega

/-- Joining single codes counts none of them twice. -/
theorem joinFrom_codes (codes : List Nat) {lo hi : Nat} (h : lo ≤ hi) :
    (joinFrom lo hi (codes.map (fun n => (n, n)))).Filled ∧
      (joinFrom lo hi (codes.map (fun n => (n, n)))).size ≤ hi + 1 - lo + codes.length := by
  induction codes generalizing lo hi with
  | nil =>
    refine ⟨fun range hrange => ?_, Nat.le_refl _⟩
    obtain rfl := List.mem_singleton.1 hrange
    exact h
  | cons n codes ih =>
    rw [List.map_cons, joinFrom, List.length_cons]
    split
    case isTrue htouch =>
      have hmax : hi ≤ Nat.max hi n ∧ Nat.max hi n ≤ hi + 1 :=
        ⟨Nat.le_max_left _ _, Nat.max_le.2 ⟨Nat.le_succ hi, htouch⟩⟩
      obtain ⟨hfilled, hsize⟩ := ih (Nat.le_trans h hmax.1)
      exact ⟨hfilled, by omega⟩
    case isFalse =>
      obtain ⟨hfilled, hsize⟩ := ih (Nat.le_refl n)
      refine ⟨fun range hrange => ?_, ?_⟩
      · rcases List.mem_cons.1 hrange with rfl | hrange
        · exact h
        · exact hfilled range hrange
      · show hi + 1 - lo + size _ ≤ _
        omega

theorem ofCodes_size (codes : List Nat) :
    (ofCodes codes).Filled ∧ (ofCodes codes).size ≤ codes.length := by
  have hlength : (codes.mergeSort (· ≤ ·)).length = codes.length := List.length_mergeSort codes
  unfold ofCodes
  generalize codes.mergeSort _ = sorted at hlength
  cases sorted with
  | nil => exact ⟨fun range hrange => absurd hrange (List.not_mem_nil), Nat.zero_le _⟩
  | cons n sorted =>
    obtain ⟨hfilled, hsize⟩ := joinFrom_codes sorted (Nat.le_refl n)
    rw [List.length_cons] at hlength
    refine ⟨hfilled, ?_⟩
    show size (joinFrom n n _) ≤ _
    omega

end Ranges

/-! ## Runs of byte sequences -/

/-- A range is cut into at most as many as it has codes.  Where its ends lie in different blocks,
there is a first code of a block between them. -/
theorem length_cutRange_le (fuel : Nat) (sizes : List Nat) {lo hi : Nat} (h : lo ≤ hi) :
    (cutRange fuel sizes lo hi).length ≤ hi + 1 - lo := by
  induction fuel generalizing sizes lo hi with
  | zero =>
    show 1 ≤ _
    omega
  | succ fuel ih =>
    cases sizes with
    | nil =>
      show 1 ≤ _
      omega
    | cons size sizes =>
      rw [cutRange]
      split
      case isTrue => exact ih sizes h
      case isFalse hblocks =>
        have hpos : 0 < size := by
          apply Nat.pos_of_ne_zero
          rintro rfl
          rw [Nat.div_zero, Nat.div_zero] at hblocks
          exact hblocks rfl
        have hlt : lo / size < hi / size :=
          Nat.lt_of_le_of_ne (Nat.div_le_div_right h) hblocks
        have hlast : hi / size * size ≤ hi := Nat.div_mul_le_self hi size
        have hfirst : lo < (lo / size + 1) * size :=
          (Nat.div_lt_iff_lt_mul hpos).1 (Nat.lt_succ_self _)
        have hbetween : (lo / size + 1) * size ≤ hi / size * size := Nat.mul_le_mul_right _ hlt
        simp only
        split
        · have hrest := ih (size :: sizes) (Nat.le_trans hbetween hlast)
          rw [List.length_cons]
          omega
        · split
          · have hrest : (cutRange fuel (size :: sizes) lo (hi / size * size - 1)).length ≤ _ :=
              ih (size :: sizes) (by omega)
            rw [List.length_append, List.length_singleton]
            omega
          · exact ih sizes h

/-- The parts of a range in blocks that follow each other share no codes. -/
theorem size_clip_le {blocks : Ranges} (hblocks : blocks.Pairwise (fun a b => a.2 < b.1))
    (lo hi : Nat) : Ranges.Filled (blocks.filterMap (clip lo hi)) ∧
      Ranges.size (blocks.filterMap (clip lo hi)) ≤ hi + 1 - lo := by
  induction hblocks generalizing lo with
  | nil => exact ⟨fun range hrange => absurd hrange List.not_mem_nil, Nat.zero_le _⟩
  | @cons block blocks hbehind hblocks ih =>
    have hrest : blocks.filterMap (clip lo hi) =
        blocks.filterMap (clip (Nat.max lo (block.2 + 1)) hi) := by
      apply List.filterMap_congr
      intro next hnext
      have hmax : Nat.max (Nat.max lo (block.2 + 1)) next.1 = Nat.max lo next.1 :=
        (Nat.max_assoc lo (block.2 + 1) next.1).trans
          (congrArg (Nat.max lo) (Nat.max_eq_right (hbehind next hnext)))
      rw [clip, clip, hmax]
    obtain ⟨hfilled, hsize⟩ := ih (Nat.max lo (block.2 + 1))
    rw [← hrest] at hfilled hsize
    have hmax : lo ≤ Nat.max lo (block.2 + 1) ∧ block.2 + 1 ≤ Nat.max lo (block.2 + 1) :=
      ⟨Nat.le_max_left _ _, Nat.le_max_right _ _⟩
    rw [List.filterMap_cons, clip]
    split
    case h_1 => exact ⟨hfilled, by omega⟩
    case h_2 part hpart =>
      obtain ⟨hle, hpart⟩ := Option.ite_none_right_eq_some.1 hpart
      cases hpart
      refine ⟨fun range hrange => ?_, ?_⟩
      · rcases List.mem_cons.1 hrange with rfl | hrange
        · exact hle
        · exact hfilled range hrange
      · have hfirst : lo ≤ Nat.max lo block.1 := Nat.le_max_left _ _
        have hlast : Nat.min hi block.2 ≤ hi ∧ Nat.min hi block.2 ≤ block.2 :=
          ⟨Nat.min_le_left _ _, Nat.min_le_right _ _⟩
        show Nat.min hi block.2 + 1 - Nat.max lo block.1 + Ranges.size _ ≤ _
        omega

theorem length_utf8Bytes_le (n : Nat) : (utf8Bytes n).length ≤ 4 := by
  unfold utf8Bytes
  split
  · exact (by decide : 1 ≤ 4)
  · split
    · exact (by decide : 2 ≤ 4)
    · split
      · exact (by decide : 3 ≤ 4)
      · exact Nat.le_refl 4

/-- A code range falls into at most as many runs as it has codes. -/
theorem length_runsOfRange_le (range : Nat × Nat) :
    (runsOfRange range).length ≤ range.2 + 1 - range.1 := by
  obtain ⟨hfilled, hsize⟩ := size_clip_le (by decide : utf8Blocks.Pairwise _) range.1 range.2
  refine Nat.le_trans ?_ hsize
  unfold runsOfRange
  generalize utf8Blocks.filterMap _ = parts at hfilled
  induction parts with
  | nil => exact Nat.le_refl 0
  | cons part parts ih =>
    have hpart := hfilled part List.mem_cons_self
    have hrest := ih (fun r hr => hfilled r (List.mem_cons_of_mem _ hr))
    have hfirst : (if part.2 < 0x80 then [(part.1, part.2)]
        else cutRange 12 [0x40, 0x1000, 0x40000] part.1 part.2).length ≤ part.2 + 1 - part.1 := by
      split
      · show 1 ≤ _
        omega
      · exact length_cutRange_le _ _ hpart
    rw [List.flatMap_cons, List.length_append, List.length_map, Ranges.size]
    omega

theorem length_run_le {range : Nat × Nat} {run : ByteRun} (h : run ∈ runsOfRange range) :
    run.length ≤ 4 := by
  unfold runsOfRange at h
  obtain ⟨part, -, h⟩ := List.mem_flatMap.1 h
  obtain ⟨ends, -, rfl⟩ := List.mem_map.1 h
  rw [List.length_zip]
  exact Nat.le_trans (Nat.min_le_left _ _) (length_utf8Bytes_le _)

theorem length_utf8Runs_le (a : Ranges) : (utf8Runs a).length ≤ a.size := by
  induction a with
  | nil => exact Nat.le_refl 0
  | cons range rest ih =>
    have hrange := length_runsOfRange_le range
    rw [utf8Runs, List.flatMap_cons, List.length_append, Ranges.size]
    exact Nat.add_le_add hrange ih

/-! ## Characters up to case -/

/-- Up to case a character equals at most one character of each run of the table, and itself. -/
theorem length_foldClass_le (c : Char) : (foldClass c).length ≤ 211 := by
  have hruns : foldRuns.length = 210 := by decide +kernel
  unfold foldClass
  refine Nat.le_trans (List.length_filter_le _ _) ?_
  rw [List.length_cons, List.length_map]
  have hle := List.length_filter_le
    (fun r : CaseRun => r.covers (r.source (foldChar c).toNat)) foldRuns
  omega

end ScopeLint.Text

namespace ScopeLint.Pattern

/-- A run has at most four bytes, so it adds at most four states. -/
theorem treeWeight_le {runs : List Text.ByteRun} (h : ∀ run ∈ runs, run.length ≤ 4)
    (before : Text.ByteRun) : treeWeight before runs ≤ 132 * runs.length := by
  induction runs generalizing before with
  | nil => exact Nat.zero_le _
  | cons run runs ih =>
    have hrun := h run List.mem_cons_self
    have hrest := ih (fun r hr => h r (List.mem_cons_of_mem _ hr)) run
    rw [treeWeight, stateWeight, List.length_cons]
    omega

theorem weightOfCodes_le {codes : Text.Ranges} (h : codes.Filled) :
    weightOfCodes codes ≤ 132 * codes.size + 64 := by
  have htree : treeWeight [] (Text.utf8Runs codes) ≤ 132 * codes.size := by
    refine Nat.le_trans (treeWeight_le (fun run hrun => ?_) []) ?_
    · obtain ⟨range, -, hrun⟩ := List.mem_flatMap.1 hrun
      exact Text.length_run_le hrun
    · exact Nat.mul_le_mul_left _ (Text.length_utf8Runs_le codes)
  have hlength := h.length_le
  unfold weightOfCodes
  split
  case h_1 lo hi =>
    have hone : 1 ≤ Text.Ranges.size [(lo, hi)] := hlength
    have hbytes := Text.length_utf8Bytes_le lo
    simp only [stateWeight]
    split
    · omega
    · split
      · omega
      · omega
  case h_2 =>
    simp only [stateWeight]
    split <;> omega

theorem weight_alike_le (c : Char) : weightOfCodes (CharSet.alike c).codes ≤ 28000 := by
  obtain ⟨hfilled, hsize⟩ := Text.Ranges.ofCodes_size ((Text.foldClass c).map Char.toNat)
  have hweight := weightOfCodes_le hfilled
  have hclass := Text.length_foldClass_le c
  rw [List.length_map] at hsize
  show weightOfCodes (Text.Ranges.ofCodes ((Text.foldClass c).map Char.toNat)) ≤ 28000
  omega

/-- The weight of a word grows with its length at most. -/
theorem weight_word_le (cs : List Char) {role : Role} (hrole : role ≠ .branch) :
    (Node.sequence (cs.map (fun c => .char (.alike c)))).weight role ≤ 28000 * cs.length + 32 := by
  have hjoint : ∀ role : Role, role ≠ .branch → role.joint = 0 := by
    intro role hrole
    cases role
    case branch => exact absurd rfl hrole
    all_goals rfl
  induction cs generalizing role with
  | nil =>
    show (if role = .part then 0 else role.joint + stateWeight) ≤ 32
    rw [hjoint role hrole, stateWeight]
    split <;> omega
  | cons c cs ih =>
    have hc := weight_alike_le c
    cases cs with
    | nil =>
      show role.joint + weightOfCodes (CharSet.alike c).codes ≤ 28000 + 32
      rw [hjoint role hrole]
      omega
    | cons d cs =>
      have hrest := @ih .part (by decide)
      show role.joint + (Role.part.joint + weightOfCodes (CharSet.alike c).codes) +
        (Node.sequence ((d :: cs).map (fun c => .char (.alike c)))).weight .part ≤ _
      rw [hjoint role hrole, hjoint .part (by decide), List.length_cons]
      omega

end ScopeLint.Pattern
