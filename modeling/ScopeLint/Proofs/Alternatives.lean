import ScopeLint.Proofs.Matching

/-!
# Alternatives and groups

Of two alternatives the first is taken wherever it matches alone, and the second elsewhere, with the
same match as alone.  A group matches what its contents match.  This holds for all patterns: the
marks of a part are the marks that it has alone, and going through a pattern backwards tells of each
index whether a match can start there.
-/

namespace ScopeLint.Pattern

namespace Node

/-! ## What can be matched from an index -/

section
variable {holds : Conditions}

/-- Without marks a pattern can only be passed without a character, on to what follows. -/
theorem can_none (node : Node) (rest : Bool) :
    node.can holds .none rest = (rest && node.can holds .none true) := by
  induction node generalizing rest with
  | empty => simp [can]
  | char set => simp [can, Marks.isHere]
  | assertion a => simp [can]
  | seq a b iha ihb =>
    simp only [can, Marks.first, Marks.second]
    rw [iha, ihb, iha (b.can holds .none true), Bool.and_assoc]
  | alt a b iha ihb =>
    simp only [can, Marks.first, Marks.second]
    rw [iha, ihb, Bool.and_or_distrib_left]
  | group name a ih => exact ih rest
  | star greedy a ih =>
    simp only [can]
    rw [ih]
    simp
  | plus greedy a ih => exact ih rest
  | exactly count a ih =>
    simp only [can]
    split
    · simp
    · exact ih rest
  | upTo greedy count a ih => simp [can]

/-- What leads on to something leads on to more. -/
theorem can_mono (node : Node) (m : Marks) {rest rest' : Bool}
    (hrest : rest = true → rest' = true) :
    node.can holds m rest = true → node.can holds m rest' = true := by
  induction node generalizing m rest rest' with
  | empty => exact hrest
  | char set => exact id
  | assertion a =>
    simp only [can, Bool.and_eq_true]
    exact fun h => ⟨hrest h.1, h.2⟩
  | seq a b iha ihb => exact iha _ (ihb _ hrest)
  | alt a b iha ihb =>
    simp only [can, Bool.or_eq_true]
    exact Or.imp (iha _ hrest) (ihb _ hrest)
  | group name a ih => exact ih m hrest
  | star greedy a ih =>
    simp only [can, Bool.or_eq_true]
    exact Or.imp_left hrest
  | plus greedy a ih => exact ih m hrest
  | exactly count a ih =>
    simp only [can]
    split
    · rename_i each
      rw [← Array.foldr_toList, ← Array.foldr_toList]
      induction each.toList with
      | nil => exact hrest
      | cons m copies ihcopies => exact ih m ihcopies
    · split
      · exact hrest
      · exact ih .none hrest
  | upTo greedy count a ih =>
    simp only [can]
    split
    · rename_i each
      rw [← Array.foldr_toList, ← Array.foldr_toList]
      induction each.toList with
      | nil => exact hrest
      | cons m copies ihcopies =>
        simp only [List.foldr_cons, Bool.or_eq_true]
        exact Or.imp hrest (ih m ihcopies)
    · exact hrest

/-- One round more leads to nothing new. -/
theorem can_again (node : Node) (m : Marks) (rest : Bool) :
    node.can holds m (rest || node.can holds m false) = node.can holds m rest := by
  cases rest with
  | true => rw [Bool.true_or]
  | false =>
    rw [Bool.false_or]
    cases h : node.can holds m false with
    | false => exact h
    | true => exact can_mono node m (fun _ => rfl) h

end

/-- Marks that have as many copies as the repetitions they belong to. -/
def Shaped : Node → Marks → Prop
  | .empty, _ | .char _, _ | .assertion _, _ => True
  | .seq a b, m | .alt a b, m => a.Shaped m.first ∧ b.Shaped m.second
  | .group _ a, m | .star _ a, m | .plus _ a, m => a.Shaped m
  | .exactly count a, m | .upTo _ count a, m =>
    ∀ each, m = .copies each → each.size = count ∧ ∀ m' ∈ each, a.Shaped m'

theorem shaped_none (node : Node) : node.Shaped .none := by
  induction node with
  | empty | char | assertion => trivial
  | seq a b iha ihb | alt a b iha ihb => exact ⟨iha, ihb⟩
  | group name a ih | star greedy a ih | plus greedy a ih => exact ih
  | exactly count a ih | upTo greedy count a ih =>
    intro each h
    cases h

/-! ## Copies -/

theorem sweepCopies_fst (sweep : Marks → Bool → Bool × Marks) (join : Bool → Bool) (m : Marks)
    (k : Nat) (rest : Bool) (done : List Marks) :
    (sweepCopies sweep join m k rest done).1 =
      ((List.range k).map m.copy).foldr (fun m more => join (sweep m more).1) rest := by
  induction k generalizing rest done with
  | zero => rfl
  | succ k ih =>
    rw [sweepCopies, ih, List.range_succ, List.map_append, List.foldr_append]
    rfl

theorem copies_eq_map_copy (each : Array Marks) :
    (List.range each.size).map (Marks.copies each).copy = each.toList := by
  refine List.ext_getElem (by simp) fun k _ hk => ?_
  rw [Array.length_toList] at hk
  simp [Marks.copy, hk]

/-- A pass over copies without marks ends with its first step, if that changes nothing twice. -/
theorem foldr_unmarked {f : Marks → Bool → Bool} {m : Marks} (hm : ∀ k, m.copy k = .none)
    {rest : Bool} (hf : f .none (f .none rest) = f .none rest) (count : Nat) :
    ((List.range count).map m.copy).foldr f rest = if count = 0 then rest else f .none rest := by
  have hcopies : (List.range count).map m.copy = List.replicate count .none := by
    rw [funext hm, List.map_const', List.length_range]
  rw [hcopies]
  clear hcopies
  induction count with
  | zero => rfl
  | succ count ih =>
    rw [List.replicate_succ, List.foldr_cons, ih, if_neg (Nat.succ_ne_zero count)]
    split
    · rfl
    · exact hf

/-- The marks that a sweep leaves on copies are as many as the copies. -/
theorem sweepCopies_snd {P : Marks → Prop} {sweep : Marks → Bool → Bool × Marks}
    (hsweep : ∀ m rest, P (sweep m rest).2) (join : Bool → Bool) (m : Marks) (k : Nat)
    (rest : Bool) {done : List Marks} (hdone : ∀ m' ∈ done, P m') :
    ∃ all : List Marks, (sweepCopies sweep join m k rest done).2 = .many all.toArray ∧
      all.length = k + done.length ∧ ∀ m' ∈ all, P m' := by
  induction k generalizing rest done with
  | zero => exact ⟨done, rfl, by simp, hdone⟩
  | succ k ih =>
    obtain ⟨all, hall, hlength, hP⟩ := ih (join (sweep (m.copy k) rest).1)
      (List.forall_mem_cons.2 ⟨hsweep (m.copy k) rest, hdone⟩)
    exact ⟨all, hall, by rw [hlength, List.length_cons]; omega, hP⟩

theorem shaped_many {a : Node} {count : Nat} {each : Array Marks} (hsize : each.size = count)
    (hshaped : ∀ m ∈ each, a.Shaped m) {each' : Array Marks}
    (h : Marks.many each = .copies each') : each'.size = count ∧ ∀ m ∈ each', a.Shaped m := by
  unfold Marks.many at h
  split at h
  case isTrue => cases h
  case isFalse =>
    cases h
    exact ⟨hsize, hshaped⟩

/-- A sweep leaves marks of the shape of the pattern, whatever marks it starts from. -/
theorem shaped_sweep (node : Node) (holds : Conditions) (m : Marks) (rest : Bool) :
    node.Shaped (node.sweep holds m rest).2 := by
  induction node generalizing m rest with
  | empty | char | assertion => trivial
  | seq a b iha ihb =>
    simp only [sweep, Shaped, Marks.both_first, Marks.both_second]
    exact ⟨iha _ _, ihb _ _⟩
  | alt a b iha ihb =>
    simp only [sweep, Shaped, Marks.both_first, Marks.both_second]
    exact ⟨iha _ _, ihb _ _⟩
  | group name a ih => exact ih m rest
  | star greedy a ih => exact ih m _
  | plus greedy a ih => exact ih m _
  | exactly count a ih | upTo greedy count a ih =>
    intro each heach
    rw [sweep] at heach
    obtain ⟨all, hall, hlength, hshaped⟩ :=
      sweepCopies_snd ih _ m count rest (List.forall_mem_nil _)
    rw [hall] at heach
    exact shaped_many (by simpa using hlength) (by simpa using hshaped) heach

theorem take_star (c : Char) (greedy : Bool) (a : Node) (m : Marks) :
    (Node.star greedy a).take c m = a.take c m := by
  cases m <;> simp [take]

theorem take_exactly {c : Char} {count : Nat} {a : Node} {m : Marks} {each' : Array Marks}
    (h : (Node.exactly count a).take c m = .copies each') :
    ∃ each, m = .copies each ∧ Marks.many (each.map (a.take c)) = .copies each' := by
  cases m with
  | none | here | pair => cases h
  | copies each => exact ⟨each, rfl, h⟩

theorem take_upTo (c : Char) (greedy : Bool) (count : Nat) (a : Node) (m : Marks) :
    (Node.upTo greedy count a).take c m = (Node.exactly count a).take c m := by
  cases m <;> rfl

theorem shaped_take {node : Node} (c : Char) {m : Marks} (h : node.Shaped m) :
    node.Shaped (node.take c m) := by
  induction node generalizing m with
  | empty | char | assertion => trivial
  | seq a b iha ihb =>
    rw [take_seq]
    simp only [Shaped, Marks.both_first, Marks.both_second]
    exact ⟨iha h.1, ihb h.2⟩
  | alt a b iha ihb =>
    rw [take_alt]
    simp only [Shaped, Marks.both_first, Marks.both_second]
    exact ⟨iha h.1, ihb h.2⟩
  | group name a ih =>
    rw [take_group]
    exact ih h
  | plus greedy a ih =>
    rw [take_plus]
    exact ih h
  | star greedy a ih =>
    rw [take_star]
    exact ih h
  | exactly count a ih =>
    intro each' heach'
    obtain ⟨each, rfl, htake⟩ := take_exactly heach'
    obtain ⟨hsize, hshaped⟩ := h each rfl
    exact shaped_many (by simpa using hsize) (by simpa using fun m hm => ih (hshaped m hm)) htake
  | upTo greedy count a ih =>
    intro each' heach'
    rw [take_upTo] at heach'
    obtain ⟨each, rfl, htake⟩ := take_exactly heach'
    obtain ⟨hsize, hshaped⟩ := h each rfl
    exact shaped_many (by simpa using hsize) (by simpa using fun m hm => ih (hshaped m hm)) htake

/-- Going through a pattern backwards tells of an index what `can` tells. -/
theorem sweep_fst_of_shaped {node : Node} (holds : Conditions) {m : Marks} (h : node.Shaped m)
    (rest : Bool) : (node.sweep holds m rest).1 = node.can holds m rest := by
  induction node generalizing m rest with
  | empty | char | assertion => rfl
  | seq a b iha ihb =>
    rw [can, ← ihb h.2, ← iha h.1]
    rfl
  | alt a b iha ihb =>
    rw [can, ← ihb h.2, ← iha h.1]
    rfl
  | group name a ih => exact ih h rest
  | star greedy a ih => rfl
  | plus greedy a ih => rw [sweep, ih h, can, can_again]
  | exactly count a ih =>
    rw [sweep, sweepCopies_fst]
    cases m with
    | copies each =>
      obtain ⟨rfl, hshaped⟩ := h each rfl
      rw [copies_eq_map_copy, can, ← Array.foldr_toList]
      exact List.foldr_ext _ _ _ fun m hm more => ih (hshaped m (Array.mem_toList_iff.1 hm)) more
    | none | here | pair =>
      have hnone (more : Bool) : (a.sweep holds .none more).1 = a.can holds .none more :=
        ih a.shaped_none more
      rw [foldr_unmarked (fun _ => rfl)]
      · simp only [id, hnone, can]
      · simp only [id, hnone]
        rw [a.can_none (a.can holds .none rest), a.can_none rest, Bool.and_assoc, Bool.and_self]
  | upTo greedy count a ih =>
    rw [sweep, sweepCopies_fst]
    cases m with
    | copies each =>
      obtain ⟨rfl, hshaped⟩ := h each rfl
      rw [copies_eq_map_copy, can, ← Array.foldr_toList]
      exact List.foldr_ext _ _ _ fun m hm more =>
        congrArg (rest || ·) (ih (hshaped m (Array.mem_toList_iff.1 hm)) more)
    | none | here | pair =>
      have hnone : (rest || (a.sweep holds .none rest).1) = rest := by
        rw [ih a.shaped_none, can_none]
        cases rest <;> rfl
      rw [foldr_unmarked (fun _ => rfl)]
      · simp only [hnone, ite_self, can]
      · simp only [hnone]

/-! ## The marks of a part -/

/-- The marks of a pattern are determined by the text and by what may follow. -/
theorem Reads.eq_of_reads {text : Array Char} {node : Node} {view view' : Nat → Marks}
    {rest : Nat → Bool} (h : Reads text node view rest) (h' : Reads text node view' rest) :
    view = view' := by
  funext i
  induction hn : text.size - i using Nat.strong_induction_on generalizing i with
  | h n ih =>
    by_cases hi : i < text.size
    · have hc : text[i]? = some text[i] := Array.getElem?_eq_getElem hi
      rw [h.step i _ hc, h'.step i _ hc, ih _ (by omega) (i + 1) rfl]
    · rw [h.fits i (by omega), h'.fits i (by omega)]

/-- Marks that belong to a pattern with nothing behind it are those that scanning sees. -/
theorem Reads.eq_view {text : Array Char} {node : Node} {view : Nat → Marks}
    (h : Reads text node view (fun _ => true)) : view = Pattern.view node text :=
  h.eq_of_reads (reads_view node text)

theorem shaped_view (node : Node) (text : Array Char) (i : Nat) :
    node.Shaped (Pattern.view node text i) := by
  by_cases hi : i < text.size
  · rw [view_eq (Array.getElem?_eq_getElem hi)]
    exact shaped_take _ (shaped_sweep _ _ _ _)
  · rw [view_beyond (by omega)]
    exact node.shaped_none

end Node

/-! ## Matches of alternatives and groups -/

variable {text : Array Char} {i : Nat}

theorem matchAt?_beyond (node : Node) (hi : text.size < i) :
    node.matchAt? text (outlooks node text) i = none := by
  have hnone : (outlooks node text)[i]? = none := by
    rw [Array.getElem?_eq_none_iff, outlooks_size]
    omega
  rw [Node.matchAt?, hnone]

theorem matchAt?_eq_ite (node : Node) (hi : i ≤ text.size) :
    node.matchAt? text (outlooks node text) i =
      if node.can (Assertion.holds text i) (view node text i) true then
        some (node.walk text (view node text) (fun _ => true) i)
      else none :=
  matchAt?_eq_of_sweep hi (Node.sweep_fst_of_shaped _ (Node.shaped_view node text i) true)

/-- The first alternative is taken where it matches, and the second elsewhere. -/
theorem matchAt?_alt (a b : Node) (text : Array Char) (i : Nat) :
    (Node.alt a b).matchAt? text (outlooks (.alt a b) text) i =
      (a.matchAt? text (outlooks a text) i).or (b.matchAt? text (outlooks b text) i) := by
  by_cases hi : i ≤ text.size
  · have hreads := Node.reads_view (.alt a b) text
    have hfirst := hreads.alt_first.eq_view
    have hsecond := hreads.alt_second.eq_view
    rw [matchAt?_eq_ite _ hi, matchAt?_eq_ite _ hi, matchAt?_eq_ite _ hi, Node.can, Node.walk,
      hfirst, hsecond, congrFun hfirst i, congrFun hsecond i]
    cases a.can (Assertion.holds text i) (view a text i) true with
    | true => rfl
    | false => rfl
  · rw [matchAt?_beyond _ (by omega), matchAt?_beyond _ (by omega), matchAt?_beyond _ (by omega)]
    rfl

/-- A group matches what its contents match. -/
theorem matchAt?_group (name : Option String) (a : Node) (text : Array Char) (i : Nat) :
    (Node.group name a).matchAt? text (outlooks (.group name a) text) i =
      (a.matchAt? text (outlooks a text) i).map (·.closed name) := by
  by_cases hi : i ≤ text.size
  · have hview := (Node.reads_view (.group name a) text).group.eq_view
    rw [matchAt?_eq_ite _ hi, matchAt?_eq_ite _ hi, Node.can, Node.walk, hview]
    split <;> rfl
  · rw [matchAt?_beyond _ (by omega), matchAt?_beyond _ (by omega)]
    rfl

end ScopeLint.Pattern
