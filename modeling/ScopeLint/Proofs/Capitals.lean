import ScopeLint.Rule.Naming

/-!
# Capitals of a name

A name is compared, place by place, with its lower-case form.  That form is made of the whole name:
a capital sigma is lowered by what stands around it, and U+0130 becomes two characters, which moves
all that follows.  Up to the first capital none of this matters.  What is no capital stays itself
wherever it stands, so the places still agree there; and a capital becomes something that begins
with another character, however it is lowered.  So the first difference is the first capital, and
capitals are told one by one.
-/

namespace ScopeLint

namespace Text

/-- Is the character not its own lower-case form? -/
def isCapital (c : Char) : Bool := lowerChar c != [c]

theorem isCapital_eq_false_iff {c : Char} : isCapital c = false ↔ lowerChar c = [c] := by
  rw [isCapital, bne_eq_false_iff_eq]

theorem isCapital_eq_true_iff {c : Char} : isCapital c = true ↔ lowerChar c ≠ [c] := bne_iff_ne

theorem isCapital_sigma {c : Char} (h : c.toNat = 0x3A3) : isCapital c = true := by
  rw [← c.ofNat_toNat, h]
  decide +kernel

/-- What is no capital stays as it is in every text. -/
theorem lowerFrom_small {c : Char} (h : isCapital c = false) (before rest : List Char) :
    lowerFrom before (c :: rest) = c :: lowerFrom (c :: before) rest := by
  have hsigma : ¬ c.toNat = 0x3A3 := by
    intro hc
    rw [isCapital_sigma hc] at h
    cases h
  rw [lowerFrom, if_neg hsigma, isCapital_eq_false_iff.1 h]
  rfl

/-- A capital becomes another character in every text, maybe with more behind it. -/
theorem lowerFrom_capital {c : Char} (h : isCapital c = true) (before rest : List Char) :
    ∃ lowered more, lowerFrom before (c :: rest) = lowered :: more ∧ c ≠ lowered := by
  have hcode : ∀ {n : Nat}, c.toNat ≠ (Char.ofNat n).toNat → c ≠ Char.ofNat n := fun hne heq =>
    hne (congrArg Char.toNat heq)
  rw [lowerFrom]
  by_cases hsigma : c.toNat = 0x3A3
  · rw [if_pos hsigma]
    split
    · exact ⟨_, _, rfl, hcode (by rw [hsigma]; decide)⟩
    · exact ⟨_, _, rfl, hcode (by rw [hsigma]; decide)⟩
  · rw [if_neg hsigma, lowerChar]
    by_cases hdotted : c.toNat = 0x130
    · rw [if_pos hdotted]
      exact ⟨_, _, rfl, hcode (by rw [hdotted]; decide)⟩
    · rw [if_neg hdotted]
      refine ⟨_, _, rfl, fun hsame => isCapital_eq_true_iff.1 h ?_⟩
      rw [lowerChar, if_neg hdotted, ← hsame]

/-- The lower-case form is longer by one character for each U+0130. -/
theorem length_lowerFrom (before cs : List Char) :
    (lowerFrom before cs).length = cs.length + cs.count (Char.ofNat 0x130) := by
  induction cs generalizing before with
  | nil => rfl
  | cons c cs ih =>
    have hdotted : c.toNat = 0x130 ↔ c = Char.ofNat 0x130 :=
      ⟨fun h => by rw [← h, c.ofNat_toNat], fun h => by rw [h]; rfl⟩
    rw [lowerFrom, List.length_append, ih, List.length_cons, List.count_cons, lowerChar]
    by_cases hc : c.toNat = 0x130
    · rw [if_neg (by rw [hc]; decide), if_pos hc, if_pos (by rw [hdotted.1 hc]; rfl)]
      simp only [List.length_cons, List.length_nil]
      omega
    · rw [if_neg hc, if_neg (c := (c == Char.ofNat 0x130) = true) (by simpa [← hdotted] using hc)]
      split
      · split <;> simp only [List.length_cons, List.length_nil] <;> omega
      · simp only [List.length_cons, List.length_nil]
        omega

end Text

namespace Naming

open Text (isCapital lowerFrom lowerChars lowerChar)

/-- The first place where a text differs from its lower-case form is that of its first capital:
before it the two keep step, and nothing is compared behind it. -/
theorem findIdx?_lowerFrom (before name : List Char) :
    (name.zip (lowerFrom before name)).findIdx? (fun p => p.1 != p.2) =
      name.findIdx? isCapital := by
  induction name generalizing before with
  | nil => rfl
  | cons c rest ih =>
    cases hc : isCapital c with
    | false =>
      rw [Text.lowerFrom_small hc, List.zip_cons_cons, List.findIdx?_cons, List.findIdx?_cons, ih, hc,
        bne_self_eq_false]
    | true =>
      obtain ⟨lowered, more, hlowered, hne⟩ := Text.lowerFrom_capital hc before rest
      rw [hlowered, List.zip_cons_cons, List.findIdx?_cons, List.findIdx?_cons, hc,
        bne_iff_ne.2 hne, if_pos rfl, if_pos rfl]

/-- A name is Hungarian when it holds a capital and does not begin with one. -/
theorem isHungarian_eq_capitals (name : List Char) :
    isHungarian name = (!name.head?.any isCapital && name.any isCapital) := by
  have hfirst : isHungarian name = (name.findIdx? isCapital).any (fun i => decide (0 < i)) := by
    rw [← findIdx?_lowerFrom [], isHungarian, lowerChars]
    cases (name.zip (lowerFrom [] name)).findIdx? _ <;> rfl
  rw [hfirst]
  cases name with
  | nil => rfl
  | cons c rest =>
    rw [List.findIdx?_cons, List.head?_cons, List.any_cons, Option.any_some,
      ← List.findIdx?_isSome]
    cases isCapital c with
    | true => rfl
    | false => cases rest.findIdx? isCapital <;> simp

/-- A name is Hungarian exactly when its first character is its own lower-case form and a later one
is not.  The comparison with the lower-case form of the whole name finds the first such character,
though that form is longer than the name wherever U+0130 occurs in it. -/
theorem hungarian_iff_capital_later (name : List Char) :
    (isHungarian name = true ↔ ∃ first rest, name = first :: rest ∧ lowerChar first = [first] ∧
      ∃ c ∈ rest, lowerChar c ≠ [c]) ∧
    (name.zip (lowerChars name)).findIdx? (fun p => p.1 != p.2) =
      name.findIdx? (fun c => lowerChar c != [c]) ∧
    (lowerChars name).length = name.length + name.count (Char.ofNat 0x130) := by
  refine ⟨?_, findIdx?_lowerFrom [] name, Text.length_lowerFrom [] name⟩
  rw [isHungarian_eq_capitals, Bool.and_eq_true, Bool.not_eq_true']
  cases name with
  | nil => simp
  | cons first rest =>
    rw [List.head?_cons, Option.any_some, List.any_cons, Text.isCapital_eq_false_iff]
    simp only [List.cons.injEq, ← Text.isCapital_eq_true_iff, ← Text.isCapital_eq_false_iff]
    constructor
    · rintro ⟨hfirst, hany⟩
      rw [hfirst, Bool.false_or, List.any_eq_true] at hany
      exact ⟨first, rest, ⟨rfl, rfl⟩, hfirst, hany⟩
    · rintro ⟨_, _, ⟨rfl, rfl⟩, hfirst, hany⟩
      exact ⟨hfirst, by rw [List.any_eq_true.2 hany, Bool.or_true]⟩

/-- A final sigma is lowered by its neighbours, and both forms differ from it. -/
example : lowerChars ['a', 'Σ'] = ['a', 'ς'] ∧ lowerChars ['a', 'Σ', 'b'] = ['a', 'σ', 'b'] ∧
    isHungarian ['a', 'Σ'] = true ∧ isHungarian ['a', 'Σ', 'b'] = true := by decide +kernel

end Naming

end ScopeLint
