import ScopeLint.Proofs.Coordinates
import ScopeLint.Scope

/-!
# Shadowed categories

Which categories a path carries is more than a matter of its scopes.  A path of the root alone
carries none, and embedded code or a comment right below the root shadows what is nested inside it.
Whether a path is code asks for four categories, and each of the four answers can be wrong about the
scopes.  The verdict is not: where an answer is shadowed, the scope that shadows it is itself one
that is not linted.
-/

namespace ScopeLint.Scope

/-- The categories of what is not linted. -/
def unlinted : List String := ["inlinecode", "comment", "quoted", "string"]

/-- One of the parts between the dots of a scope name is such a category. -/
def IsUnlinted (scope : String) : Prop :=
  ∃ category ∈ unlinted, category.toList ∈ scope.toList.splitOn '.'

instance : DecidablePred IsUnlinted := fun scope =>
  inferInstanceAs (Decidable (∃ category ∈ unlinted, category.toList ∈ scope.toList.splitOn '.'))

theorem hasSegment_iff {scope category : String} :
    hasSegment scope category = true ↔ category.toList ∈ scope.toList.splitOn '.' := by
  rw [hasSegment, segments, List.contains_iff_mem, List.mem_map, Text.splitAt_eq_splitOn]
  constructor
  · rintro ⟨piece, hpiece, rfl⟩
    rwa [String.toList_ofList]
  · intro h
    exact ⟨_, h, String.ofList_toList⟩

theorem isUnlinted_iff {scope : String} :
    IsUnlinted scope ↔ ∃ category ∈ unlinted, hasSegment scope category = true := by
  simp only [IsUnlinted, hasSegment_iff]

theorem hasSegment_of_isCommentScope {scope : String} (h : isCommentScope scope = true) :
    hasSegment scope comment = true := by
  unfold isCommentScope at h
  split at h
  case h_1 first second _ hsegments =>
    obtain ⟨hfirst, -⟩ := Bool.and_eq_true_iff.1 h
    rw [hasSegment, hsegments, ← eq_of_beq hfirst]
    simp
  case h_2 => cases h

/-- Right below the root, a shadowing scope answers for itself, and without one every scope answers.
Either way one of the four categories is carried exactly when some scope is not linted. -/
theorem exists_carries_iff {second : String} {more : ScopePath} :
    (∃ category ∈ unlinted, carries (root :: second :: more) category = true) ↔
      ∃ scope ∈ root :: second :: more, IsUnlinted scope := by
  have hsecond : second ∈ root :: second :: more := List.mem_cons_of_mem _ List.mem_cons_self
  simp only [carries, beq_self_eq_true, Bool.true_and]
  by_cases hinline : hasSegment second inlineCode = true
  · simp only [if_pos hinline]
    exact iff_of_true ⟨inlineCode, by decide, beq_self_eq_true _⟩
      ⟨second, hsecond, isUnlinted_iff.2 ⟨inlineCode, by decide, hinline⟩⟩
  · by_cases hcomment : isCommentScope second = true
    · simp only [if_neg hinline, if_pos hcomment]
      exact iff_of_true ⟨comment, by decide, beq_self_eq_true _⟩ ⟨second, hsecond,
        isUnlinted_iff.2 ⟨comment, by decide, hasSegment_of_isCommentScope hcomment⟩⟩
    · simp only [if_neg hinline, if_neg hcomment, List.any_eq_true, isUnlinted_iff]
      constructor
      · rintro ⟨category, hcategory, scope, hscope, h⟩
        exact ⟨scope, hscope, category, hcategory, h⟩
      · rintro ⟨scope, hscope, category, hcategory, h⟩
        exact ⟨category, hcategory, scope, hscope, h⟩

theorem isTypical_iff_carries {path : ScopePath} :
    isTypical path = true ↔
      isRoot path = true ∧ ¬ ∃ category ∈ unlinted, carries path category = true := by
  simp [isTypical, unlinted, inlineCode, comment, quoted, string, and_assoc]

/-- A path is code when it starts at the root and all its scopes are linted, as the root itself is.
-/
theorem isTypical_iff {path : ScopePath} :
    isTypical path = true ↔ path.head? = some root ∧ ∀ scope ∈ path, ¬ IsUnlinted scope := by
  rw [isTypical_iff_carries]
  cases path with
  | nil => simp [isRoot]
  | cons first rest =>
    simp only [isRoot, beq_iff_eq, List.head?_cons, Option.some.injEq]
    refine and_congr_right fun h => ?_
    cases rest with
    | nil =>
      have hroot : ¬ IsUnlinted root := by decide
      simp [carries, h, hroot]
    | cons second more =>
      rw [h, exists_carries_iff]
      simp only [not_exists, not_and]

/-- What lies below a scope that is not linted is not linted. -/
theorem isTypical_of_append {path more : ScopePath} (hne : path ≠ [])
    (h : isTypical (path ++ more) = true) : isTypical path = true := by
  obtain ⟨first, rest, rfl⟩ := List.exists_cons_of_ne_nil hne
  obtain ⟨hhead, hlinted⟩ := isTypical_iff.1 h
  exact isTypical_iff.2 ⟨hhead, fun scope hscope => hlinted scope (List.mem_append_left _ hscope)⟩

/-- Behind the first scope the order of a path does not matter. -/
theorem isTypical_perm {first : String} {rest rest' : ScopePath} (h : rest.Perm rest') :
    isTypical (first :: rest) = isTypical (first :: rest') := by
  have hmem : ∀ scope, scope ∈ first :: rest ↔ scope ∈ first :: rest' := fun scope =>
    (h.cons first).mem_iff
  rw [Bool.eq_iff_iff, isTypical_iff, isTypical_iff]
  simp only [List.head?_cons, hmem]

/-- Shadowing does not weaken the filter.  A path is code exactly when it starts at the root and no
scope has embedded code, a comment or a string among its segments.  So what is nested inside
something that is not linted is not linted either, and the order of the scopes below the root does
not matter. -/
theorem typical_unless_unlinted :
    (∀ path, isTypical path = true ↔ path.head? = some "source.ase" ∧ ∀ scope ∈ path,
      ∀ category ∈ ["inlinecode", "comment", "quoted", "string"],
        category.toList ∉ scope.toList.splitOn '.') ∧
    (∀ path more, path ≠ [] → isTypical path = false → isTypical (path ++ more) = false) ∧
    (∀ first rest rest', rest.Perm rest' →
      isTypical (first :: rest) = isTypical (first :: rest')) := by
  refine ⟨fun path => ?_, fun path more hne h => ?_, fun first rest rest' => isTypical_perm⟩
  · rw [isTypical_iff]
    simp only [IsUnlinted, unlinted, root, not_exists, not_and]
  · by_contra hmore
    rw [isTypical_of_append hne (by simpa using hmore)] at h
    cases h

/-- A comment in embedded code stays passed over, whatever is nested in it and in whichever order.
-/
theorem typical_unless_unlinted_nested :
    ["source.ase", "meta.embedded.inlinecode.ase"] ≠ [] ∧
      isTypical ["source.ase", "meta.embedded.inlinecode.ase"] = false ∧
      isTypical ["source.ase", "meta.embedded.inlinecode.ase", "comment.line.js"] = false ∧
      isTypical ["source.ase", "comment.line.js", "meta.embedded.inlinecode.ase"] = false := by
  have hnested : isTypical ["source.ase", "meta.embedded.inlinecode.ase"] = false := by decide
  have hcomment := typical_unless_unlinted.2.1 _ ["comment.line.js"] (List.cons_ne_nil _ _) hnested
  refine ⟨List.cons_ne_nil _ _, hnested, hcomment, ?_⟩
  rw [typical_unless_unlinted.2.2 _ _ ["meta.embedded.inlinecode.ase", "comment.line.js"]
    (List.Perm.swap ..)]
  exact hcomment

/-- The empty path is not code, and with the root behind it, it is. -/
theorem root_behind_nothing_typical :
    isTypical [] = false ∧ isTypical ([] ++ ["source.ase"]) = true := by decide

end ScopeLint.Scope
