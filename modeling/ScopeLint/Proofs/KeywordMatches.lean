import ScopeLint.Proofs.Acceptance
import ScopeLint.Proofs.CasingFixes

/-!
# What the pattern of a keyword matches

The pattern of a keyword is the sequence of its characters between two word edges, without regard to
case.  Its matches are stretches of the text that equal the keyword up to case, character by
character, and have a word edge at both ends.  A scan may pass over such a stretch only because a
match that overlaps it was taken first.
-/

namespace ScopeLint

open Pattern (Node Found Assertion matchOf)
open BuiltIn (keywordNode)

/-! ## Stretches of a text -/

/-- Is there a word character on exactly one side of the cut? -/
def IsWordEdge (before behind : List Char) : Prop :=
  before.getLast?.any Text.isWordChar ≠ behind.head?.any Text.isWordChar

instance (before behind : List Char) : Decidable (IsWordEdge before behind) :=
  inferInstanceAs (Decidable (_ ≠ _))

theorem holds_boundary_iff {d : Document} {before behind : List Char}
    (h : d.chars.toList = before ++ behind) :
    Assertion.holds d.chars before.length (.word .boundary false) = true ↔
      IsWordEdge before behind := by
  have hnext : d.chars[before.length]? = behind.head? := by
    rw [d.chars_behind h (Nat.le_refl _), Nat.sub_self, List.head?_eq_getElem?]
  rw [Assertion.holds, d.before?_cut h, hnext]
  exact bne_iff_ne

/-- A word edge leaves line ends whole. -/
theorem IsWordEdge.not_cutsLineEnd {before behind : List Char} (h : IsWordEdge before behind) :
    ¬ CutsLineEnd before behind := by
  rintro ⟨hreturn, hbehind⟩
  apply h
  rw [hreturn]
  rcases hbehind with rfl | hfeed
  · decide +kernel
  · rw [hfeed]
    decide +kernel

/-- The match is the stretch `inside` of the text, with `before` in front of it. -/
structure Match.Spans (m : Match) (before inside : List Char) : Prop where
  first : m.first = Text.byteLength before
  last : m.last = Text.byteLength (before ++ inside)
  span : m.span = ⟨Position.origin.after before, Position.origin.after (before ++ inside)⟩
  text : m.text = String.ofList inside

/-! ## Keywords in texts -/

/-- The keyword stands between `before` and `behind` as a whole word: `inside` has its characters up
to case, one for one, and there is a word edge at both ends. -/
structure StandsIn (keyword before inside behind : List Char) : Prop where
  spelled : inside.map Text.foldChar = keyword.map Text.foldChar
  start : IsWordEdge before (inside ++ behind)
  stop : IsWordEdge (before ++ inside) behind

theorem StandsIn.length_eq {keyword before inside behind : List Char}
    (h : StandsIn keyword before inside behind) : inside.length = keyword.length := by
  have hlength := congrArg List.length h.spelled
  rwa [List.length_map, List.length_map] at hlength

theorem matches_sequence {text : Array Char} {word : List Char} {i : Nat}
    (h : ∀ (k : Nat) (e : Char), word[k]? = some e →
      ∃ c, text[i + k]? = some c ∧ Text.foldsAlike e c = true) :
    (Node.sequence (word.map (fun c => .char (.alike c)))).Matches text i (i + word.length) := by
  induction word generalizing i with
  | nil => rfl
  | cons e word ih =>
    obtain ⟨c, hc, halike⟩ := h 0 e rfl
    have hrest := ih (i := i + 1) fun k e' he' => by
      rw [show i + 1 + k = i + (k + 1) by omega]
      exact h (k + 1) e' he'
    rw [List.length_cons, show i + (word.length + 1) = i + 1 + word.length by omega]
    cases word with
    | nil => exact ⟨rfl, c, hc, halike⟩
    | cons e' word => exact ⟨i + 1, ⟨rfl, c, hc, halike⟩, hrest⟩

/-- The characters of a stretch equal those of a word up to case, place by place. -/
theorem alike_iff_map {text : Array Char} {word before inside behind : List Char}
    (h : text.toList = before ++ inside ++ behind) (hlength : inside.length = word.length) :
    (∀ (k : Nat) (e : Char), word[k]? = some e →
      ∃ c, text[before.length + k]? = some c ∧ Text.foldsAlike e c = true) ↔
      inside.map Text.foldChar = word.map Text.foldChar := by
  have hget : ∀ k (hk : k < inside.length), text[before.length + k]? = some inside[k] := by
    intro k hk
    rw [← Array.getElem?_toList, h, List.append_assoc, List.getElem?_append_right (by omega),
      Nat.add_sub_cancel_left, List.getElem?_append_left hk, List.getElem?_eq_getElem hk]
  constructor
  · intro halike
    apply List.ext_getElem
    · rw [List.length_map, List.length_map, hlength]
    · intro k hk hk'
      rw [List.length_map] at hk hk'
      obtain ⟨c, hc, hfold⟩ := halike k _ (List.getElem?_eq_getElem hk')
      rw [hget k hk] at hc
      obtain rfl := Option.some.inj hc
      rw [List.getElem_map, List.getElem_map]
      exact (beq_iff_eq.1 hfold).symm
  · intro hmap k e he
    obtain ⟨hk, rfl⟩ := List.getElem?_eq_some_iff.1 he
    have hk' : k < inside.length := by omega
    refine ⟨_, hget k hk', beq_iff_eq.2 ?_⟩
    have hfold := congrArg (·[k]?) hmap
    simp only [List.getElem?_map, List.getElem?_eq_getElem hk, List.getElem?_eq_getElem hk',
      Option.map_some, Option.some.injEq] at hfold
    exact hfold.symm

/-- The pattern of a keyword stands for a stretch where the keyword stands in it. -/
theorem keywordNode_matches_iff {d : Document} {keyword before inside behind : List Char}
    (h : d.chars.toList = before ++ inside ++ behind) :
    (keywordNode keyword).Matches d.chars before.length (before ++ inside).length ↔
      StandsIn keyword before inside behind := by
  have hfirst := h
  rw [List.append_assoc] at hfirst
  constructor
  · rintro ⟨i, ⟨rfl, hstart⟩, j, hletters, hj, hstop⟩
    obtain rfl := hj
    obtain ⟨hlength, halike⟩ := BuiltIn.sequence_matches hletters
    rw [List.length_append] at hlength
    exact ⟨(alike_iff_map h (by omega)).1 halike, (holds_boundary_iff hfirst).1 hstart,
      (holds_boundary_iff h).1 hstop⟩
  · intro hstands
    have hlength := hstands.length_eq
    have hletters := matches_sequence ((alike_iff_map h hlength).2 hstands.spelled)
    rw [← hlength, ← List.length_append] at hletters
    exact ⟨_, ⟨rfl, (holds_boundary_iff hfirst).2 hstands.start⟩, _, hletters, rfl,
      (holds_boundary_iff h).2 hstands.stop⟩

/-- A match of the pattern has the keyword in it as a whole word. -/
theorem standsIn_of_mem_scan {source : String} {keyword : List Char} {d : Document} {m : Match}
    (hm : m ∈ Pattern.scan ⟨source, keywordNode keyword⟩ d) :
    ∃ before inside behind, d.chars.toList = before ++ inside ++ behind ∧
      m.Spans before inside ∧ StandsIn keyword before inside behind := by
  rw [Pattern.scan_eq_map] at hm
  obtain ⟨f, hf, rfl⟩ := List.mem_map.1 hm
  obtain ⟨before, inside, behind, hcut, hstart, hstop, hfirst, hlast, hspan, htext⟩ :=
    Pattern.exists_stretch_of_found hf
  refine ⟨before, inside, behind, hcut, ⟨hfirst, hlast, hspan, htext⟩, ?_⟩
  rw [Pattern.found_eq_search] at hf
  have hmatches := Pattern.matchAt?_matches (BuiltIn.keywordNode_simple keyword)
    (Pattern.matchAt?_of_mem_search hf)
  rw [← keywordNode_matches_iff hcut, ← hstart, ← hstop]
  exact hmatches

/-- Where a keyword stands in the text, its start lies in a match, its own or one that began before
it. All ends are cuts of one text, so they are in the order of their numbers of characters. -/
theorem exists_mem_scan_of_standsIn {source : String} {keyword : List Char} (hne : keyword ≠ [])
    {d : Document} {before inside behind : List Char}
    (hcut : d.chars.toList = before ++ inside ++ behind)
    (h : StandsIn keyword before inside behind) :
    ∃ m ∈ Pattern.scan ⟨source, keywordNode keyword⟩ d,
      m.first ≤ Text.byteLength before ∧ Text.byteLength before < m.last := by
  have hsize : before.length ≤ d.chars.size := by
    rw [← Array.length_toList, hcut]
    simp only [List.length_append]
    omega
  obtain ⟨a, ha⟩ := Pattern.exists_matchAt? (BuiltIn.keywordNode_simple keyword)
    ((keywordNode_matches_iff hcut).2 h) hsize
  have hlt : before.length < a.stop := by
    obtain ⟨_, ⟨rfl, -⟩, _, hletters, rfl, -⟩ :=
      Pattern.matchAt?_matches (BuiltIn.keywordNode_simple keyword) ha
    have hstop := (BuiltIn.sequence_matches hletters).1
    have hpos := List.length_pos_iff.2 hne
    omega
  obtain ⟨f, hf, hle, hgt⟩ := Pattern.exists_mem_search ha hlt (Nat.zero_le _) true
  have hfound : f ∈ Pattern.found ⟨source, keywordNode keyword⟩ d.chars := by
    rw [Pattern.found_eq_search]
    exact hf
  obtain ⟨front, middle, back, hcut', hstart, hstop, hfirst, hlast, -⟩ :=
    Pattern.exists_stretch_of_found hfound
  refine ⟨matchOf d.chars f, ?_, ?_⟩
  · rw [Pattern.scan_eq_map]
    exact List.mem_map_of_mem hfound
  rw [hfirst, hlast]
  have htext : before <+: d.chars.toList := ⟨inside ++ behind, by rw [hcut, List.append_assoc]⟩
  have hfront : front <+: d.chars.toList := ⟨middle ++ back, by rw [hcut', List.append_assoc]⟩
  have hmiddle : front ++ middle <+: d.chars.toList := ⟨back, hcut'.symm⟩
  obtain ⟨gap, hgap⟩ := List.prefix_of_prefix_length_le hfront htext (by omega)
  obtain ⟨rest, hrest⟩ := List.prefix_of_prefix_length_le htext hmiddle (by omega)
  constructor
  · rw [← hgap, Text.byteLength_append]
    exact Nat.le_add_right _ _
  · have hne' : rest ≠ [] := by
      rintro rfl
      rw [List.append_nil] at hrest
      rw [hrest] at hgt
      omega
    rw [← hrest, Text.byteLength_append]
    have hpos := Text.byteLength_pos hne'
    omega

/-- The pattern of a keyword means the keyword and nothing else.  Its matches have as many
characters as the keyword, equal to its characters up to case, and a word edge at both ends.  Where
such a stretch stands in a text, a match overlaps it. -/
theorem keyword_pattern_means_keyword (keyword : String)
    (hvisible : ∃ c ∈ keyword.toList, Text.isBlank c = false) :
    ∃ p : Pattern, p.source = RuleTable.keywordSource keyword ∧
      Node.read? true p.source.toList = some p.node ∧
      (∀ spec t, RuleTable.compile spec = .ok t → ∀ k ∈ t.keywords, k.text = keyword →
        k.pattern = p) ∧
      ∀ d : Document,
        (∀ m ∈ p.scan d, ∃ before inside behind, d.chars.toList = before ++ inside ++ behind ∧
          m.Spans before inside ∧ inside.length = keyword.length ∧
          StandsIn keyword.toList before inside behind) ∧
        (∀ before inside behind, d.chars.toList = before ++ inside ++ behind →
          StandsIn keyword.toList before inside behind →
          ∃ m ∈ p.scan d, m.first ≤ Text.byteLength before ∧ Text.byteLength before < m.last) := by
  refine ⟨(BuiltIn.keyword keyword).pattern, rfl, RuleTable.read?_keywordSource keyword, ?_, ?_⟩
  · intro spec t h k hk htext
    rw [(RuleTable.keeps_of_compile h).keywords] at hk
    obtain ⟨text, -, rfl⟩ := List.mem_map.1 hk
    obtain rfl : text = keyword := htext
    rfl
  · intro d
    refine ⟨fun m hm => ?_, fun before inside behind hcut hstands => ?_⟩
    · obtain ⟨before, inside, behind, hcut, hspans, hstands⟩ := standsIn_of_mem_scan hm
      exact ⟨before, inside, behind, hcut, hspans,
        hstands.length_eq.trans String.length_toList, hstands⟩
    · obtain ⟨c, hc, -⟩ := hvisible
      exact exists_mem_scan_of_standsIn (List.ne_nil_of_mem hc) hcut hstands

/-- A keyword with a sign of patterns, spelled with the Kelvin sign and the long s. -/
theorem keyword_pattern_means_keyword_signs :
    ∃ p : Pattern, p.source = RuleTable.keywordSource "k$s" ∧
      ∃ m ∈ p.scan (Document.ofString "(\u212a$ſ)"), m.first ≤ 1 ∧ 1 < m.last := by
  obtain ⟨p, hsource, -, -, h⟩ := keyword_pattern_means_keyword "k$s"
    ⟨'k', by decide, by decide⟩
  obtain ⟨m, hm, hfirst, hlast⟩ := (h (Document.ofString "(\u212a$ſ)")).2 ['(']
    ['\u212a', '$', 'ſ'] [')'] (by decide) ⟨by decide +kernel, by decide +kernel, by decide +kernel⟩
  exact ⟨p, hsource, m, hm, hfirst, hlast⟩

end ScopeLint
