import Mathlib.Data.List.DropRight
import ScopeLint.Diagnostic

/-!
# The suggestion of a message

A message suggests what follows its last marker, without outer blanks, if anything is left.  Said
without searching: the message falls into a front, the marker and a rest that holds no marker, and
the suggestion is the rest between its outer blanks.  The search and this cut agree because two
occurrences of the marker never overlap: its first character stands in it once, so a marker in what
follows cannot start inside the one before.  The front may hold anything, markers too.
-/

namespace ScopeLint

/-! ## Behind the last marker -/

namespace Text

theorem afterStart_eq_some_iff {pattern cs rest : List Char} :
    afterStart pattern cs = some rest ↔ cs = pattern ++ rest := by
  induction pattern generalizing cs with
  | nil => simp [afterStart]
  | cons p pattern ih =>
    cases cs with
    | nil => simp [afterStart]
    | cons c cs =>
      rw [afterStart, List.cons_append, List.cons_eq_cons]
      split
      case isTrue h => rw [ih, and_iff_right h.symm]
      case isFalse h => simp [Ne.symm h]

/-- What stands in front of an occurrence of the marker does not matter. -/
theorem afterLast_append {marker behind rest : List Char} (h : afterLast marker behind = some rest)
    (front : List Char) : afterLast marker (front ++ behind) = some rest := by
  induction front with
  | nil => exact h
  | cons c front ih => rw [List.cons_append, afterLast, ih]

/-- No marker starts where its first character does not occur. -/
theorem afterLast_append_of_notMem {c : Char} {marker front : List Char} (h : c ∉ front)
    (behind : List Char) :
    afterLast (c :: marker) (front ++ behind) = afterLast (c :: marker) behind := by
  induction front with
  | nil => rfl
  | cons d front ih =>
    obtain ⟨hd, hfront⟩ := not_or.1 (mt List.mem_cons.2 h)
    rw [List.cons_append, afterLast, ih hfront, afterStart, if_neg hd]
    cases afterLast (c :: marker) behind <;> rfl

/-- The first character of the marker stands in it once, so no other occurrence overlaps it. -/
theorem afterLast_marker {c : Char} {tail : List Char} (h : c ∉ tail) (front behind : List Char) :
    afterLast (c :: tail) (front ++ (c :: tail ++ behind)) =
      some ((afterLast (c :: tail) behind).getD behind) := by
  refine afterLast_append ?_ front
  rw [List.cons_append, afterLast, afterLast_append_of_notMem h]
  cases afterLast (c :: tail) behind with
  | some rest => rfl
  | none => exact afterStart_eq_some_iff.2 rfl

theorem exists_of_afterLast {marker cs rest : List Char} (h : afterLast marker cs = some rest) :
    ∃ front, cs = front ++ (marker ++ rest) := by
  induction cs with
  | nil =>
    have hcut : [] = marker ++ rest := afterStart_eq_some_iff.1 h
    exact ⟨[], hcut⟩
  | cons c cs ih =>
    rw [afterLast] at h
    split at h
    case h_1 rest' hlast =>
      cases h
      obtain ⟨front, hcs⟩ := ih hlast
      exact ⟨c :: front, by rw [List.cons_append, ← hcs]⟩
    case h_2 =>
      have hcut : c :: cs = marker ++ rest := afterStart_eq_some_iff.1 h
      exact ⟨[], hcut⟩

theorem afterLast_isSome_marker (marker rest : List Char) :
    (afterLast marker (marker ++ rest)).isSome = true := by
  have hstart : afterStart marker (marker ++ rest) = some rest := afterStart_eq_some_iff.2 rfl
  cases hcs : marker ++ rest with
  | nil => rw [afterLast, ← hcs, hstart, Option.isSome_some]
  | cons c cs =>
    rw [afterLast, ← hcs, hstart]
    split <;> rfl

theorem afterLast_eq_none_iff {marker cs : List Char} :
    afterLast marker cs = none ↔ ¬ marker <:+: cs := by
  constructor
  · rintro h ⟨front, rest, rfl⟩
    obtain ⟨last, hlast⟩ := Option.isSome_iff_exists.1 (afterLast_isSome_marker marker rest)
    rw [List.append_assoc, afterLast_append hlast] at h
    cases h
  · intro h
    cases hlast : afterLast marker cs with
    | none => rfl
    | some rest =>
      obtain ⟨front, rfl⟩ := exists_of_afterLast hlast
      exact absurd ⟨front, rest, List.append_assoc _ _ _⟩ h

/-- The last occurrence is the one with no other behind it, which would leave less than the whole
rest.  This is where overlaps matter: of the text `aaa` and the marker `aa` two rests hold no
marker. -/
theorem afterLast_eq_some_iff {c : Char} {tail cs rest : List Char} (h : c ∉ tail) :
    afterLast (c :: tail) cs = some rest ↔
      ∃ front, cs = front ++ (c :: tail ++ rest) ∧ ¬ c :: tail <:+: rest := by
  constructor
  · intro hlast
    obtain ⟨front, hcut⟩ := exists_of_afterLast hlast
    refine ⟨front, hcut, afterLast_eq_none_iff.1 ?_⟩
    rw [hcut, afterLast_marker h, Option.some_inj] at hlast
    cases hagain : afterLast (c :: tail) rest with
    | none => rfl
    | some rest' =>
      rw [hagain, Option.getD_some] at hlast
      obtain ⟨front', hcut'⟩ := exists_of_afterLast hagain
      have hlength := congrArg List.length hcut'
      rw [List.length_append, List.length_append, List.length_cons, hlast] at hlength
      omega
  · rintro ⟨front, rfl, hrest⟩
    rw [afterLast_marker h, afterLast_eq_none_iff.2 hrest, Option.getD_none]

/-- The same of strings: where the marker is found last, the text is cut there. -/
theorem afterLast_toList_eq_some_iff {c : Char} {tail : List Char} {marker : String}
    (hmarker : marker.toList = c :: tail) (hc : c ∉ tail) {text rest : String} :
    afterLast marker.toList text.toList = some rest.toList ↔
      ∃ front : String, text = front ++ marker ++ rest ∧ ¬ marker.toList <:+: rest.toList := by
  rw [hmarker, afterLast_eq_some_iff hc, ← hmarker]
  constructor
  · rintro ⟨front, hcut, hrest⟩
    refine ⟨String.ofList front, String.toList_inj.1 ?_, hrest⟩
    rw [String.toList_append, String.toList_append, String.toList_ofList, List.append_assoc, hcut]
  · rintro ⟨front, rfl, hrest⟩
    refine ⟨front.toList, ?_, hrest⟩
    rw [String.toList_append, String.toList_append, List.append_assoc]

/-! ## Outer blanks -/

def hasOuterBlank (cs : List Char) : Bool := cs.head?.any isBlank || cs.getLast?.any isBlank

/-- The text `cs` is `core` between blanks, and `core` has no outer blanks. -/
structure IsTrimmed (cs core : List Char) : Prop where
  cut : ∃ lead trail, cs = lead ++ (core ++ trail) ∧
    lead.all isBlank = true ∧ trail.all isBlank = true
  bare : hasOuterBlank core = false

theorem IsTrimmed.refl {cs : List Char} (h : hasOuterBlank cs = false) : IsTrimmed cs cs where
  cut := ⟨[], [], (List.append_nil cs).symm, rfl, rfl⟩
  bare := h

theorem trimChars_eq_rdropWhile (cs : List Char) :
    trimChars cs = (cs.dropWhile isBlank).rdropWhile isBlank := rfl

theorem length_trimChars_le (cs : List Char) : (trimChars cs).length ≤ cs.length :=
  (List.rdropWhile_prefix isBlank _).length_le.trans (List.length_dropWhile_le isBlank cs)

theorem head?_dropWhile_isBlank (cs : List Char) :
    (cs.dropWhile isBlank).head?.any isBlank = false := by
  have hfirst := List.head?_dropWhile_not isBlank cs
  cases hhead : (cs.dropWhile isBlank).head? with
  | none => rfl
  | some c =>
    rw [hhead] at hfirst
    exact hfirst

theorem dropWhile_isBlank_append {lead body : List Char} (hlead : lead.all isBlank = true)
    (hbody : body.head?.any isBlank = false) : (lead ++ body).dropWhile isBlank = body := by
  rw [List.dropWhile_append_of_pos (List.all_eq_true.1 hlead)]
  cases body with
  | nil => rfl
  | cons c body => exact List.dropWhile_cons_of_neg (Bool.eq_false_iff.1 hbody)

/-- What is dropped behind leaves the first character, if it leaves any. -/
theorem hasOuterBlank_trimChars (cs : List Char) : hasOuterBlank (trimChars cs) = false := by
  refine Bool.or_eq_false_iff.2 ⟨?_, ?_⟩
  · obtain ⟨trail, htrail⟩ := List.rdropWhile_prefix isBlank (cs.dropWhile isBlank)
    rw [← trimChars_eq_rdropWhile] at htrail
    have hfirst := head?_dropWhile_isBlank cs
    cases hcore : trimChars cs with
    | nil => rfl
    | cons c core =>
      rw [← htrail, hcore] at hfirst
      exact hfirst
  · rw [trimChars, List.getLast?_reverse]
    exact head?_dropWhile_isBlank _

theorem isTrimmed_trimChars (cs : List Char) : IsTrimmed cs (trimChars cs) where
  cut := by
    refine ⟨cs.takeWhile isBlank, (cs.dropWhile isBlank).rtakeWhile isBlank, ?_, ?_, ?_⟩
    · rw [trimChars_eq_rdropWhile, List.rdropWhile_append_rtakeWhile,
        List.takeWhile_append_dropWhile]
    · exact List.all_takeWhile
    · exact List.all_eq_true.2 fun c hc => List.mem_rtakeWhile_imp hc
  bare := hasOuterBlank_trimChars cs

/-- The blanks on both sides go at once, however many there are. -/
theorem trimChars_eq_of_isTrimmed {cs core : List Char} (h : IsTrimmed cs core) :
    trimChars cs = core := by
  obtain ⟨lead, trail, rfl, hlead, htrail⟩ := h.cut
  obtain ⟨hfirst, hlast⟩ := Bool.or_eq_false_iff.1 h.bare
  have hback : ((core ++ trail).reverse.dropWhile isBlank).reverse = core := by
    rw [List.reverse_append,
      dropWhile_isBlank_append (List.all_reverse.trans htrail) (by rwa [List.head?_reverse]),
      List.reverse_reverse]
  cases core with
  | nil =>
    have hfront : (lead ++ ([] ++ trail)).dropWhile isBlank = [] := by
      rw [← List.append_nil (lead ++ ([] ++ trail))]
      refine dropWhile_isBlank_append ?_ rfl
      rw [List.nil_append, List.all_append, hlead, htrail]
      rfl
    rw [trimChars, hfront]
    rfl
  | cons c core =>
    have hfront : (lead ++ (c :: core ++ trail)).dropWhile isBlank = c :: core ++ trail :=
      dropWhile_isBlank_append hlead hfirst
    rw [trimChars, hfront, hback]

theorem trimChars_eq_iff {cs core : List Char} : trimChars cs = core ↔ IsTrimmed cs core :=
  ⟨fun h => h ▸ isTrimmed_trimChars cs, trimChars_eq_of_isTrimmed⟩

end Text

/-! ## What a message suggests -/

/-- The first character of the marker stands in it once. -/
theorem suggestionMarker_toList : ∃ c tail, suggestionMarker.toList = c :: tail ∧ c ∉ tail :=
  ⟨'D', "id you mean: ".toList, by decide +kernel, by decide⟩

theorem suggestionIn_eq {message : String} {rest : List Char}
    (h : Text.afterLast suggestionMarker.toList message.toList = some rest) :
    suggestionIn message =
      if Text.trimChars rest = [] then none else some (String.ofList (Text.trimChars rest)) := by
  simp only [suggestionIn, h]
  split
  case h_1 hnil => rw [if_pos hnil]
  case h_2 hne => rw [if_neg hne]

theorem suggestionIn_eq_none {message : String}
    (h : Text.afterLast suggestionMarker.toList message.toList = none) :
    suggestionIn message = none := by
  simp only [suggestionIn, h]

/-- A suggestion is the trimmed rest behind the last marker, unless nothing is left of it. -/
theorem suggestionIn_eq_some_iff {message suggestion : String} :
    suggestionIn message = some suggestion ↔
      ∃ rest : String,
        Text.afterLast suggestionMarker.toList message.toList = some rest.toList ∧
        Text.trimChars rest.toList = suggestion.toList ∧ suggestion ≠ "" := by
  constructor
  · intro h
    cases hlast : Text.afterLast suggestionMarker.toList message.toList with
    | none =>
      rw [suggestionIn_eq_none hlast] at h
      cases h
    | some rest =>
      rw [suggestionIn_eq hlast] at h
      split at h
      case isTrue => cases h
      case isFalse hleft =>
        obtain rfl := Option.some.inj h
        refine ⟨String.ofList rest, by rw [String.toList_ofList], ?_, ?_⟩
        · rw [String.toList_ofList, String.toList_ofList]
        · exact fun hempty => hleft (String.ofList_eq_empty_iff.1 hempty)
  · rintro ⟨rest, hlast, htrim, hne⟩
    have hleft : ¬ Text.trimChars rest.toList = [] := by
      rw [htrim]
      exact fun hempty => hne (String.toList_eq_nil_iff.1 hempty)
    rw [suggestionIn_eq hlast, if_neg hleft, htrim, String.ofList_toList]

/-- What follows the marker is shorter than the whole. -/
theorem suggestionIn_ne_self (message : String) : suggestionIn message ≠ some message := by
  intro heq
  obtain ⟨rest, hlast, htrim, -⟩ := suggestionIn_eq_some_iff.1 heq
  obtain ⟨front, hcut⟩ := Text.exists_of_afterLast hlast
  have hshort := Text.length_trimChars_le rest.toList
  have hmarker : suggestionMarker.toList.length = 14 := by decide
  have hlength := congrArg List.length hcut
  rw [List.length_append, List.length_append, ← htrim] at hlength
  omega

/-- The message falls into a front, the marker and a rest without a marker, and `suggestion` is the
rest without its outer blanks. -/
def Suggests (message suggestion : String) : Prop :=
  ∃ front rest : String, message = front ++ suggestionMarker ++ rest ∧
    ¬ suggestionMarker.toList <:+: rest.toList ∧
    Text.IsTrimmed rest.toList suggestion.toList ∧ suggestion ≠ ""

theorem suggestionIn_eq_some_iff_suggests {message suggestion : String} :
    suggestionIn message = some suggestion ↔ Suggests message suggestion := by
  obtain ⟨c, tail, hmarker, hc⟩ := suggestionMarker_toList
  rw [suggestionIn_eq_some_iff]
  constructor
  · rintro ⟨rest, hlast, htrim, hne⟩
    obtain ⟨front, hcut, hrest⟩ := (Text.afterLast_toList_eq_some_iff hmarker hc).1 hlast
    exact ⟨front, rest, hcut, hrest, Text.trimChars_eq_iff.1 htrim, hne⟩
  · rintro ⟨front, rest, hcut, hrest, htrim, hne⟩
    have hlast := (Text.afterLast_toList_eq_some_iff hmarker hc).2 ⟨front, hcut, hrest⟩
    exact ⟨rest, hlast, Text.trimChars_eq_iff.2 htrim, hne⟩

/-- A suggestion is read off a message exactly where one stands behind a marker with no marker
after it, and it is what stands there without outer blanks; where there is none, none is read.  So
a text that is not empty, has no outer blanks and holds no marker comes back whole, whatever is
written in front of its marker. -/
theorem suggestions_follow_last_marker :
    (∀ message suggestion : String,
      suggestionIn message = some suggestion ↔ Suggests message suggestion) ∧
    (∀ message : String,
      suggestionIn message = none ↔ ¬ ∃ suggestion, Suggests message suggestion) ∧
    ∀ front rest : String, rest ≠ "" → Text.hasOuterBlank rest.toList = false →
      ¬ suggestionMarker.toList <:+: rest.toList →
      suggestionIn (front ++ suggestionMarker ++ rest) = some rest := by
  refine ⟨fun _ _ => suggestionIn_eq_some_iff_suggests, ?_, ?_⟩
  · intro message
    rw [Option.eq_none_iff_forall_ne_some, not_exists]
    exact forall_congr' fun _ => not_congr suggestionIn_eq_some_iff_suggests
  · intro front rest hne hbare hrest
    exact suggestionIn_eq_some_iff_suggests.2 ⟨front, rest, rfl, hrest, .refl hbare, hne⟩

/-- A marker and the start of one stand in front, and the suggestion falls one blank short of a
marker.  Behind a marker that ends in a blank more blanks may follow. -/
theorem suggestions_follow_last_marker_nested :
    "mean: Did you mean:" ≠ "" ∧
    Text.hasOuterBlank "mean: Did you mean:".toList = false ∧
    ¬ suggestionMarker.toList <:+: "mean: Did you mean:".toList ∧
    suggestionIn ("Did you mean: this? Did you " ++ suggestionMarker ++ "mean: Did you mean:") =
      some "mean: Did you mean:" ∧
    Suggests "Did you mean: \u2003 eoi\u3000" "eoi" ∧
    ¬ ∃ suggestion, Suggests "Did you mean: \u00a0" suggestion := by
  obtain ⟨hsome, hnone, hwhole⟩ := suggestions_follow_last_marker
  have hbare : Text.hasOuterBlank "mean: Did you mean:".toList = false := by decide +kernel
  have hrest : ¬ suggestionMarker.toList <:+: "mean: Did you mean:".toList :=
    Text.afterLast_eq_none_iff.1 (by decide +kernel)
  exact ⟨by decide, hbare, hrest, hwhole _ _ (by decide) hbare hrest,
    (hsome _ _).1 (by decide +kernel), (hnone _).1 (by decide +kernel)⟩

end ScopeLint
