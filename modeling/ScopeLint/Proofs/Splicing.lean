import ScopeLint.Proofs.PartSeams

/-!
# Patterns within patterns

Reading a group is described part by part, without a bound on the number of steps.  From that it
follows that a pattern in brackets means what it means alone, as long as blanks and comments have a
meaning at its end, and that a pattern has no two groups of one name.
-/

namespace ScopeLint.Pattern

def GroupStart.flags (f : Flags) : GroupStart → Flags
  | .setFlags flags => flags
  | .plain flags => flags
  | .capture _ => f

def GroupStart.name? : GroupStart → Option String
  | .capture name => name
  | _ => none

/-- The node of a group with these contents. -/
def GroupStart.wrap : GroupStart → Node → Node
  | .capture name => .group name
  | _ => id

/-- Does the opening begin a group? -/
def GroupStart.IsGroup (g : GroupStart) : Prop := ∀ flags, g ≠ .setFlags flags

namespace Progress

def inside (p : Progress) (g : GroupStart) : Progress :=
  { flags := g.flags p.flags, names := g.name?.toList ++ p.names }

/-- Add a group that has been read. -/
def pushGroup (p : Progress) (g : GroupStart) (inner : Progress) : Progress :=
  { p.push ⟨g.wrap inner.whole.node, inner.whole.height + 1⟩ with names := inner.names }

end Progress

/-- How a text is read from `p` on, part by part: the group ends with `q`, and `rest` is left.  What
has no meaning before the text has been passed over. -/
inductive Reading : Progress → List Char → Progress → List Char → Prop
  | stop {p : Progress} : Reading p [] p []
  | close {p : Progress} {after : List Char} : Reading p (')' :: after) p (')' :: after)
  | next {p q : Progress} {after rest : List Char}
      (hnext : Reading p.nextBranch (p.flags.skip after) q rest) : Reading p ('|' :: after) q rest
  | flags {p q : Progress} {after begun rest : List Char} {f : Flags}
      (hstart : readGroupStart p.flags p.names after = some (.setFlags f, begun))
      (hnext : Reading (p.setFlags f) (f.skip begun) q rest) : Reading p ('(' :: after) q rest
  | group {p q inner : Progress} {after begun ended rest : List Char} {g : GroupStart}
      (hstart : readGroupStart p.flags p.names after = some (g, begun)) (hgroup : g.IsGroup)
      (hinner : Reading (p.inside g) ((g.flags p.flags).skip begun) inner (')' :: ended))
      (hnext : Reading (p.pushGroup g inner) (p.flags.skip ended) q rest) :
      Reading p ('(' :: after) q rest
  | part {p p' q : Progress} {after after' rest : List Char} {c : Char}
      (hc : c ≠ ')' ∧ c ≠ '|' ∧ c ≠ '(') (hitem : readItem p c after = some (p', after'))
      (hnext : Reading p' (p'.flags.skip after') q rest) : Reading p (c :: after) q rest

variable {p q : Progress} {cs rest : List Char}

/-- What is read with some fuel can be told part by part, without fuel. -/
theorem reading_of_readBody {fuel : Nat} (h : readBody fuel p cs = some (q, rest)) :
    Reading p (p.flags.skip cs) q rest := by
  induction fuel generalizing p cs q rest with
  | zero => cases h
  | succ fuel ih =>
    rw [readBody] at h
    generalize p.flags.skip cs = ds at h ⊢
    split at h
    case h_1 => cases h; exact .stop
    case h_2 => cases h; exact .close
    case h_3 after => exact .next (ih h)
    case h_4 after =>
      split at h
      case h_1 f begun hstart => exact .flags hstart (ih h)
      case h_2 f begun hstart =>
        beta_reduce at h
        split at h
        case h_1 inner ended hinner => exact .group hstart (fun _ => by simp) (ih hinner) (ih h)
        case h_2 => cases h
      case h_3 name begun hstart =>
        beta_reduce at h
        split at h
        case h_1 inner ended hinner => exact .group hstart (fun _ => by simp) (ih hinner) (ih h)
        case h_2 => cases h
      case h_4 => cases h
    case h_5 c after hclose hbar hopen =>
      split at h
      case h_1 p' after' hitem => exact .part ⟨hclose, hbar, hopen⟩ hitem (ih h)
      case h_2 => cases h

/-! ## The names of groups -/

/-- The names of the groups of a pattern. -/
def Node.names : Node → List String
  | .empty | .char _ | .assertion _ => []
  | .seq a b | .alt a b => a.names ++ b.names
  | .group name a => name.toList ++ a.names
  | .star _ a | .plus _ a | .exactly _ a | .upTo _ _ a => a.names

theorem Node.names_sequence (nodes : List Node) :
    (sequence nodes).names = nodes.flatMap names := by
  fun_induction sequence nodes with
  | case1 => rfl
  | case2 a => simp
  | case3 a b rest ih => simp [names, ih]

theorem Node.names_choice (nodes : List Node) : (choice nodes).names = nodes.flatMap names := by
  fun_induction choice nodes with
  | case1 => rfl
  | case2 a => simp
  | case3 a b rest ih => simp [names, ih]

theorem Node.mem_names_rounds {greedy : Bool} {min : Nat} {max : Option Nat} {a : Node}
    {x : String} (h : x ∈ (rounds greedy min max a).names) : x ∈ a.names := by
  unfold rounds at h
  split at h
  case h_5 =>
    split at h
    all_goals simpa [names] using h
  all_goals simpa [names] using h

theorem Node.mem_names_repeated {greedy : Bool} {min : Nat} {max : Option Nat} {a : Node}
    {x : String} (h : x ∈ (repeated greedy min max a).names) : x ∈ a.names := by
  unfold repeated at h
  split at h
  split at h
  case isTrue => cases h
  case isFalse =>
    split at h
    case isTrue => exact h
    case isFalse => exact mem_names_rounds h

/-- The names of the groups among the parts read so far. -/
def Progress.groups (p : Progress) : List String :=
  p.current.nodes.flatMap Node.names ++ p.branches.flatMap (·.node.names)

namespace Progress

theorem groups_push (p : Progress) (a : Item) : (p.push a).groups = a.node.names ++ p.groups := by
  rw [groups, current_push, Branch.push]
  simp [groups, push]

theorem mem_groups_whole {x : String} : x ∈ p.whole.node.names ↔ x ∈ p.groups := by
  unfold whole
  split
  case h_1 hbranches => simp [groups, hbranches, Branch.whole, Node.names_sequence]
  case h_2 => simp [groups, Branch.whole, Node.names_sequence, Node.names_choice, or_comm]

theorem mem_groups_nextBranch {x : String} : x ∈ p.nextBranch.groups ↔ x ∈ p.groups := by
  simp [groups, nextBranch, current, Branch.whole, Node.names_sequence]

theorem mem_groups_repeated {min : Nat} {max : Option Nat} {marked : Bool} {a : Item} {x : String}
    (hlast : p.last = some a) (h : x ∈ (p.repeated min max marked a).groups) : x ∈ p.groups := by
  have hgroups : p.groups = a.node.names ++
      (p.branch.nodes.flatMap Node.names ++ p.branches.flatMap (·.node.names)) := by
    unfold groups current
    rw [hlast]
    simp [Branch.push]
  simp only [groups, current, repeated, Branch.push, List.flatMap_cons, List.append_assoc,
    List.mem_append] at h
  rw [hgroups]
  simp only [List.mem_append]
  exact h.imp_left Node.mem_names_repeated

theorem repeatLast_cases {min : Nat} {max : Option Nat}
    (h : p.repeatLast min max cs = some (q, rest)) :
    ∃ a marked, p.last = some a ∧ q = p.repeated min max marked a := by
  unfold repeatLast at h
  split at h
  case h_1 => cases h
  case h_2 a hlast =>
    cases h
    exact ⟨a, _, hlast, rfl⟩

end Progress

/-- A part is put behind those before it, or the last one is repeated. -/
theorem readItem_cases {c : Char} (h : readItem p c cs = some (q, rest)) :
    (∃ a : Item, a.node.names = [] ∧ q = p.push a) ∨
      ∃ a min max marked, p.last = some a ∧ q = p.repeated min max marked a := by
  unfold readItem at h
  split at h
  case h_1 | h_2 | h_3 =>
    obtain ⟨a, marked, hlast, rfl⟩ := Progress.repeatLast_cases h
    exact .inr ⟨a, _, _, marked, hlast, rfl⟩
  case h_4 =>
    split at h
    case h_1 =>
      obtain ⟨a, marked, hlast, rfl⟩ := Progress.repeatLast_cases h
      exact .inr ⟨a, _, _, marked, hlast, rfl⟩
    case h_2 => cases h
  case h_5 | h_7 =>
    obtain ⟨_, -, h⟩ := Option.map_eq_some_iff.1 h
    cases h
    exact .inl ⟨_, rfl, rfl⟩
  case h_6 =>
    obtain ⟨⟨a, _⟩, -, h⟩ := Option.map_eq_some_iff.1 h
    cases h
    cases a <;> exact .inl ⟨_, rfl, rfl⟩
  case h_8 | h_9 | h_10 => cases h; exact .inl ⟨_, rfl, rfl⟩

theorem readItem_flags {c : Char} (h : readItem p c cs = some (q, rest)) : q.flags = p.flags := by
  obtain ⟨a, -, rfl⟩ | ⟨a, min, max, marked, -, rfl⟩ := readItem_cases h <;> rfl

theorem readItem_names {c : Char} (h : readItem p c cs = some (q, rest)) : q.names = p.names := by
  obtain ⟨a, -, rfl⟩ | ⟨a, min, max, marked, -, rfl⟩ := readItem_cases h <;> rfl

/-- A part that is no group adds no group. -/
theorem mem_groups_readItem {c : Char} {x : String} (h : readItem p c cs = some (q, rest))
    (hx : x ∈ q.groups) : x ∈ p.groups := by
  obtain ⟨a, hnames, rfl⟩ | ⟨a, min, max, marked, hlast, rfl⟩ := readItem_cases h
  · rwa [Progress.groups_push, hnames] at hx
  · exact Progress.mem_groups_repeated hlast hx

/-- A group with a name is begun only where the name is new. -/
theorem name_not_mem_of_start {f : Flags} {names : List String} {begun : List Char}
    {g : GroupStart} (h : readGroupStart f names cs = some (g, begun)) {name : String}
    (hname : g.name? = some name) : name ∉ names := by
  unfold readGroupStart at h
  simp only at h
  split at h
  case h_1 | h_4 =>
    split at h
    case h_1 =>
      obtain ⟨hnew, h⟩ := Option.ite_none_left_eq_some.1 h
      cases h
      cases hname
      simpa using hnew
    case h_2 => cases h
  case h_2 | h_3 => cases h
  case h_5 =>
    split at h
    case h_1 => cases h; cases hname
    case h_2 =>
      obtain ⟨-, h⟩ := Option.ite_none_left_eq_some.1 h
      cases h
      cases hname
    case h_3 => cases h
  case h_6 => cases h; cases hname

theorem GroupStart.mem_names_wrap {g : GroupStart} {a : Node} {x : String}
    (h : x ∈ (g.wrap a).names) : g.name? = some x ∨ x ∈ a.names := by
  cases g with
  | setFlags f => exact .inr h
  | plain f => exact .inr h
  | capture name => exact (List.mem_append.1 h).imp_left Option.mem_toList.1

/-- A group read has only new names, and all of them are known afterwards. -/
theorem Reading.names (h : Reading p cs q rest) :
    p.names ⊆ q.names ∧ ∀ x ∈ q.groups, x ∈ p.groups ∨ (x ∈ q.names ∧ x ∉ p.names) := by
  induction h with
  | stop => exact ⟨fun _ hx => hx, fun _ hx => .inl hx⟩
  | close => exact ⟨fun _ hx => hx, fun _ hx => .inl hx⟩
  | next _ ih => exact ⟨ih.1, fun x hx => (ih.2 x hx).imp_left Progress.mem_groups_nextBranch.1⟩
  | flags _ _ ih => exact ih
  | @group p q inner after begun ended rest g hstart hgroup hinner hnext ihinner ih =>
    have hknown : p.names ⊆ inner.names := fun x hx => ihinner.1 (List.mem_append_right _ hx)
    refine ⟨fun x hx => ih.1 (hknown hx), fun x hx => ?_⟩
    obtain hpushed | ⟨hq, hnew⟩ := ih.2 x hx
    case inr => exact .inr ⟨hq, fun hx => hnew (hknown hx)⟩
    have hpushed : x ∈ (g.wrap inner.whole.node).names ∨ x ∈ p.groups := by
      rw [← List.mem_append, ← Progress.groups_push p ⟨_, inner.whole.height + 1⟩]
      exact hpushed
    obtain hwrap | hold := hpushed
    case inr => exact .inl hold
    refine .inr ?_
    obtain hname | hinside := GroupStart.mem_names_wrap hwrap
    · have hx : x ∈ inner.names :=
        ihinner.1 (List.mem_append_left _ (Option.mem_toList.2 hname))
      exact ⟨ih.1 hx, name_not_mem_of_start hstart hname⟩
    · obtain hnone | ⟨hx, hnew⟩ := ihinner.2 x (Progress.mem_groups_whole.1 hinside)
      · cases hnone
      · exact ⟨ih.1 hx, fun hx => hnew (List.mem_append_right _ hx)⟩
  | part _ hitem _ ih =>
    rw [readItem_names hitem] at ih
    exact ⟨ih.1, fun x hx => (ih.2 x hx).imp_left (mem_groups_readItem hitem)⟩

/-! ## Splicing -/

/-- If nothing of the text was passed over at the end of a reading, nothing was at its start. -/
theorem Reading.settled (h : Reading p cs q rest) (hrest : Settled q.flags rest) :
    Settled p.flags cs := by
  cases h with
  | stop => exact hrest
  | close | next | flags | group | part => exact .inl (List.cons_ne_nil _ _)

theorem Reading.of_eq {ds : List Char} (h : Reading p cs q rest) (hcs : cs = ds) :
    Reading p ds q rest :=
  hcs ▸ h

theorem skip_ne_nil_of_start {f : Flags} {names : List String} {cs begun : List Char}
    {g : GroupStart} (h : readGroupStart f names cs = some (g, begun))
    (hopen : g ≠ .capture none ∨ begun ≠ []) : f.skip cs ≠ [] := by
  intro hnil
  rw [readGroupStart_bare (by simp [hnil]), hnil] at h
  cases h
  exact hopen.elim (fun h => h rfl) (fun h => h rfl)

/-- Within brackets a pattern is read as if it stood alone.  The names of groups before it leave no
trace but in the names that are known after it. -/
theorem Reading.splice (h : Reading p cs q rest) (hrest : Settled q.flags rest)
    {names : List String} {behind rest' : List Char} {q' : Progress}
    (h' : Reading { p with names := names } (cs ++ ')' :: behind) q' rest') :
    q' = { q with names := q'.names } ∧ rest' = rest ++ ')' :: behind := by
  induction h generalizing names behind q' rest' with
  | stop =>
    cases h' with
    | close => exact ⟨rfl, rfl⟩
    | part hc => exact absurd rfl hc.1
  | close =>
    cases h' with
    | close => exact ⟨rfl, rfl⟩
    | part hc => exact absurd rfl hc.1
  | next hnext ih =>
    cases h' with
    | next hnext' =>
      exact ih hrest (hnext'.of_eq (Flags.skip_append (hnext.settled hrest) _))
    | part hc => exact absurd rfl hc.2.1
  | @flags p q after begun rest f hstart hnext ih =>
    have hopen : p.flags.skip after ≠ [] := skip_ne_nil_of_start hstart (.inl (by simp))
    cases h' with
    | flags hstart' hnext' =>
      cases readGroupStart_append hstart hopen hstart'
      exact ih hrest (hnext'.of_eq (Flags.skip_append (hnext.settled hrest) _))
    | group hstart' hgroup' =>
      cases readGroupStart_append hstart hopen hstart'
      exact absurd rfl (hgroup' f)
    | part hc => exact absurd rfl hc.2.2
  | @group p q inner after begun ended rest g hstart hgroup hinner hnext ihinner ih =>
    have hended : Settled inner.flags (')' :: ended) := .inl (List.cons_ne_nil _ _)
    have hbegun : (g.flags p.flags).skip begun ≠ [] := by
      intro hnil
      cases hinner.of_eq hnil
    have hopen := skip_ne_nil_of_start hstart (.inr (Flags.ne_nil_of_skip hbegun))
    cases h' with
    | flags hstart' =>
      cases readGroupStart_append hstart hopen hstart'
      exact absurd rfl (hgroup _)
    | @group _ _ inner' _ begun' ended' _ g' hstart' _ hinner' hnext' =>
      cases readGroupStart_append hstart hopen hstart'
      obtain ⟨hsame, hended'⟩ :=
        ihinner hended (hinner'.of_eq (Flags.skip_append (hinner.settled hended) _))
      cases hended'
      rw [hsame] at hnext'
      exact ih hrest (hnext'.of_eq (Flags.skip_append (hnext.settled hrest) _))
    | part hc => exact absurd rfl hc.2.2
  | @part p p' q after after' rest c hc hitem hnext ih =>
    cases h' with
    | close => exact absurd rfl hc.1
    | next => exact absurd rfl hc.2.1
    | flags => exact absurd rfl hc.2.2
    | group => exact absurd rfl hc.2.2
    | part hc' hitem' hnext' =>
      have hafter : Settled p.flags after' := by
        rw [← readItem_flags hitem]
        exact (hnext.settled hrest).imp_left Flags.ne_nil_of_skip
      cases (readItem_append hitem hafter names behind).symm.trans hitem'
      exact ih hrest (hnext'.of_eq (Flags.skip_append (hnext.settled hrest) _))

/-! ## Two patterns in groups with names -/

/-- Are blanks and comments passed over where the pattern ends? -/
def endsSpaced (source : List Char) : Bool :=
  match readBody (source.length + 1) { flags := {} } source with
  | some (p, _) => p.flags.spaced
  | none => false

theorem exists_reading_of_read? {source : List Char} {a : Node}
    (h : Node.read? false source = some a) :
    ∃ p, Reading { flags := {} } source p [] ∧ p.whole.node = a ∧
      p.flags.spaced = endsSpaced source := by
  unfold Node.read? at h
  split at h
  case h_1 p hread =>
    obtain ⟨-, h⟩ := Option.ite_none_right_eq_some.1 h
    cases h
    refine ⟨p, reading_of_readBody hread, rfl, ?_⟩
    rw [endsSpaced, hread]
  case h_2 => cases h

/-- Can the text be the name of a group? -/
def IsName (name : List Char) : Prop :=
  ∃ first others, name = first :: others ∧ '>' ∉ name ∧
    (isNameChar true first && others.all (isNameChar false)) = true

theorem readName_of_isName {name : List Char} (h : IsName name) (rest : List Char) :
    readName (name ++ '>' :: rest) = some (String.ofList name, rest) := by
  obtain ⟨first, others, rfl, hangle, hgood⟩ := h
  exact readName_eq_some_iff.2 ⟨first, others, hangle, hgood, rfl, rfl⟩

/-- A pattern in a group with a name is read as if it stood alone, and the name is new. -/
theorem Reading.of_named {name behind : List Char} {r : Progress} (hname : IsName name)
    (h : Reading p ('(' :: '?' :: 'P' :: '<' :: (name ++ '>' :: (cs ++ ')' :: behind))) q rest)
    (hp : p.flags.spaced = false) (halone : Reading { flags := p.flags } cs r [])
    (hr : r.flags.spaced = false) :
    ∃ names, Reading { p.push ⟨.group (some (String.ofList name)) r.whole.node,
          r.whole.height + 1⟩ with names := names } behind q rest ∧
      String.ofList name ∉ p.names ∧ String.ofList name :: p.names ⊆ names ∧
      ∀ x ∈ r.whole.node.names, x ∈ names ∧ x ∉ String.ofList name :: p.names := by
  have hstart : ∀ {g begun}, readGroupStart p.flags p.names
      ('?' :: 'P' :: '<' :: (name ++ '>' :: (cs ++ ')' :: behind))) = some (g, begun) →
      g = .capture (some (String.ofList name)) ∧ begun = cs ++ ')' :: behind := by
    intro g begun h
    rw [readGroupStart_named (Flags.skip_eq hp _), readName_of_isName hname] at h
    obtain ⟨-, h⟩ := Option.ite_none_left_eq_some.1 h
    cases h
    exact ⟨rfl, rfl⟩
  cases h with
  | flags h => cases (hstart h).1
  | @group _ _ inner _ _ _ _ g h hgroup hinner hnext =>
    obtain ⟨rfl, rfl⟩ := hstart h
    obtain ⟨hsame, hended⟩ := halone.splice (.inr hr) (hinner.of_eq (Flags.skip_eq hp _))
    cases hended
    obtain ⟨hknown, hnew⟩ := hinner.names
    have hwhole : inner.whole = r.whole := by rw [hsame]; rfl
    refine ⟨inner.names, ?_, name_not_mem_of_start h rfl, hknown, fun x hx => ?_⟩
    · rw [← hwhole]
      exact hnext.of_eq (Flags.skip_eq hp _)
    · rw [← hwhole] at hx
      exact (hnew x (Progress.mem_groups_whole.1 hx)).resolve_left (List.not_mem_nil)
  | part hc => exact absurd rfl hc.2.2

/-- The text of two patterns in groups with names, one or the other. -/
def eitherText (first second cs ds : List Char) : List Char :=
  '(' :: '?' :: 'P' :: '<' :: (first ++ '>' :: (cs ++ ')' :: '|' ::
    '(' :: '?' :: 'P' :: '<' :: (second ++ '>' :: (ds ++ [')']))))

/-- Two patterns in groups with names are read as the two of them alone, each in its group, as long
as blanks and comments are not passed over at their ends. -/
theorem read?_eitherText {first second cs ds : List Char} {a b node : Node}
    (hfirst : IsName first) (hsecond : IsName second)
    (ha : Node.read? false cs = some a) (hb : Node.read? false ds = some b)
    (hcs : endsSpaced cs = false) (hds : endsSpaced ds = false)
    (h : Node.read? false (eitherText first second cs ds) = some node) :
    node = .alt (.group (some (String.ofList first)) a) (.group (some (String.ofList second)) b) ∧
      (String.ofList first ∉ a.names ∧ String.ofList second ∉ a.names) ∧
      (String.ofList first ∉ b.names ∧ String.ofList second ∉ b.names) := by
  obtain ⟨p, hp, rfl, hpend⟩ := exists_reading_of_read? ha
  obtain ⟨q, hq, rfl, hqend⟩ := exists_reading_of_read? hb
  obtain ⟨r, hr, rfl, -⟩ := exists_reading_of_read? h
  obtain ⟨names, hr, -, hknown, hnames⟩ := hr.of_named hfirst rfl hp (hpend.trans hcs)
  cases hr with
  | part hc => exact absurd rfl hc.2.1
  | next hr =>
    obtain ⟨names', hr, hnew, -, hnames'⟩ := hr.of_named hsecond rfl hq (hqend.trans hds)
    cases hr
    refine ⟨rfl, ⟨fun h => (hnames _ h).2 (by simp), fun h => hnew (hnames _ h).1⟩,
      ⟨fun h => (hnames' _ h).2 (List.mem_cons_of_mem _ (hknown (by simp))),
        fun h => (hnames' _ h).2 (by simp)⟩⟩

end ScopeLint.Pattern
