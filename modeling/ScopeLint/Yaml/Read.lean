import ScopeLint.Yaml.Anchors
import ScopeLint.Yaml.Token.Read

/-!
# Reading YAML

The tokens of a text are put together to one document.  The collections that are open at a token
are kept in a list, the innermost first, so nesting may be of any depth.
-/

namespace ScopeLint.Yaml

/-- How a sequence is written: as an indented block, as a block that is not indented more than the
key it belongs to, or in brackets. -/
inductive SequenceForm where
  | block
  | loose
  | brackets
  deriving DecidableEq

/-- How a mapping is written: as a block, in braces, or as a single entry among the items of a
sequence in brackets. -/
inductive MappingForm where
  | block
  | braces
  | single
  deriving DecidableEq

/-- Which part of a mapping comes next: a key, a key that can have no value, or a value. -/
inductive Part where
  | key
  | loneKey
  | value (key : Yaml)

/-- A collection that is not complete, its last part first. -/
inductive Unfinished where
  | sequence (form : SequenceForm) (items : List Yaml)
  | mapping (form : MappingForm) (entries : List (Yaml × Yaml)) (part : Part)

namespace Unfinished

/-- The collection as far as it goes. -/
def node : Unfinished → Yaml
  | .sequence _ items => .sequence items.reverse
  | .mapping _ entries _ => .mapping entries.reverse

/-- Add the next node.  True if the collection is complete then. -/
def add (node : Yaml) : Unfinished → Unfinished × Bool
  | .sequence form items => (.sequence form (node :: items), false)
  | .mapping form entries .key => (.mapping form entries (.value node), false)
  | .mapping form entries .loneKey => (.mapping form ((node, empty) :: entries) .key, false)
  | .mapping form entries (.value key) =>
    (.mapping form ((key, node) :: entries) .key, form == .single)

end Unfinished

/-- How a collection goes on. -/
inductive Turn where
  /-- A node comes; in a block it may be one, or a sequence that is not indented. -/
  | node (inBlock mayBeLoose : Bool)
  /-- A node is left out. -/
  | nothing
  /-- A single entry comes. -/
  | single
  /-- The collection is complete. -/
  | complete

/-- Where one of the tokens `ends` follows, a node is left out; otherwise one comes. -/
def nodeBefore (ends : List Token) (turn : Turn) (tokens : List Token) : Turn :=
  if tokens.head?.any ends.contains then .nothing else turn

namespace Unfinished

/-- Go on with a block or loose sequence. -/
def nextItem? (form : SequenceForm) (items : List Yaml) (tokens : List Token) :
    Option (Unfinished × Turn × List Token) :=
  let here : Unfinished := .sequence form items
  let ends := if form = .block then [.item, .blockEnd] else [.item, .key, .value, .blockEnd]
  match tokens with
  | .item :: rest => some (here, nodeBefore ends (.node true false) rest, rest)
  | .blockEnd :: rest =>
    if form = .block then some (here, .complete, rest) else some (here, .complete, tokens)
  | _ => if form = .block then none else some (here, .complete, tokens)

/-- Go on with a sequence in brackets, past the comma. -/
def nextInBrackets (items : List Yaml) (tokens : List Token) : Unfinished × Turn × List Token :=
  let here : Unfinished := .sequence .brackets items
  match tokens with
  | .closeBracket :: rest => (here, .complete, rest)
  | .key :: rest => (here, .single, rest)
  | _ => (here, .node false false, tokens)

/-- Go on with a mapping in braces, past the comma. -/
def nextInBraces (entries : List (Yaml × Yaml)) (tokens : List Token) :
    Unfinished × Turn × List Token :=
  match tokens with
  | .closeBrace :: rest => (.mapping .braces entries .key, .complete, rest)
  | .key :: rest =>
    (.mapping .braces entries .key,
      nodeBefore [.value, .comma, .closeBrace] (.node false false) rest, rest)
  | _ => (.mapping .braces entries .loneKey, .node false false, tokens)

/-- Pass over the comma that has to follow all parts but the last. -/
def passComma? (isFirst : Bool) (close : Token) (tokens : List Token) : Option (List Token) :=
  match tokens with
  | .comma :: rest => if isFirst then some tokens else some rest
  | t :: _ => if isFirst || t == close then some tokens else none
  | [] => none

/-- Go on with the value of a key: there is one if its sign stands here. -/
def nextValue (here : Unfinished) (ends : List Token) (turn : Turn) (tokens : List Token) :
    Unfinished × Turn × List Token :=
  match tokens with
  | .value :: rest => (here, nodeBefore ends turn rest, rest)
  | _ => (here, .nothing, tokens)

def next? (tokens : List Token) : Unfinished → Option (Unfinished × Turn × List Token)
  | .sequence .brackets items =>
    (passComma? items.isEmpty .closeBracket tokens).map (nextInBrackets items)
  | .sequence form items => nextItem? form items tokens
  | .mapping .block entries (.value key) =>
    some (nextValue (.mapping .block entries (.value key)) [.key, .value, .blockEnd]
      (.node true true) tokens)
  | .mapping .braces entries (.value key) =>
    some (nextValue (.mapping .braces entries (.value key)) [.comma, .closeBrace]
      (.node false false) tokens)
  | .mapping .single entries (.value key) =>
    some (nextValue (.mapping .single entries (.value key)) [.comma, .closeBracket]
      (.node false false) tokens)
  | .mapping .block entries _ =>
    match tokens with
    | .key :: rest =>
      some (.mapping .block entries .key,
        nodeBefore [.key, .value, .blockEnd] (.node true true) rest, rest)
    | .blockEnd :: rest => some (.mapping .block entries .key, .complete, rest)
    | _ => none
  | .mapping .braces entries _ =>
    (passComma? entries.isEmpty .closeBrace tokens).map (nextInBraces entries)
  | .mapping .single entries _ =>
    let here : Unfinished := .mapping .single entries .key
    match nodeBefore [.value, .comma, .closeBracket] (.node false false) tokens with
    | .nothing => some (here, .nothing, tokens.tail)
    | turn => some (here, turn, tokens)

end Unfinished

/-- The handles that need no directive. -/
def knownHandles : List (List Char × Tag) :=
  [(['!'], [some '!']), (['!', '!'], "tag:yaml.org,2002:".toList.map some)]

/-- The tag that a handle and a suffix make. -/
def expandTag? (handles : List (List Char × Tag)) (handle : List Char) (suffix : Tag) :
    Option Tag :=
  if handle.isEmpty then some suffix else (handles.lookup handle).map (· ++ suffix)

/-- What may stand before a node, in either order: an anchor and a tag. -/
structure Properties where
  anchor? : Option (List Char) := none
  tag? : Option (List Char × Tag) := none

/-- Take the anchor and the tag from the front. -/
def Properties.take : List Token → Properties × List Token
  | .anchor name :: .tag handle suffix :: rest => (⟨some name, some (handle, suffix)⟩, rest)
  | .anchor name :: rest => (⟨some name, none⟩, rest)
  | .tag handle suffix :: .anchor name :: rest => (⟨some name, some (handle, suffix)⟩, rest)
  | .tag handle suffix :: rest => (⟨none, some (handle, suffix)⟩, rest)
  | tokens => ({}, tokens)

/-- A document that is not complete. -/
structure Assembly where
  handles : List (List Char × Tag)
  anchors : Anchors := {}
  /-- The open collections, the innermost first, with their anchors. -/
  stack : List (Unfinished × Option Anchor) := []
  /-- The outermost node, once it is complete. -/
  root? : Option Yaml := none

namespace Assembly

/-- Add a complete node to the innermost collection, and that one, if it is complete now, to the
next. -/
def addTo (node : Yaml) :
    List (Unfinished × Option Anchor) → List (Unfinished × Option Anchor) × Option Yaml
  | [] => ([], some node)
  | (collection, anchor) :: rest =>
    let (collection, complete) := collection.add node
    if complete then addTo collection.node rest else ((collection, anchor) :: rest, none)

/-- Add a complete node with its anchor. -/
def add (a : Assembly) (node : Yaml) (anchor : Option Anchor) : Assembly :=
  let (stack, root?) := addTo node a.stack
  { a with anchors := a.anchors.complete anchor node, stack, root? }

def enter (a : Assembly) (collection : Unfinished) (anchor : Option Anchor) : Assembly :=
  { a with stack := (collection, anchor) :: a.stack }

/-- Read the start of a node after its anchor and its tag: a scalar, or the start of a collection.
With one of the two, the scalar may be missing. -/
def readContent? (a : Assembly) (inBlock mayBeLoose : Bool) (anchor : Option Anchor)
    (tag : Option Tag) (tokens : List Token) : Option (Assembly × List Token) :=
  let missing : Option (Assembly × List Token) :=
    if anchor.isSome ∨ tag.isSome then some (a.add (.scalar .plain tag "") anchor, tokens) else none
  match tokens with
  | .item :: _ =>
    if mayBeLoose then some (a.enter (.sequence .loose []) anchor, tokens) else missing
  | .scalar style text :: rest =>
    let tag := if tag = some [some '!'] then none else tag
    some (a.add (.scalar style tag text) anchor, rest)
  | .openBracket :: rest => some (a.enter (.sequence .brackets []) anchor, rest)
  | .openBrace :: rest => some (a.enter (.mapping .braces [] .key) anchor, rest)
  | .blockSequence :: rest =>
    if inBlock then some (a.enter (.sequence .block []) anchor, rest) else missing
  | .blockMapping :: rest =>
    if inBlock then some (a.enter (.mapping .block [] .key) anchor, rest) else missing
  | _ => missing

def readNode? (a : Assembly) (inBlock mayBeLoose : Bool) (tokens : List Token) :
    Option (Assembly × List Token) := do
  match tokens with
  | .reference name :: rest => return (a.add (.reference (← a.anchors.number? name)) none, rest)
  | _ =>
    let (properties, rest) := Properties.take tokens
    let tag ← match properties.tag? with
      | some (handle, suffix) => (expandTag? a.handles handle suffix).map some
      | none => some none
    match properties.anchor? with
    | some name =>
      let (anchor, anchors) := a.anchors.meet name
      { a with anchors }.readContent? inBlock mayBeLoose (some anchor) tag rest
    | none => a.readContent? inBlock mayBeLoose none tag rest

/-- Go on with the innermost collection. -/
def resume? (a : Assembly) (tokens : List Token) : Option (Assembly × List Token) := do
  match a.stack with
  | [] => none
  | (collection, anchor) :: outer =>
    let (collection, turn, rest) ← collection.next? tokens
    let here := { a with stack := (collection, anchor) :: outer }
    match turn with
    | .node inBlock mayBeLoose => here.readNode? inBlock mayBeLoose rest
    | .nothing => return (here.add empty none, rest)
    | .single => return (here.enter (.mapping .single [] .key) none, rest)
    | .complete => return ({ a with stack := outer }.add collection.node anchor, rest)

/-- Go on until the document is complete, in at most `fuel` steps. -/
def finish? : (fuel : Nat) → Assembly → List Token → Option (Document × List Token)
  | 0, _, _ => none
  | fuel + 1, a, tokens =>
    match a.root? with
    | some root => some (⟨root, a.anchors.table⟩, tokens)
    | none => (a.resume? tokens).bind (fun (a, rest) => finish? fuel a rest)

/-- Read the node of a document.  No token takes part in more than four steps. -/
def readRoot? (a : Assembly) (tokens : List Token) : Option (Document × List Token) := do
  let (a, rest) ← a.readNode? true false tokens
  a.finish? (4 * tokens.length + 4) rest

end Assembly

/-- Read the directives of a document: at most one version, which has to be 1.1 or 1.2, and what
handles stand for, each handle once. -/
def readDirectives? (version : Bool) (handles : List (List Char × Tag)) :
    List Token → Option (List (List Char × Tag) × List Token)
  | .version major minor :: rest =>
    if !version ∧ major = 1 ∧ (minor = 1 ∨ minor = 2) then readDirectives? true handles rest
    else none
  | .handle name value :: rest =>
    if handles.any (fun h => h.1 == name) then none
    else readDirectives? version ((name, value) :: handles) rest
  | tokens => some (handles, tokens)

/-- Is there no node before these tokens? -/
def endsDocument : List Token → Bool
  | [] => true
  | .version _ _ :: _ => true
  | .handle _ _ :: _ => true
  | .documentStart :: _ => true
  | .documentEnd :: _ => true
  | _ => false

/-- Read a document from its start sign or its directives on. -/
def readMarked? (tokens : List Token) : Option (Document × List Token) := do
  let (handles, rest) ← readDirectives? false [] tokens
  match rest with
  | .documentStart :: rest =>
    if endsDocument rest then return (⟨empty, #[]⟩, rest)
    else Assembly.readRoot? { handles := handles ++ knownHandles } rest
  | _ => none

def readDocument? (tokens : List Token) : Option (Document × List Token) :=
  match tokens with
  | [] => some (⟨empty, #[]⟩, [])
  | .documentEnd :: _ => none
  | _ =>
    if endsDocument tokens then readMarked? tokens
    else Assembly.readRoot? { handles := knownHandles } tokens

/-- Read a text as one YAML document, after which only end signs may come. -/
def read? (text : String) : Option Document := do
  let (document, rest) ← readDocument? (← Token.read? text.toList)
  if rest.all (· == .documentEnd) then return document else none

end ScopeLint.Yaml
