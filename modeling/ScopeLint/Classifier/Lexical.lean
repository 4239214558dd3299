import ScopeLint.Classifier
import ScopeLint.Document
import ScopeLint.Text.Lower
import ScopeLint.Text.Number

/-!
# The lexical classifier

One pass over the text tells comments, quoted strings, inline code between backticks, operators,
variables, numbers and keyword constants from plain code.  Comments of the block kind and inline
code may run over several lines; a string ends with its line at the latest.

The pass looks at one character at a time and gives it its scope.  Where a lexeme is recognised
at its first character, the mode `held` carries its scope over the characters that remain.
-/

namespace ScopeLint.Lexical

/-- The scopes that the classifier gives below the root. -/
inductive Inner where
  | lineComment
  | blockComment
  | doubleString
  | singleString
  | inlineCode
  | operator
  | constant
  | number
  | variable
  deriving Repr, DecidableEq

def Inner.name : Inner → String
  | .lineComment => "comment.line.double-slash.ase"
  | .blockComment => "comment.block.ase"
  | .doubleString => "string.quoted.double.ase"
  | .singleString => "string.quoted.single.ase"
  | .inlineCode => "meta.embedded.inlinecode.ase"
  | .operator => "keyword.operator.aseOperator.ase"
  | .constant => "constant.language.ase"
  | .number => "constant.numeric.ase"
  | .variable => "variable.other.ase"

/-- The regions that go on over a line end. -/
inductive Region where
  | code
  | blockComment
  | inlineCode
  deriving Repr, DecidableEq

/-- What the next character belongs to: a region, or a lexeme with `left + 1` characters to
come, after which `next` goes on. -/
inductive Mode where
  | inside (region : Region)
  | held (scope : Option Inner) (left : Nat) (next : Region)
  deriving Repr, DecidableEq

/-- Carry `scope` over `count` characters. -/
def hold (scope : Option Inner) (count : Nat) (next : Region) : Mode :=
  match count with
  | 0 => .inside next
  | left + 1 => .held scope left next

def isOperatorChar (c : Char) : Bool :=
  ['+', '-', '*', '/', '=', '<', '>', '!', '&', '|', '%', '^', '~'].contains c

def isNameChar (c : Char) : Bool := Text.isAlphanumeric c || c == '_'

/-- The number of characters after an opening quote that belong to the string: up to the next
quote that no backslash precedes, or all of them.  A backslash takes the next character with
it. -/
def quotedLength (quote : Char) : List Char → Nat
  | [] => 0
  | c :: rest =>
    if c = quote then 1
    else if c = '\\' then
      match rest with
      | [] => 1
      | _ :: rest => 2 + quotedLength quote rest
    else 1 + quotedLength quote rest

def nameLength (cs : List Char) : Nat := (cs.takeWhile isNameChar).length

/-- The scope of a word in code: keywords are constants, in any capitalization. -/
def wordScope (keywords : List (List Char)) (word : List Char) : Option Inner :=
  if keywords.contains (Text.lowerChars word) then some .constant else none

/-- The scope of the character `c` in code, with `rest` after it, and what follows. -/
def codeStep (keywords : List (List Char)) (c : Char) (rest : List Char) : Option Inner × Mode :=
  if c = '/' ∧ rest.head? = some '/' then
    (some .lineComment, hold (some .lineComment) rest.length .code)
  else if c = '/' ∧ rest.head? = some '*' then
    (some .blockComment, .held (some .blockComment) 0 .blockComment)
  else if c = '\x60' then (some .inlineCode, .inside .inlineCode)
  else if c = '\x22' then
    (some .doubleString, hold (some .doubleString) (quotedLength c rest) .code)
  else if c = '\x27' then
    (some .singleString, hold (some .singleString) (quotedLength c rest) .code)
  else if c = '$' ∧ 0 < nameLength rest then
    (some .variable, hold (some .variable) (nameLength rest) .code)
  else if isOperatorChar c then (some .operator, .inside .code)
  else if c.isDigit then (some .number, hold (some .number) (nameLength rest) .code)
  else if isNameChar c then
    let scope := wordScope keywords (c :: rest.takeWhile isNameChar)
    (scope, hold scope (nameLength rest) .code)
  else (none, .inside .code)

/-- The scope of the character `c`, with `rest` after it, and what follows. -/
def step (keywords : List (List Char)) (mode : Mode) (c : Char) (rest : List Char) :
    Option Inner × Mode :=
  match mode with
  | .held scope left next => (scope, hold scope left next)
  | .inside .code => codeStep keywords c rest
  | .inside .blockComment =>
    if c = '*' ∧ rest.head? = some '/' then (some .blockComment, .held (some .blockComment) 0 .code)
    else (some .blockComment, .inside .blockComment)
  | .inside .inlineCode =>
    (some .inlineCode, .inside (if c = '\x60' then .code else .inlineCode))

/-- The region at the end of a line. -/
def Mode.region : Mode → Region
  | .inside region => region
  | .held _ _ next => next

/-- The scopes of the characters of a line, and the region that goes on after it. -/
def scopesFrom (keywords : List (List Char)) (mode : Mode) :
    List Char → List (Option Inner) × Region
  | [] => ([], mode.region)
  | c :: rest =>
    let (scope, next) := step keywords mode c rest
    let (scopes, region) := scopesFrom keywords next rest
    (scope :: scopes, region)

def scopesOf (keywords : List (List Char)) (region : Region) :
    List (List Char) → List (List (Option Inner))
  | [] => []
  | line :: lines =>
    let (scopes, region) := scopesFrom keywords (.inside region) line
    scopes :: scopesOf keywords region lines

/-- The scopes of a document, line by line. -/
def scopes (keywords : List String) (d : Document) : Array (Array (Option Inner)) :=
  ((scopesOf (keywords.map (fun k => Text.lowerChars k.toList)) .code
    (d.lines.toList.map (·.toList))).map (·.toArray)).toArray

/-- The scope below the root at a place; plain code and places outside have none. -/
def innerAt (table : Array (Array (Option Inner))) (p : Position) : Option Inner :=
  match table[p.row]? with
  | some inners => (inners[p.column]?).getD none
  | none => none

def pathAt (table : Array (Array (Option Inner))) (p : Position) : ScopePath :=
  match innerAt table p with
  | some scope => [Scope.root, scope.name]
  | none => [Scope.root]

def ofScopes (table : Array (Array (Option Inner))) : Classifier := ⟨pathAt table⟩

/-- The lexical classifier of a document; `keywords` are the constants. -/
def classifier (keywords : List String) (d : Document) : Classifier := ofScopes (scopes keywords d)

end ScopeLint.Lexical
