import ScopeLint.Yaml

/-!
# YAML tokens

The tokens of a YAML text.  Where blocks start and end and what is a key is written out: these
tokens stand for indentation and for colons further on, not for characters of their own.
-/

namespace ScopeLint.Yaml

inductive Token where
  /-- A directive that gives the version. -/
  | version (major minor : Nat)
  /-- A directive that says what a handle stands for. -/
  | handle (name : List Char) (value : Tag)
  | documentStart
  | documentEnd
  | blockSequence
  | blockMapping
  | blockEnd
  | openBracket
  | closeBracket
  | openBrace
  | closeBrace
  | comma
  /-- The sign of an item of a block sequence. -/
  | item
  | key
  | value
  | anchor (name : List Char)
  | reference (name : List Char)
  | tag (handle : List Char) (suffix : Tag)
  | scalar (style : ScalarStyle) (text : String)
  deriving Repr, DecidableEq

end ScopeLint.Yaml
