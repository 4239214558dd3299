import ScopeLint.Yaml.Tag
import ScopeLint.Yaml.Token

/-!
# Directives

A directive before a document gives the version of YAML or says what a handle of tags stands for.
There are no others.
-/

namespace ScopeLint.Yaml

/-- Read a number of one to nine digits. -/
def readVersionNumber? (c : Cursor) : Option (Nat × Cursor) :=
  let digits := c.rest.takeWhile Char.isDigit
  if digits.isEmpty ∨ 9 < digits.length then none
  else some (digits.foldl (fun n d => n * 10 + (d.toNat - 48)) 0, c.skip Char.isDigit)

def readVersion? (c : Cursor) : Option (Token × Cursor) := do
  let (major, c) ← readVersionNumber? c
  if c.rest.head? = some '.' then
    let (minor, c) ← readVersionNumber? c.next
    return (.version major minor, c)
  else none

/-- Read a handle and the tag it stands for. -/
def readHandleMeaning? (c : Cursor) : Option (Token × Cursor) := do
  if c.rest.head? = some '!' then
    let (handle, after) := readHandle c
    if handle = ['!'] ∨ isFullHandle handle then
      if after.rest.head?.any isBlank then
        let (tag, after) ← readSomeTagText? true (after.skip isBlank)
        if endsToken after.rest then return (.handle handle tag, after) else none
      else none
    else none
  else none

/-- Read a directive, after its sign, and the rest of its line. -/
def readDirective? (c : Cursor) : Option (Token × Cursor) := do
  let (name, after) := readName c
  if !endsToken after.rest then none
  let (token, after) ←
    if name = "YAML".toList then readVersion? (after.skip isBlank)
    else if name = "TAG".toList then readHandleMeaning? (after.skip isBlank)
    else none
  return (token, ← after.skipLine?)

end ScopeLint.Yaml
