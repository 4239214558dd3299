import ScopeLint.Document
import ScopeLint.Severity

/-!
# Diagnostics

A finding with its span, and a suggested replacement where the message ends with one.  A sink
collects the diagnostics of one document: what it is given as a place may be a span, a bare row
and column, or a stretch of a row, and it becomes a span of the document before it is stored.
-/

namespace ScopeLint

/-- The words after which a message carries its suggestion. -/
def suggestionMarker : String := "Did you mean: "

/-- What a message suggests: the text after the last marker without outer blanks, if any is
left. -/
def suggestionIn (message : String) : Option String :=
  match Text.afterLast suggestionMarker.toList message.toList with
  | some rest =>
    match Text.trimChars rest with
    | [] => none
    | chars => some (String.ofList chars)
  | none => none

/-- A finding. -/
structure Diagnostic where
  rule : String
  severity : Severity
  message : String
  span : Span
  /-- Replacement text for the span. -/
  suggestion : Option String
  deriving Repr, DecidableEq

/-- A finding whose suggestion is read off its message. -/
def Diagnostic.ofMessage (rule : String) (severity : Severity) (message : String) (span : Span) :
    Diagnostic :=
  { rule, severity, message, span, suggestion := suggestionIn message }

/-- Where a diagnostic is to be drawn. -/
inductive Anchor where
  | span (s : Span)
  /-- A row and a column; the extent is inferred. -/
  | point (row column : Nat)
  /-- Part of a row. -/
  | stretch (row first last : Nat)
  deriving Repr, DecidableEq

/-- The span of an anchor in a document.  A stretch that ends in column 0 has no usable end and
is taken as a point. -/
def Anchor.resolve (d : Document) : Anchor → Except LintError Span
  | .span s => d.checkSpan s
  | .point row column => d.inferSpan row column
  | .stretch row first 0 => d.inferSpan row first
  | .stretch row first (last + 1) => d.checkSpan (Span.onRow row first (last + 1))

def Diagnostic.report (d : Document) (rule : String) (severity : Severity) (message : String)
    (anchor : Anchor) : Except LintError Diagnostic := do
  return Diagnostic.ofMessage rule severity message (← anchor.resolve d)

/-- The diagnostics collected for one document. -/
structure Sink where
  document : Document
  diagnostics : List Diagnostic

namespace Sink

def empty (d : Document) : Sink := ⟨d, []⟩

/-- Add one diagnostic at the end. -/
def add (s : Sink) (rule : String) (severity : Severity) (message : String) (anchor : Anchor) :
    Except LintError Sink := do
  return { s with
    diagnostics := s.diagnostics ++ [← Diagnostic.report s.document rule severity message anchor] }

def size (s : Sink) : Nat := s.diagnostics.length

end Sink

end ScopeLint
