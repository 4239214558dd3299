/-!
# Colours

Colour codes are written around a text: an escape sequence that switches the colour on, and one
that resets it.  A reset inside the text would end the colour too early, so the colour is
switched on again after each of them.
-/

namespace ScopeLint

/-- The looks that output uses. -/
inductive Look where
  | boldRed
  | boldYellow
  | boldGreen
  | bold
  | red
  | yellow
  | blue
  | cyan
  | underline
  deriving Repr, DecidableEq

namespace Look

/-- The numbers of a look's escape sequence. -/
def code : Look → String
  | .boldRed => "1;31"
  | .boldYellow => "1;33"
  | .boldGreen => "1;32"
  | .bold => "1"
  | .red => "31"
  | .yellow => "33"
  | .blue => "34"
  | .cyan => "36"
  | .underline => "4"

/-- The sequence that switches the look on. -/
def start (look : Look) : String := "\x1b[" ++ look.code ++ "m"

/-- The sequence that switches all looks off. -/
def reset : String := "\x1b[0m"

/-- Switch the look on again after each reset. -/
def resume (start : List Char) : List Char → List Char
  | [] => []
  | '\x1b' :: '[' :: '0' :: 'm' :: rest =>
    '\x1b' :: '[' :: '0' :: 'm' :: (start ++ resume start rest)
  | c :: rest => c :: resume start rest

def paint (look : Look) (text : String) : String :=
  look.start ++ String.ofList (resume look.start.toList text.toList) ++ reset

/-- The text in a look, or as it is where colours are off. -/
def paintIf (on : Bool) (look : Look) (text : String) : String :=
  if on then look.paint text else text

end Look

end ScopeLint
