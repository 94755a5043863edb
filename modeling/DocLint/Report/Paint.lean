/-!
# Colored text

Text for a terminal is colored by an escape sequence in front of it and one
behind it that takes the color back.
-/

namespace DocLint

/-- How a text is shown. -/
inductive Paint
  | bold
  | dimmed
  | red
  | green
  | yellow
  | blue
  | boldCyan
  deriving DecidableEq, Repr

namespace Paint

/-- The number that stands for a way to show text. -/
def code : Paint → String
  | .bold => "1"
  | .dimmed => "2"
  | .red => "31"
  | .green => "32"
  | .yellow => "33"
  | .blue => "34"
  | .boldCyan => "1;36"

/-- The sequence that takes every color back. -/
def reset : String := "\x1b[0m"

/-- A text with a color, if colors are wanted.  Where the text itself takes
colors back, its own is set again. -/
def apply (paint : Paint) (color : Bool) (text : String) : String :=
  if color then
    let start := "\x1b[" ++ paint.code ++ "m"
    start ++ text.replace reset (reset ++ start) ++ reset
  else text

end Paint
end DocLint
