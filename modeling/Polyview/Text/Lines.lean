/-!
# The lines of a text

A line ends at a line feed, which takes one carriage return directly before it along. Text after the
last line feed is a line of its own, and a carriage return alone ends nothing.
-/

namespace Polyview.Text

/-- A line that a line feed ended, without the carriage return directly before that line feed. -/
def withoutReturn (line : List Char) : List Char :=
  if line.getLast? = some '\r' then line.dropLast else line

/-- The lines of a text whose first line starts with `begun`, which is given backwards. -/
def linesFrom (begun : List Char) : List Char → List (List Char)
  | [] => if begun.isEmpty then [] else [begun.reverse]
  | c :: rest =>
      if c = '\n' then
        withoutReturn begun.reverse :: linesFrom [] rest
      else
        linesFrom (c :: begun) rest

/-- The lines of a text. -/
def lines (text : List Char) : List (List Char) := linesFrom [] text

end Polyview.Text
