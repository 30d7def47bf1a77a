import BrailleShare.Text.Blank

/-!
# Lines

A text as lines. A line ends before a line feed, and a carriage return right before the line feed
belongs to the end too.
-/

namespace BrailleShare.Text

/-- A line without the carriage return at its end. -/
def withoutReturn (line : List Char) : List Char :=
  if line.getLast? = some '\r' then line.dropLast else line

/-- The first line of a text. -/
def firstLine (s : String) : String :=
  String.ofList (withoutReturn (s.toList.takeWhile (· != '\n')))

/-- The lines of a text without blanks around them. -/
def trimmedLines (s : String) : List String :=
  (s.splitOn "\n").map fun line => String.ofList (trim line.toList)

end BrailleShare.Text
