/-!
# Printed lines

What a text shows as lines once it is printed with a line end after it: it is cut at each line
feed, and a carriage return just before a line feed belongs to the line end. A carriage return
anywhere else, and every other control character, stays in its line.
-/

namespace HostInterop.Text

/-- The line without one carriage return at its end. -/
def dropReturn (line : List Char) : List Char :=
  match line.getLast? with
  | some '\r' => line.dropLast
  | _ => line

/-- The lines of `s` printed with a line end after it. -/
def printedLines (s : String) : List String :=
  (s.toList.splitOn '\n').map fun line => String.ofList (dropReturn line)

/-- The first printed line of `s`. -/
def firstLine (s : String) : String :=
  String.ofList (dropReturn (s.toList.takeWhile (· != '\n')))

end HostInterop.Text
