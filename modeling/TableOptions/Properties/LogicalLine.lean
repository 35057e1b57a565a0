import TableOptions.Text.Blank
import TableOptions.Text.Lines

/-!
# Logical lines

A physical line that is blank or starts with `#` or `!` after its leading blanks is skipped. Any
other line begins a logical line, which goes on with the next physical line as long as what has been
joined ends in an odd number of backslashes. The last of them is dropped, and so are the leading
blanks of the joined line.
-/

namespace TableOptions.Properties

/-- Whether a text ends in an odd number of backslashes. -/
def continues (s : List Char) : Bool :=
  (s.reverse.takeWhile (· == '\\')).length % 2 == 1

/-- Joins further physical lines to a text as long as it continues; the second part is the lines
that are left. -/
def joinLines (sofar : List Char) : List (List Char) → List Char × List (List Char)
  | [] => (if continues sofar then sofar.dropLast else sofar, [])
  | line :: rest =>
    if continues sofar then joinLines (sofar.dropLast ++ Text.trimStart line) rest
    else (sofar, line :: rest)

/-- Whether a line without its leading blanks is blank or a comment. -/
def isSkipped : List Char → Bool
  | [] => true
  | c :: _ => c == '#' || c == '!'

/-- Joining never gives back more lines than there were. -/
theorem joinLines_rest_length_le (sofar : List Char) (rest : List (List Char)) :
    (joinLines sofar rest).2.length ≤ rest.length := by
  induction rest generalizing sofar with
  | nil => simp [joinLines]
  | cons line rest ih =>
    unfold joinLines
    split
    · exact Nat.le_trans (ih _) (Nat.le_succ _)
    · exact Nat.le_refl _

/-- The logical lines of a sequence of physical lines. -/
def logicalLines : List (List Char) → List (List Char)
  | [] => []
  | line :: rest =>
    let start := Text.trimStart line
    if isSkipped start then logicalLines rest
    else (joinLines start rest).1 :: logicalLines (joinLines start rest).2
termination_by physical => physical.length
decreasing_by
  · simp
  · exact Nat.lt_succ_of_le (joinLines_rest_length_le _ _)

end TableOptions.Properties
