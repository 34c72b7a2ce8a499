import AccountRegistry.Pattern.Fault
import AccountRegistry.Text.Digits
import AccountRegistry.Text.Split

set_option autoImplicit false

/-!
# Reports of faults

The text of a fault shows the pattern with marks under what is wrong. A pattern
of several lines has its lines numbered; what is wrong over several lines is told
by their numbers.
-/
namespace AccountRegistry.Pattern
open AccountRegistry.Text

namespace Report

/-- The lines of a pattern; a carriage return before a newline belongs to it, and the end of the
pattern ends a line only if there is something on it. -/
def patternLines (pattern : String) : List String :=
  let lines := pieces '\n' pattern.toList
  let ended := lines.dropLast.map fun l => if l.getLast? = some '\r' then l.dropLast else l
  let last := lines.getLastD []
  ((if last.isEmpty then ended else ended ++ [last])).map String.ofList

/-- The number of lines on which something could be wrong: there is one after the last newline. -/
def lineCount (pattern : String) : Nat :=
  (patternLines pattern).length + if pattern.toList.getLast? = some '\n' then 1 else 0

def numberWidth (pattern : String) : Nat :=
  if lineCount pattern ≤ 1 then 0 else (Digits.write 10 (lineCount pattern)).length

def isOneLine (s : Span) : Bool := s.start.line = s.stop.line

def before (s t : Span) : Bool :=
  s.start.index < t.start.index ||
    (s.start.index = t.start.index && s.stop.index ≤ t.stop.index)

def sorted (spans : List Span) : List Span := spans.mergeSort before

def marksFrom (width : Nat) : List Span → List Char
  | [] => []
  | s :: rest =>
    let gap := s.start.column - 1 - width
    let length := max 1 (s.stop.column - s.start.column)
    List.replicate gap ' ' ++ List.replicate length '^' ++ marksFrom (width + gap + length) rest

def lineHead (width number : Nat) : String :=
  if width = 0 then "    "
  else
    let digits := Digits.write 10 number
    String.ofList (List.replicate (width - digits.length) ' ' ++ digits) ++ ": "

def shownLine (width : Nat) (spans : List Span) (line : String) (number : Nat) : List String :=
  let own := sorted (spans.filter fun s => isOneLine s && s.start.line = number)
  let head := lineHead width number
  (head ++ line) ::
    if own.isEmpty then []
    else ["".pushn ' ' head.length ++ String.ofList (marksFrom 0 own)]

def placeText (line column : Nat) : String :=
  "line " ++ Digits.decimal line ++ " (column " ++ Digits.decimal column ++ ")"

def note (s : Span) : String :=
  "on " ++ placeText s.start.line s.start.column ++ " through " ++
    placeText s.stop.line (s.stop.column - 1)

end Report

open Report in
def Fault.report (f : Fault) (pattern : String) : String :=
  let spans := f.span :: f.earlier.toList
  let width := numberWidth pattern
  let shown := ((patternLines pattern).zipIdx 1).flatMap fun (line, number) =>
    shownLine width spans line number
  let divider := "".pushn '~' 79
  let notes := (sorted (spans.filter (!isOneLine ·))).map note
  let several := pattern.toList.contains '\n'
  "\n".intercalate <|
    ["regex parse error:"] ++ (if several then [divider] else []) ++ shown ++
      (if several then divider :: notes else []) ++ ["error: " ++ f.cause.message]

end AccountRegistry.Pattern
