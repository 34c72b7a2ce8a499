import AccountRegistry.Text.ControlSequence
import AccountRegistry.Text.Split

set_option autoImplicit false

/-!
# Log records

A record has a level, the name of the part that speaks, and a message. As text a
record may take several lines; all but the first start with four blanks. What is
written of a record is its text without anything that would command a terminal.
-/
namespace AccountRegistry.Log
open AccountRegistry.Text

inductive Level where
  | error
  | warn
  | info
  | debug
  | trace
deriving DecidableEq, Repr

def Level.verbosity : Level → Nat
  | .error => 1
  | .warn => 2
  | .info => 3
  | .debug => 4
  | .trace => 5

def Level.name : Level → String
  | .error => "ERROR"
  | .warn => "WARN"
  | .info => "INFO"
  | .debug => "DEBUG"
  | .trace => "TRACE"

def Level.column (l : Level) : String := l.name ++ "".pushn ' ' (5 - l.name.length)

structure Record where
  level : Level
  target : String
  message : String
deriving DecidableEq, Repr

namespace Record

def brief (r : Record) : String := r.level.name ++ " " ++ r.message

def head (r : Record) : String := "[" ++ r.level.column ++ " " ++ r.target ++ "] "

def continuation : String := "    "

def lines (r : Record) : List String :=
  match piecesOf '\n' r.message with
  | [] => [r.head]
  | first :: rest => (r.head ++ first) :: rest.map (continuation ++ ·)

def text (r : Record) : String := "\n".intercalate r.lines ++ "\n"

def written (r : Record) : String := withoutControls r.text

end Record
end AccountRegistry.Log
