set_option autoImplicit false

/-!
# Control sequences

What a terminal would take for commands, and a text without it. A sequence starts
with an escape and ends as its kind demands; controls outside of sequences are
dropped too, white space excepted. White space inside a short sequence is text,
and so is all that follows it up to the next control, which is then taken as if
the sequence were still going on.
-/
namespace AccountRegistry.Text.ControlSequence

/-- What the last characters have opened. -/
inductive Mode where
  | ground
  | escape
  | escapeIntermediate
  | control
  | deviceEntry
  | deviceParameters
  | deviceIntermediate
  /-- A string that ends at the byte 0x9C. -/
  | string
  /-- A string that ends at the bell. -/
  | command
deriving DecidableEq, Repr

def isBetween (first last : Nat) (c : Char) : Bool := first ≤ c.toNat && c.toNat ≤ last

def isAscii (c : Char) : Bool := c.toNat < 0x80

def isKeptSpace (c : Char) : Bool :=
  c = ' ' || c = '\t' || c = '\n' || c = '\x0c' || c = '\r'

def Mode.keepsSpace : Mode → Bool
  | .ground | .escape | .escapeIntermediate | .control => true
  | _ => false

def opened (c : Char) : Mode :=
  if c = '[' then .control
  else if c = ']' then .command
  else if c = 'P' then .deviceEntry
  else if c = 'X' ∨ c = '^' ∨ c = '_' then .string
  else if isBetween 0x20 0x2F c then .escapeIntermediate
  else .ground

def Mode.afterGraphic (c : Char) : Mode → Mode
  | .ground => .ground
  | .escape => opened c
  | .escapeIntermediate => if isBetween 0x20 0x2F c then .escapeIntermediate else .ground
  | .control => if isBetween 0x20 0x3F c then .control else .ground
  | .deviceEntry =>
    if isBetween 0x20 0x2F c then .deviceIntermediate
    else if isBetween 0x30 0x3F c then .deviceParameters
    else .string
  | .deviceParameters =>
    if isBetween 0x20 0x2F c then .deviceIntermediate
    else if isBetween 0x30 0x3B c then .deviceParameters
    else .string
  | .deviceIntermediate => if isBetween 0x20 0x2F c then .deviceIntermediate else .string
  | .string => .string
  | .command => .command

/-- Whether 0x9C is one of the bytes of a character beyond ASCII. -/
def holdsTerminator (c : Char) : Bool := (String.singleton c).toUTF8.toList.contains 0x9C

def Mode.after (c : Char) (m : Mode) : Mode :=
  if c = '\x1b' then .escape
  else if c = '\x18' ∨ c = '\x1a' then .ground
  else if !isAscii c then if m = .string ∧ holdsTerminator c then .ground else m
  else if c = '\x07' ∧ m = .command then .ground
  else if isBetween 0x20 0x7E c then m.afterGraphic c
  else m

def Mode.keeps (c : Char) (m : Mode) : Bool :=
  if isAscii c then
    if isBetween 0x20 0x7E c then m = .ground else isKeptSpace c && m.keepsSpace
  else m = .ground

/-- A character that is text whatever came before it, once text is being taken. -/
def isText (c : Char) : Bool := !isAscii c || isBetween 0x20 0x7E c || isKeptSpace c

structure Scan where
  mode : Mode
  inText : Bool
deriving DecidableEq, Repr

namespace Scan

def start : Scan := ⟨.ground, false⟩

/-- Text beyond ASCII ends what a sequence had opened. -/
def next (c : Char) (s : Scan) : Scan × Bool :=
  if s.inText && isText c then (if isAscii c then s else ⟨.ground, true⟩, true)
  else (⟨s.mode.after c, s.mode.keeps c⟩, s.mode.keeps c)

end Scan

def dropFrom (s : Scan) : List Char → List Char
  | [] => []
  | c :: cs =>
    let (s, kept) := s.next c
    if kept then c :: dropFrom s cs else dropFrom s cs

end AccountRegistry.Text.ControlSequence

namespace AccountRegistry.Text

def withoutControls (s : String) : String :=
  String.ofList (ControlSequence.dropFrom .start s.toList)

end AccountRegistry.Text
