import AccountRegistry.Pattern.Cursor
import AccountRegistry.Pattern.Term
import AccountRegistry.Text.Alphabetic

set_option autoImplicit false

/-!
# Heads of groups

What follows an opening parenthesis: nothing, for a group that captures; a name;
or flags, which hold for the group alone or for all that follows them.
-/
namespace AccountRegistry.Pattern
open AccountRegistry.Text
open Reader (fail here peek atEnd skip spacing nextSpan run literally)
open Reader.Round (next done)

inductive GroupHead where
  | capturing
  | named (name : String) (span : Span)
  | flagged (flags : Flags)
  | setting (flags : Flags)

namespace GroupHead

def flag? : Char → Option Flag
  | 'i' => some .caseInsensitive
  | 'm' => some .multiLine
  | 's' => some .dotMatchesNewLine
  | 'U' => some .swapGreed
  | 'u' => some .unicode
  | 'R' => some .crlf
  | 'x' => some .ignoreWhitespace
  | _ => none

/-- Flags with the places where they stand. -/
abbrev Placed := List (FlagItem × Span)

def addItem (item : FlagItem) (span : Span) (placed : Placed) : Reader Placed := fun c =>
  match placed.lookup item with
  | none => .ok (placed ++ [(item, span)], c.itself)
  | some earlier =>
    let cause := if item = .negation then .flagRepeatedNegation else .flagDuplicate
    .error ⟨cause, span, some earlier⟩

def endFlags {α : Type} (placed : Placed) (result : Flags → Reader α) : Reader α :=
  match placed.getLast? with
  | some (.negation, span) => fail .flagDanglingNegation span
  | _ => result (placed.map Prod.fst)

def flags (start : Position) : Reader GroupHead :=
  Reader.rounds (σ := Placed)
    (fun placed c span =>
      if c = ':' then endFlags placed fun flags => return done (.flagged flags)
      else if c = ')' then endFlags placed fun flags =>
        if flags.isEmpty then fail .repetitionMissing (.at start) else return done (.setting flags)
      else if c = '-' then do return next (← addItem .negation span placed)
      else
        match flag? c with
        | some f => do return next (← addItem (.flag f) span placed)
        | none => fail .flagUnrecognized span)
    (fun _ => do fail .flagUnexpectedEnd (.at (← here))) []

def isNameStart (c : Char) : Bool := c = '_' || isAlphabetic c

def isNameChar (c : Char) : Bool :=
  c = '_' || c = '.' || c = '[' || c = ']' || isAlphabetic c || isNumeric c

def name : Reader GroupHead := do
  let start ← here
  let first ← peek
  if first.any (· ≠ '>') && !first.any isNameStart then fail .groupNameInvalid (← nextSpan)
  let letters ← run fun c => isNameChar c
  let stop ← here
  match ← peek with
  | none => fail .groupNameUnexpectedEnd (.at stop)
  | some c =>
    if c ≠ '>' then fail .groupNameInvalid (← nextSpan)
    else
      skip
      if letters.isEmpty then fail .groupNameEmpty (.at start)
      else return .named (String.ofList letters) ⟨start, stop⟩

def anyOf : List String → Reader Bool
  | [] => return false
  | s :: rest => do if ← literally s then return true else anyOf rest

def read (parenthesis : Span) : Reader GroupHead := do
  spacing
  if ← anyOf ["?=", "?!", "?<=", "?<!"] then
    fail .lookAround ⟨parenthesis.start, ← here⟩
  let start ← here
  if ← anyOf ["?P<", "?<"] then name
  else if ← literally "?" then
    if ← atEnd then fail .groupUnclosed parenthesis else flags start
  else return .capturing

end GroupHead
end AccountRegistry.Pattern
