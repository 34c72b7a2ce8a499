import AccountRegistry.Pattern.Cursor
import AccountRegistry.Pattern.Term
import AccountRegistry.Text.Digits

set_option autoImplicit false

/-!
# Escapes in patterns

What a backslash and the characters after it stand for: a character, a class of
characters, or an assertion. Each reader here starts after the character that
has decided for it.
-/
namespace AccountRegistry.Pattern
open AccountRegistry.Text
open Reader (fail here peek atEnd skip skipSpaced spacing nextSpan runSpaced)

inductive Primitive where
  | literal (l : Literal)
  | dot (span : Span)
  | assertion (span : Span) (kind : Assertion)
  | charClass (c : CharClass)

def Primitive.span : Primitive → Span
  | .literal l => l.span
  | .dot s | .assertion s _ => s
  | .charClass c => c.span

namespace Escape

/-- Characters that mean something of their own without a backslash. -/
def isMeta (c : Char) : Bool := "\\.+*?()|[]\x7b\x7d^$#&-~".toList.contains c

def isEscapable (c : Char) : Bool :=
  isMeta c || (c.toNat < 0x80 && !c.isAlphanum && c ≠ '<' && c ≠ '>')

def isHexDigit (c : Char) : Bool := (Digits.valueIn? 16 c).isSome

def scalar (digits : List Char) (span : Span) : Reader Char :=
  match Digits.read? 16 digits with
  | some n => if n.isValidChar then return Char.ofNat n else fail .escapeHexInvalid span
  | none => fail .escapeHexInvalid span

def fixedDigits : Nat → Reader (List Char)
  | 0 => return []
  | n + 1 => do
    match ← peek with
    | none => fail .escapeUnexpectedEnd (.at (← here))
    | some c =>
      if !isHexDigit c then fail .escapeHexInvalidDigit (← nextSpan)
      else
        skipSpaced
        return c :: (← fixedDigits n)

def fixed (start : Position) (count : Nat) : Reader Literal := do
  let first ← here
  let digits ← fixedDigits count
  let stop ← here
  let c ← scalar digits ⟨first, stop⟩
  return ⟨⟨start, stop⟩, c, count = 2 && c.toNat < 0x100⟩

def braced (start brace : Position) : Reader Literal := do
  let first ← here
  spacing
  let digits ← runSpaced isHexDigit
  let stop ← here
  match ← peek with
  | none => fail .escapeUnexpectedEnd ⟨brace, stop⟩
  | some c =>
    if c ≠ '\x7d' then fail .escapeHexInvalidDigit (← nextSpan)
    else
      skipSpaced
      if digits.isEmpty then fail .escapeHexEmpty ⟨brace, ← here⟩
      else
        let c ← scalar digits ⟨first, stop⟩
        return ⟨⟨start, ← here⟩, c, false⟩

def hexadecimal (start : Position) (letter : Char) : Reader Literal := do
  spacing
  match ← peek with
  | none => fail .escapeUnexpectedEnd (.at (← here))
  | some '\x7b' =>
    let brace ← here
    skip
    braced start brace
  | some _ => fixed start (if letter = 'x' then 2 else if letter = 'u' then 4 else 8)

def property (start : Position) (negated : Bool) : Reader CharClass := do
  spacing
  match ← peek with
  | none => fail .escapeUnexpectedEnd (.at (← here))
  | some '\x7b' =>
    skipSpaced
    let query ← runSpaced (· ≠ '\x7d')
    if ← atEnd then fail .escapeUnexpectedEnd (.at (← here))
    else
      skip
      return .property ⟨start, ← here⟩ negated (String.ofList query)
  | some c =>
    if c = '\\' then fail .propertyInvalid (← nextSpan)
    else
      skipSpaced
      return .property ⟨start, ← here⟩ negated (String.singleton c)

def perlClass? (c : Char) : Option PerlClass :=
  match c.toLower with
  | 'd' => some .digit
  | 's' => some .space
  | 'w' => some .word
  | _ => none

/-- A word boundary of a special kind, which its name in braces tells. Anything else in braces is
left to be read as a repetition. -/
def wordBoundary (start : Position) : Reader Primitive := do
  let plain : Primitive := .assertion ⟨start, ← here⟩ .wordBoundary
  if (← peek) ≠ some '\x7b' then return plain
  let brace ← here
  let isNameChar (c : Char) : Bool := c.isAlpha || c = '-'
  let name : Reader (Option (Position × List Char)) := do
    skipSpaced
    let first ← here
    match ← peek with
    | none => fail .wordBoundaryUnexpectedEnd ⟨start, first⟩
    | some c => if isNameChar c then return some (first, ← runSpaced isNameChar) else return none
  fun c =>
    match name c with
    | .error e => .error e
    | .ok (none, _) => .ok (plain, c.itself)
    | .ok (some (first, letters), d) =>
      let close : Reader Primitive := do
        let stop ← here
        if (← peek) ≠ some '\x7d' then fail .wordBoundaryUnclosed ⟨brace, stop⟩
        else
          skip
          let span : Span := ⟨start, ← here⟩
          match String.ofList letters with
          | "start" => return .assertion span .wordStart
          | "end" => return .assertion span .wordEnd
          | "start-half" => return .assertion span .wordStartHalf
          | "end-half" => return .assertion span .wordEndHalf
          | _ => fail .wordBoundaryUnrecognized ⟨first, stop⟩
      match close d.val with
      | .error e => .error e
      | .ok (p, e) => .ok (p, c.onward d e)

def control? : Char → Option Char
  | 'a' => some '\x07'
  | 'f' => some '\x0c'
  | 't' => some '\t'
  | 'n' => some '\n'
  | 'r' => some '\r'
  | 'v' => some '\x0b'
  | _ => none

def assertion? : Char → Option Assertion
  | 'A' => some .textStart
  | 'z' => some .textEnd
  | 'B' => some .notWordBoundary
  | '<' => some .wordStart
  | '>' => some .wordEnd
  | _ => none

def single (span : Span) (c : Char) : Reader Primitive :=
  if isEscapable c then return .literal ⟨span, c, false⟩
  else
    match control? c, assertion? c with
    | some control, _ => return .literal ⟨span, control, false⟩
    | none, some kind => return .assertion span kind
    | none, none => fail .escapeUnrecognized span

end Escape

def escape (start : Position) : Reader Primitive := do
  match ← peek with
  | none => fail .escapeUnexpectedEnd ⟨start, ← here⟩
  | some c =>
    skip
    let span : Span := ⟨start, ← here⟩
    if c.isDigit then fail .backreference span
    else if c = 'x' ∨ c = 'u' ∨ c = 'U' then return .literal (← Escape.hexadecimal start c)
    else if c = 'p' ∨ c = 'P' then return .charClass (← Escape.property start (c = 'P'))
    else if c = 'b' then Escape.wordBoundary start
    else
      match Escape.perlClass? c with
      | some kind => return .charClass (.perl span c.isUpper kind)
      | none => Escape.single span c

end AccountRegistry.Pattern
