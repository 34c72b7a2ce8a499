import AccountRegistry.Pattern.Escape

set_option autoImplicit false

/-!
# Classes in brackets

Characters, ranges and classes between brackets, which may be nested, negated and
combined. All combinations bind alike, from the left, and less than putting parts
next to each other.
-/
namespace AccountRegistry.Pattern
open Reader (fail here peek peekPast atEnd skip skipSpaced spacing nextSpan)
open Reader.Round (next done)

namespace Bracket

/-- Parts next to each other, the last first, from where they start. -/
structure Union where
  start : Position
  parts : List CharClass

def Union.from (p : Position) : Union := ⟨p, []⟩

def Union.push (u : Union) (part : CharClass) : Union :=
  ⟨if u.parts.isEmpty then part.span.start else u.start, part :: u.parts⟩

def Union.stop (u : Union) : Position :=
  match u.parts with
  | [] => u.start
  | last :: _ => last.span.stop

def Union.class (u : Union) : CharClass :=
  match u.parts with
  | [] => .empty (.at u.start)
  | [part] => part
  | parts => .union ⟨u.start, u.stop⟩ parts.reverse

structure Opened where
  outside : Union
  head : Span
  negated : Bool
  /-- The left side of a combination whose right side is being read. -/
  left : Option (CharClass × SetOperation)

structure State where
  inner : Opened
  outer : List Opened
  union : Union

namespace State

/-- What has been read of the innermost bracket, if it were to end here. -/
def whole (s : State) : CharClass :=
  match s.inner.left with
  | none => s.union.class
  | some (left, operation) =>
    let right := s.union.class
    .combination ⟨left.span.start, right.span.stop⟩ operation left right

def push (s : State) (part : CharClass) : State := { s with union := s.union.push part }

def combine (operation : SetOperation) (p : Position) (s : State) : State :=
  { s with inner := { s.inner with left := some (s.whole, operation) }, union := .from p }

def unclosed {α : Type} (s : State) : Reader α := fail .classUnclosed s.inner.head

end State

def leadingHyphens (start : Position) : Reader Union := do
  let union := Union.from (← here)
  let hyphens ← Reader.runWithSpans (· = '-')
  if !hyphens.isEmpty && (← atEnd) then fail .classUnclosed (.at start)
  else return hyphens.foldl (fun u (c, span) => u.push (.literal ⟨span, c, false⟩)) union

/-- Opens a bracket up to its first part. A closing bracket at the front stands for itself. -/
def opening (start : Position) (outside : Union) : Reader (Opened × Union) := do
  let goOn {α : Type} (r : Reader α) : Reader α := do
    if ← atEnd then fail .classUnclosed ⟨start, ← here⟩ else r
  spacing
  goOn do
    let negated := (← peek) = some '^'
    if negated then skipSpaced
    goOn do
      let union ← leadingHyphens start
      if union.parts.isEmpty ∧ (← peek) = some ']' then
        let span ← nextSpan
        skipSpaced
        goOn do
          return (⟨outside, ⟨start, ← here⟩, negated, none⟩,
            union.push (.literal ⟨span, ']', false⟩))
      else return (⟨outside, ⟨start, ← here⟩, negated, none⟩, union)

def asciiClass? : List Char → Option AsciiClass := fun cs =>
  match String.ofList cs with
  | "alnum" => some .alnum
  | "alpha" => some .alpha
  | "ascii" => some .ascii
  | "blank" => some .blank
  | "cntrl" => some .cntrl
  | "digit" => some .digit
  | "graph" => some .graph
  | "lower" => some .lower
  | "print" => some .print
  | "punct" => some .punct
  | "space" => some .space
  | "upper" => some .upper
  | "word" => some .word
  | "xdigit" => some .xdigit
  | _ => none

def named? : List Char → Option (Bool × AsciiClass × Nat)
  | ':' :: cs =>
    let negated := cs.head? = some '^'
    let sign := if negated then 1 else 0
    let name := (cs.drop sign).takeWhile (· ≠ ':')
    if (cs.drop (sign + name.length)).take 2 = [':', ']'] then
      (asciiClass? name).map fun kind => (negated, kind, sign + name.length + 3)
    else none
  | _ => none

def named (start : Position) : Reader (Option CharClass) := fun c =>
  match named? c.rest with
  | none => .ok (none, c.itself)
  | some (negated, kind, length) =>
    let d := c.passCount length
    .ok (some (.ascii ⟨start, d.val.position⟩ negated kind), d)

def item (c : Char) (span : Span) : Reader Primitive :=
  if c = '\\' then escape span.start else return .literal ⟨span, c, false⟩

def asPart : Primitive → Reader CharClass
  | .literal l => return .literal l
  | .charClass c => return c
  | p => fail .classEscapeInvalid p.span

def asBound : Primitive → Reader Literal
  | .literal l => return l
  | p => fail .classRangeLiteral p.span

/-- A part, or a range if a hyphen follows. A hyphen before a closing bracket stands for itself,
and two of them are a combination. -/
def part (s : State) (c : Char) (span : Span) : Reader CharClass := do
  let first ← item c span
  spacing
  let past ← peekPast
  if ← atEnd then s.unclosed
  else if (← peek) ≠ some '-' ∨ past = some ']' ∨ past = some '-' then asPart first
  else
    skipSpaced
    match ← peek with
    | none => s.unclosed
    | some d =>
      let span ← nextSpan
      skip
      let last ← item d span
      let range : Span := ⟨first.span.start, last.span.stop⟩
      let low ← asBound first
      let high ← asBound last
      if low.char ≤ high.char then return .range range low high
      else fail .classRangeInvalid range

def operation? : Char → Option SetOperation
  | '&' => some .intersection
  | '-' => some .difference
  | '~' => some .symmetricDifference
  | _ => none

def State.close (s : State) (stop : Position) : Reader.Round State CharClass :=
  let bracket := CharClass.bracketed ⟨s.inner.head.start, stop⟩ s.inner.negated s.whole
  match s.outer with
  | [] => .done bracket
  | inner :: outer => .next ⟨inner, outer, s.inner.outside.push bracket⟩

def round (s : State) (c : Char) (span : Span) : Reader (Reader.Round State CharClass) := do
  if c = '[' then
    match ← named span.start with
    | some ascii =>
      spacing
      return .next (s.push ascii)
    | none =>
      let (opened, union) ← opening span.start s.union
      return .next ⟨opened, s.inner :: s.outer, union⟩
  else if c = ']' then
    match s.close (← here) with
    | .done bracket => return .done bracket
    | .next s =>
      spacing
      return .next s
  else
    match operation? c, decide ((← peek) = some c) with
    | some operation, true =>
      skip
      let s := s.combine operation (← here)
      spacing
      return .next s
    | _, _ =>
      let part ← part s c span
      spacing
      return .next (s.push part)

end Bracket

def bracket (start : Position) : Reader CharClass := do
  let (opened, union) ← Bracket.opening start (.from start)
  Reader.rounds Bracket.round Bracket.State.unclosed ⟨opened, [], union⟩

end AccountRegistry.Pattern
