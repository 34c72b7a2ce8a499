import AccountRegistry.Pattern.Bracket
import AccountRegistry.Pattern.Group

set_option autoImplicit false

/-!
# Reading patterns

A pattern is read from left to right with the groups that are still open kept in
a stack; a repetition takes the part before it. What is read is a term, which
must not be nested too deep.
-/
namespace AccountRegistry.Pattern
open AccountRegistry.Text
open Reader (fail here peek atEnd skip skipSpaced spacing run setLenient isLenient)

/-- The branches of a group or of the whole pattern as far as they have been read, the last
first; so are the parts of the branch that is being read. -/
structure Level where
  start : Position
  branches : List Term
  branchStart : Position
  parts : List Term

def Level.from (p : Position) : Level := ⟨p, [], p, []⟩

namespace Level

def push (l : Level) (t : Term) : Level := { l with parts := t :: l.parts }

def branch (l : Level) (stop : Position) : Term :=
  match l.parts with
  | [] => .empty ⟨l.branchStart, stop⟩
  | [t] => t
  | ts => .concatenation ⟨l.branchStart, stop⟩ ts.reverse

def divide (l : Level) (bar : Span) : Level :=
  { l with branches := l.branch bar.start :: l.branches, branchStart := bar.stop, parts := [] }

def term (l : Level) (stop : Position) : Term :=
  match l.branches with
  | [] => l.branch stop
  | bs => .alternation ⟨l.start, stop⟩ (l.branch stop :: bs).reverse

end Level

structure OpenGroup where
  outside : Level
  parenthesis : Span
  flags : Option Flags
  lenientOutside : Bool

structure Reading where
  level : Level
  groups : List OpenGroup
  names : List (String × Span)

namespace Reading

def start : Reading := ⟨.from .start, [], []⟩

def push (r : Reading) (t : Term) : Reading := { r with level := r.level.push t }

def openGroup (r : Reading) (parenthesis : Span) (flags : Option Flags) : Reader Reading := do
  let lenient ← isLenient
  setLenient ((flags.bind (Flags.state? .ignoreWhitespace)).getD lenient)
  return { r with
    level := .from (← here)
    groups := ⟨r.level, parenthesis, flags, lenient⟩ :: r.groups }

def addName (r : Reading) (name : String) (span : Span) : Reader Reading := fun c =>
  match r.names.lookup name with
  | none => .ok ({ r with names := (name, span) :: r.names }, c.itself)
  | some earlier => .error ⟨.groupNameDuplicate, span, some earlier⟩

def parenthesis (r : Reading) (span : Span) : Reader Reading := do
  match ← GroupHead.read span with
  | .capturing => r.openGroup span none
  | .named name place => (← r.addName name place).openGroup span none
  | .flagged flags => r.openGroup span (some flags)
  | .setting flags =>
    let r := r.push (.flags ⟨span.start, ← here⟩ flags)
    match Flags.state? .ignoreWhitespace flags with
    | some lenient => setLenient lenient
    | none => pure ()
    return r

def closeGroup (r : Reading) (span : Span) : Reader Reading := do
  match r.groups with
  | [] => fail .groupUnopened span
  | g :: groups =>
    setLenient g.lenientOutside
    let group := Term.group ⟨g.parenthesis.start, span.stop⟩ g.flags (r.level.term span.start)
    return { r with level := g.outside.push group, groups }

def finish (r : Reading) : Reader Term := do
  match r.groups with
  | [] => return r.level.term (← here)
  | g :: _ => fail .groupUnclosed g.parenthesis

def repeated (r : Reading) (operator : Span) : Reader (Term × Reading) := do
  match r.level.parts with
  | [] | .empty _ :: _ | .flags _ _ :: _ => fail .repetitionMissing (.at operator.start)
  | t :: ts => return (t, { r with level := { r.level with parts := ts } })

/-- A question mark after a repetition only tells which of several matches to prefer. -/
def preference : Reader Unit := do
  if (← peek) = some '?' then skip

def repetition (r : Reading) (least : Nat) (most : Option Nat) (operator : Span) :
    Reader Reading := do
  let (t, r) ← r.repeated operator
  preference
  return r.push (.repetition ⟨t.span.start, ← here⟩ least most t)

/-- A count in decimal, with white space around. The count of no digits is left to the caller. -/
def count : Reader (Except Fault Nat) := do
  let _ ← run isWhiteSpace
  let start ← here
  let digits ← Reader.runSpaced Digits.isDecimal
  let span : Span := ⟨start, ← here⟩
  let _ ← run isWhiteSpace
  spacing
  match Digits.read? 10 digits with
  | none => return .error ⟨.repetitionCountEmpty, span, none⟩
  | some n =>
    if n < Nat.pow 2 32 then return .ok n else return .error ⟨.decimalInvalid, span, none⟩

def counted (n : Except Fault Nat) : Reader Nat := fun c =>
  match n with
  | .ok n => .ok (n, c.itself)
  | .error e => .error e

def bounds (start : Position) : Reader (Nat × Option Nat) := do
  let goOn {α : Type} (r : Reader α) : Reader α := do
    if ← atEnd then fail .repetitionCountUnclosed ⟨start, ← here⟩ else r
  spacing
  goOn do
    let first ← count
    goOn do
      if (← peek) ≠ some ',' then
        let n ← counted first
        return (n, some n)
      else
        skipSpaced
        goOn do
          let n ← counted first
          if (← peek) = some '\x7d' then return (n, none)
          else return (n, some (← counted (← count)))

def bounded (r : Reading) (brace : Span) : Reader Reading := do
  let (t, r) ← r.repeated brace
  let (least, most) ← bounds brace.start
  if (← peek) ≠ some '\x7d' then fail .repetitionCountUnclosed ⟨brace.start, ← here⟩
  else
    skipSpaced
    preference
    if most.any (· < least) then fail .repetitionCountInvalid ⟨brace.start, ← here⟩
    else return r.push (.repetition ⟨t.span.start, ← here⟩ least most t)

def primitive (c : Char) (span : Span) : Reader Term := do
  match c with
  | '.' => return .dot span
  | '^' => return .assertion span .lineStart
  | '$' => return .assertion span .lineEnd
  | '\\' =>
    match ← escape span.start with
    | .literal l => return .literal l
    | .dot s => return .dot s
    | .assertion s kind => return .assertion s kind
    | .charClass c => return .charClass c
  | c => return .literal ⟨span, c, false⟩

def step (r : Reading) (c : Char) (span : Span) : Reader Reading := do
  match c with
  | '(' => r.parenthesis span
  | ')' => r.closeGroup span
  | '|' => return { r with level := r.level.divide span }
  | '[' => return r.push (.charClass (← bracket span.start))
  | '?' => r.repetition 0 (some 1) span
  | '*' => r.repetition 0 none span
  | '+' => r.repetition 1 none span
  | '\x7b' => r.bounded span
  | c => return r.push (← primitive c span)

def round (r : Reading) (c : Char) (span : Span) : Reader (Reader.Round Reading Term) := do
  let r ← r.step c span
  spacing
  return .next r

end Reading

def term : Reader Term := do
  spacing
  Reader.rounds Reading.round Reading.finish .start

def nestingLimit : Nat := 250

mutual

def CharClass.tooDeep? (depth : Nat) : CharClass → Option Span
  | .bracketed s _ inner => if depth < nestingLimit then inner.tooDeep? (depth + 1) else some s
  | .union s parts => if depth < nestingLimit then partsTooDeep? (depth + 1) parts else some s
  | .combination s _ left right =>
    if depth < nestingLimit then (left.tooDeep? (depth + 1)).or (right.tooDeep? (depth + 1))
    else some s
  | _ => none

def partsTooDeep? (depth : Nat) : List CharClass → Option Span
  | [] => none
  | c :: cs => (c.tooDeep? depth).or (partsTooDeep? depth cs)

end

mutual

def Term.tooDeep? (depth : Nat) : Term → Option Span
  | .charClass c => c.tooDeep? depth
  | .repetition s _ _ sub | .group s _ sub =>
    if depth < nestingLimit then sub.tooDeep? (depth + 1) else some s
  | .alternation s ts | .concatenation s ts =>
    if depth < nestingLimit then termsTooDeep? (depth + 1) ts else some s
  | _ => none

def termsTooDeep? (depth : Nat) : List Term → Option Span
  | [] => none
  | t :: ts => (t.tooDeep? depth).or (termsTooDeep? depth ts)

end

def Term.read (text : String) : Except Fault Term := do
  let t ← term.read text
  match t.tooDeep? 0 with
  | none => return t
  | some span => throw ⟨.nestedTooDeep nestingLimit, span, none⟩

end AccountRegistry.Pattern
