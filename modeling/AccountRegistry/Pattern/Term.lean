import AccountRegistry.Pattern.Fault

set_option autoImplicit false

/-!
# Patterns as written

What a pattern consists of before anything is said about what it matches. Every
part knows the place where it stands, for the sake of faults.
-/
namespace AccountRegistry.Pattern

inductive Flag where
  | caseInsensitive
  | multiLine
  | dotMatchesNewLine
  | swapGreed
  | unicode
  | crlf
  | ignoreWhitespace
deriving DecidableEq, Repr

inductive FlagItem where
  | negation
  | flag (f : Flag)
deriving DecidableEq, Repr

abbrev Flags := List FlagItem

/-- Whether flags turn a flag on or off; none if they do not speak of it. Those after the negation
are turned off. -/
def Flags.state? (f : Flag) (flags : Flags) : Option Bool :=
  if flags.contains (.flag f) then
    some (!(flags.takeWhile (· ≠ .flag f)).contains .negation)
  else none

/-- A character; one that was written with two hexadecimal digits may stand for a byte. -/
structure Literal where
  span : Span
  char : Char
  isByte : Bool
deriving DecidableEq, Repr

inductive Assertion where
  | lineStart
  | lineEnd
  | textStart
  | textEnd
  | wordBoundary
  | notWordBoundary
  | wordStart
  | wordEnd
  | wordStartHalf
  | wordEndHalf
deriving DecidableEq, Repr

inductive PerlClass where
  | digit
  | space
  | word
deriving DecidableEq, Repr

inductive AsciiClass where
  | alnum
  | alpha
  | ascii
  | blank
  | cntrl
  | digit
  | graph
  | lower
  | print
  | punct
  | space
  | upper
  | word
  | xdigit
deriving DecidableEq, Repr

inductive SetOperation where
  | intersection
  | difference
  | symmetricDifference
deriving DecidableEq, Repr

inductive CharClass where
  | empty (span : Span)
  | literal (l : Literal)
  | range (span : Span) (first last : Literal)
  | ascii (span : Span) (negated : Bool) (kind : AsciiClass)
  | perl (span : Span) (negated : Bool) (kind : PerlClass)
  | property (span : Span) (negated : Bool) (query : String)
  | bracketed (span : Span) (negated : Bool) (inner : CharClass)
  | union (span : Span) (parts : List CharClass)
  | combination (span : Span) (operation : SetOperation) (left right : CharClass)

def CharClass.span : CharClass → Span
  | .empty s | .range s _ _ | .ascii s _ _ | .perl s _ _ | .property s _ _ | .bracketed s _ _
  | .union s _ | .combination s _ _ _ => s
  | .literal l => l.span

inductive Term where
  | empty (span : Span)
  | flags (span : Span) (items : Flags)
  | literal (l : Literal)
  | dot (span : Span)
  | assertion (span : Span) (kind : Assertion)
  | charClass (c : CharClass)
  | repetition (span : Span) (least : Nat) (most : Option Nat) (sub : Term)
  | group (span : Span) (flags : Option Flags) (sub : Term)
  | alternation (span : Span) (branches : List Term)
  | concatenation (span : Span) (parts : List Term)

def Term.span : Term → Span
  | .empty s | .flags s _ | .dot s | .assertion s _ | .repetition s _ _ _ | .group s _ _
  | .alternation s _ | .concatenation s _ => s
  | .literal l => l.span
  | .charClass c => c.span

end AccountRegistry.Pattern
