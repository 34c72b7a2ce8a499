import AccountRegistry.Pattern.Expr

set_option autoImplicit false

/-!
# Matching

A text of `n` characters has `n + 1` places, before, between and after them. An
expression takes a set of places to the set of places at which a match that
starts at one of them can end. A pattern matches a text if there is such a place
when every place may be a start.
-/
namespace AccountRegistry.Pattern

/-- Which places of a text belong to a set, in order. -/
abbrev Places := List Bool

namespace Places

def union (s t : Places) : Places := List.zipWith (· || ·) s t

/-- What a step comes to after some repetitions; a set that does not change any more is final. -/
def iterate (step : Places → Places) : Nat → Places → Places
  | 0, s => s
  | n + 1, s =>
    let t := step s
    if t = s then s else iterate step n t

/-- Repeats a step at least and at most so many times. Without an upper bound, as many times as
there are places are enough. -/
def repeating (step : Places → Places) (least : Nat) (most : Option Nat) (s : Places) : Places :=
  let start := iterate step least s
  iterate (fun t => union t (step t)) ((most.map (· - least)).getD start.length) start

def after (accepts : Char → Bool) (text : List Char) (s : Places) : Places :=
  false :: List.zipWith (fun here c => here && accepts c) s text

end Places

def neighbours (before : Option Char) : List Char → List (Option Char × Option Char)
  | [] => [(before, none)]
  | c :: cs => (before, some c) :: neighbours (some c) cs

def isWordChar (c : Char) : Bool := c.isAlphanum || c = '_'

def Look.holds (before after : Option Char) : Look → Bool
  | .textStart => before.isNone
  | .textEnd => after.isNone
  | .lineStart false => before.isNone || before = some '\n'
  | .lineStart true =>
    before.isNone || before = some '\n' || (before = some '\r' && after ≠ some '\n')
  | .lineEnd false => after.isNone || after = some '\n'
  | .lineEnd true =>
    after.isNone || after = some '\r' || (after = some '\n' && before ≠ some '\r')
  | .wordBoundary _ negated => (before.any isWordChar ≠ after.any isWordChar) ≠ negated
  | .wordStart _ half => !before.any isWordChar && (half || after.any isWordChar)
  | .wordEnd _ half => (half || before.any isWordChar) && !after.any isWordChar

namespace Expr

mutual

def ends (text : List Char) : Expr → Places → Places
  | .empty, s => s
  | .literal c, s => s.after (· = c) text
  | .set cs, s => s.after (fun c => cs.contains c.toNat) text
  | .look l, s =>
    List.zipWith (fun here (before, after) => here && l.holds before after) s
      (neighbours none text)
  | .repetition least most sub, s => s.repeating (fun t => sub.ends text t) least most
  | .capture sub, s => sub.ends text s
  | .concatenation es, s => endsInTurn text es s
  | .alternation es, s => endsOfAny text es s

def endsInTurn (text : List Char) : List Expr → Places → Places
  | [], s => s
  | e :: es, s => endsInTurn text es (e.ends text s)

def endsOfAny (text : List Char) : List Expr → Places → Places
  | [], s => s.map fun _ => false
  | e :: es, s => (e.ends text s).union (endsOfAny text es s)

end

def matches? (e : Expr) (text : List Char) : Bool :=
  (e.ends text (List.replicate (text.length + 1) true)).any id

end Expr
end AccountRegistry.Pattern
