import AccountRegistry.Pattern.Expr

set_option autoImplicit false

/-!
# The weight of a pattern

How much room a pattern takes as an automaton over bytes, read forwards and
backwards: thirty-two bytes for each state, four for each branch of a choice and
eight for each range of bytes. Repeating a part a number of times copies it, so
counts are what makes a pattern too heavy.

The figures are approximate: sets beyond ASCII have one weight for all, and states
that an automaton shares are not told. A pattern close to the limit may be judged
otherwise than here.
-/
namespace AccountRegistry.Pattern

def weightLimit : Nat := 10 * Nat.pow 2 20

namespace Weight

inductive Direction where
  | forward
  | backward
deriving DecidableEq, Repr

def state : Nat := 32

def branch : Nat := 4

def byteRange : Nat := 8

def fork : Nat := state + 2 * branch

/-- A set beyond ASCII counts as one of nearly all characters: a state for each byte of the
different lengths of characters, shared where possible. -/
def set (d : Direction) (s : CharSet) : Nat :=
  if s.isBelow 0x80 then 2 * state + byteRange * s.ranges.length
  else
    match d with
    | .forward => 9 * state + 17 * byteRange
    | .backward => 30 * state + 10 * branch

mutual

def isProper : Expr → Bool
  | .empty | .look _ => false
  | .literal _ => true
  | .set s => !s.ranges.isEmpty
  | .repetition least _ sub => least ≠ 0 && isProper sub
  | .capture sub => isProper sub
  | .concatenation es => anyProper es
  | .alternation es => allProper es

def anyProper : List Expr → Bool
  | [] => false
  | e :: es => isProper e || anyProper es

def allProper : List Expr → Bool
  | [] => true
  | e :: es => isProper e && allProper es

end

def repetition (least : Nat) (most : Option Nat) (proper : Bool) (sub : Nat) : Nat :=
  match most with
  | none => if least = 0 then if proper then fork + sub else 2 * fork + state + sub
    else least * sub + fork
  | some most =>
    if least = most then least * sub
    else if least = 0 ∧ most = 1 then fork + state + sub
    else (if least = 0 then state else least * sub) + state + (most - least) * (fork + sub)

mutual

def expr (d : Direction) : Expr → Nat
  | .empty | .look _ => state
  | .literal c => c.utf8Size * state
  | .set s => set d s
  | .repetition least most sub => repetition least most (isProper sub) (expr d sub)
  | .capture sub =>
    match d with
    | .forward => 2 * state + expr d sub
    | .backward => expr d sub
  | .concatenation es => sum d es
  | .alternation es => 2 * state + branch * es.length + sum d es

def sum (d : Direction) : List Expr → Nat
  | [] => 0
  | e :: es => expr d e + sum d es

end

def whole (d : Direction) (e : Expr) : Nat :=
  let anywhere := fork + 2 * state + byteRange
  match d with
  | .forward => anywhere + 3 * state + expr d e
  | .backward => anywhere + state + expr d e

def isTooHeavy (d : Direction) (e : Expr) : Bool := weightLimit < whole d e

end Weight
end AccountRegistry.Pattern
