import AccountRegistry.Pattern.Matching
import AccountRegistry.Pattern.Reading
import AccountRegistry.Pattern.Report
import AccountRegistry.Pattern.Weight

set_option autoImplicit false

/-!
# Patterns

Regular expressions for which a text can be searched. A text is a pattern unless
it is malformed, or too heavy, or asks for the bounds of words by Unicode.
-/
namespace AccountRegistry
open AccountRegistry.Text

structure Pattern where
  expr : Pattern.Expr
deriving Repr

namespace Pattern

inductive Refusal where
  | malformed (fault : Fault)
  | wordsUnavailable
  | tooHeavy
deriving DecidableEq, Repr

def Refusal.text (pattern : String) : Refusal → String
  | .malformed fault => fault.report pattern
  | .wordsUnavailable => "error building NFA"
  | .tooHeavy => "Compiled regex exceeds size limit of " ++ Digits.decimal weightLimit ++ " bytes."

def Look.asksForWords : Look → Bool
  | .wordBoundary unicode _ | .wordStart unicode _ | .wordEnd unicode _ => unicode
  | _ => false

mutual

def Expr.asksForWords : Expr → Bool
  | .look l => l.asksForWords
  | .repetition _ _ sub | .capture sub => sub.asksForWords
  | .concatenation es | .alternation es => anyAsksForWords es
  | .empty | .literal _ | .set _ => false

def anyAsksForWords : List Expr → Bool
  | [] => false
  | e :: es => e.asksForWords || anyAsksForWords es

end

def Expr.check (e : Expr) : Except Refusal Pattern :=
  if Weight.isTooHeavy .forward e then throw .tooHeavy
  else if e.asksForWords then throw .wordsUnavailable
  else if Weight.isTooHeavy .backward e then throw .tooHeavy
  else return ⟨e⟩

def parse (text : String) : Except Refusal Pattern := do
  let t ← (Term.read text).mapError .malformed
  let (e, _) ← (t.expr .initial).mapError .malformed
  e.check

def isIn (p : Pattern) (text : String) : Bool := p.expr.matches? text.toList

end Pattern
end AccountRegistry
