import AccountRegistry.Text.Blank
import AccountRegistry.Text.Digits
import AccountRegistry.Text.Rest

set_option autoImplicit false

/-!
# Keys as paths

A key names a place in a tree of settings: an identifier, then steps to children
(`a.b`) and to list elements (`a[2]`, from the end `a[-1]`). A key that is no
path is taken literally, as the name of a single child.
-/
namespace AccountRegistry.Settings
open AccountRegistry.Text

inductive Step where
  | child (name : String)
  | element (index : Int)
deriving DecidableEq, Repr

structure Path where
  leading : String
  steps : List Step
deriving DecidableEq, Repr

namespace Path

def isIdentChar (c : Char) : Bool :=
  ('a' ≤ c && c ≤ 'z') || ('A' ≤ c && c ≤ 'Z') || ('0' ≤ c && c ≤ '9') ||
    c = ' ' || c = '_' || c = '-'

def ident? (cs : List Char) : Option (String × NoLonger cs) :=
  let name := cs.takeWhile isIdentChar
  if name.isEmpty then none else some (String.ofList name, Rest.dropping isIdentChar cs)

def index? (cs : List Char) : Option Int :=
  (Digits.readInt? (trimmed isBlank cs)).filter Digits.isWord64

def step? (c : Char) (cs : List Char) : Option (Step × NoLonger cs) :=
  if c = '.' then (ident? cs).map fun (name, r) => (.child name, r)
  else if c = '[' then
    let inside := cs.takeWhile (· ≠ ']')
    if inside.length < cs.length then
      (index? inside).map fun i => (.element i, Rest.dropped (inside.length + 1) cs)
    else none
  else none

def steps? (cs : List Char) : Option (List Step) :=
  match cs with
  | [] => some []
  | c :: cs =>
    match step? c cs with
    | none => none
    | some (s, ⟨rest, h⟩) =>
      have : rest.length < (c :: cs).length := Rest.length_lt_cons c h
      (steps? rest).map (s :: ·)
termination_by cs.length
decreasing_by exact this

def parse? (key : String) : Option Path := do
  let (leading, rest) ← ident? key.toList
  return ⟨leading, ← steps? rest.val⟩

/-- Every key names a place; one that is no path names a child of the root. -/
def ofKey (key : String) : Path := (parse? key).getD ⟨key, []⟩

end Path
end AccountRegistry.Settings
