import AccountRegistry.Settings.Value
import AccountRegistry.Text.Rest

set_option autoImplicit false

/-!
# Numbers of JSON

A number without fraction and exponent is whole if it fits sixty-four bits with
a sign. Any other number is a floating-point number, and so is a negative zero.
Its digits are collected as long as they fit sixty-four bits without a sign, and
the result is scaled once by a power of ten.
-/
namespace AccountRegistry.Json
open AccountRegistry.Text AccountRegistry.Number
open AccountRegistry.Settings (Scalar)

structure Literal where
  negative : Bool
  whole : List Char
  fraction : Option (List Char)
  exponent : Option Int
deriving DecidableEq, Repr

def wholeDigits? (cs : List Char) : Option (List Char × Shorter cs) :=
  (Rest.span? Digits.isDecimal cs).filter fun (ds, _) => ds.length = 1 || ds.head? ≠ some '0'

def fraction? (cs : List Char) : Option (Option (List Char) × NoLonger cs) :=
  match cs with
  | '.' :: cs => (Rest.span? Digits.isDecimal cs).map fun (ds, r) =>
    (some ds, ⟨r.val, Nat.le_succ_of_le (Nat.le_of_lt r.property)⟩)
  | cs => some (none, Rest.all cs)

def exponentSign : (cs : List Char) → Bool × NoLonger cs
  | '-' :: cs => (true, ⟨cs, Nat.le_succ _⟩)
  | '+' :: cs => (false, ⟨cs, Nat.le_succ _⟩)
  | cs => (false, Rest.all cs)

def exponent? (cs : List Char) : Option (Option Int × NoLonger cs) :=
  match cs with
  | [] => some (none, Rest.all [])
  | e :: cs =>
    if e = 'e' ∨ e = 'E' then
      let (negative, r) := exponentSign cs
      (Digits.read? 10 (r.val.takeWhile Digits.isDecimal)).map fun n =>
        (some (Digits.withSign negative n),
          Rest.within (Rest.dropping Digits.isDecimal r.val) (Nat.le_succ_of_le r.property))
    else some (none, Rest.all (e :: cs))

def literal? (negative : Bool) (cs : List Char) : Option (Literal × Shorter cs) := do
  let (whole, ⟨cs, h₁⟩) ← wholeDigits? cs
  let (fraction, ⟨cs, h₂⟩) ← fraction? cs
  let (exponent, ⟨cs, h₃⟩) ← exponent? cs
  return (⟨negative, whole, fraction, exponent⟩, ⟨cs, by omega⟩)

/-- Appends digits to a significand while it fits sixty-four bits; also how many are left out. -/
def collect : Nat → List Char → Nat × Nat
  | n, [] => (n, 0)
  | n, c :: cs =>
    let more := n * 10 + ((Digits.valueIn? 10 c).getD 0)
    if more < Nat.pow 2 64 then collect more cs else (n, cs.length + 1)

def powerOfTen (k : Nat) : Binary64 := (Binary64.ofDecimal? false 1 k).getD (.zero false)

/-- A number times a power of ten, rounded once for each factor of at most `10 ^ 308`; none if it
grows beyond the finite numbers. -/
def scaled? (negative : Bool) (x : Binary64) (exponent : Int) : Option Binary64 :=
  if 0 ≤ exponent then
    if exponent ≤ 308 then Binary64.mul? negative x (powerOfTen exponent.toNat)
    else if x.ratio.1 = 0 then some (.zero negative) else none
  else if -308 ≤ exponent then Binary64.div? negative x (powerOfTen (-exponent).toNat)
  else if x.ratio.1 = 0 then some (.zero negative)
  else (Binary64.div? false x (powerOfTen 308)).bind fun y => scaled? negative y (exponent + 308)
termination_by (-exponent).toNat

/-- Exponents beyond thirty-two bits are decided by their sign alone. -/
def real? (l : Literal) : Option Scalar := do
  let (n, skipped) := collect 0 l.whole
  let places := l.fraction.getD []
  let (n, cut) := collect n places
  let start : Int := (skipped : Int) - (places.length - cut : Nat)
  let exponent := l.exponent.getD 0
  if exponent.natAbs < Nat.pow 2 31 then
    let x ← Binary64.nearest? false n 1
    return .real (← scaled? l.negative x (start + exponent))
  else if n ≠ 0 ∧ 0 < exponent then none
  else some (.real (.zero l.negative))

def Literal.scalar? (l : Literal) : Option Scalar :=
  match l.fraction, l.exponent with
  | none, none => do
    let n := Digits.withSign l.negative (← Digits.read? 10 l.whole)
    if Digits.isWord64 n && !(l.negative && n = 0) then some (.whole n) else real? l
  | _, _ => real? l

end AccountRegistry.Json
