set_option autoImplicit false

/-!
# Binary floating-point numbers

The numbers with 53 significant bits and least exponent -1074, held exactly as a
sign, a significand and a power of two. A quotient of naturals is rounded to the
nearest of them, a tie going to the even significand.
-/
namespace AccountRegistry.Number

/-- A finite number is `significand * 2 ^ exponent`, with a sign of its own for zero. -/
inductive Binary64 where
  | finite (negative : Bool) (significand : Nat) (exponent : Int)
  | infinite (negative : Bool)
  | nan
deriving DecidableEq, Repr

def scaledRatio (m base : Nat) (e : Int) : Nat × Nat :=
  if 0 ≤ e then (m * base.pow e.toNat, 1) else (m, base.pow (-e).toNat)

def roundHalfEven (num den : Nat) : Nat :=
  let floor := num / den
  let rest := num % den
  if 2 * rest < den then floor else if den < 2 * rest then floor + 1 else floor + floor % 2

namespace Binary64

def precision : Nat := 53
def minExponent : Int := -1074
def maxExponent : Int := 971

def zero (negative : Bool) : Binary64 := .finite negative 0 minExponent

/-- The exponent of the greatest power of two that is at most `num / den`, both positive. -/
def binaryMagnitude (num den : Nat) : Int :=
  let e : Int := (num.log2 : Int) - den.log2
  let (p, r) := scaledRatio den 2 e
  if p ≤ num * r then e else e - 1

def renormalized (significand : Nat) (exponent : Int) : Nat × Int :=
  if significand = Nat.pow 2 precision then (Nat.pow 2 (precision - 1), exponent + 1)
  else (significand, exponent)

def nearest? (negative : Bool) (num den : Nat) : Option Binary64 :=
  if num = 0 then some (zero negative)
  else
    let exponent := max (binaryMagnitude num den - (precision - 1)) minExponent
    let (p, r) := scaledRatio den 2 exponent
    let (m, q) := renormalized (roundHalfEven (num * r) p) exponent
    if maxExponent < q then none else some (.finite negative m q)

/-- The number nearest to `digits * 10 ^ exponent`. Exponents so far out that the
answer is plain are answered without forming the power. -/
def ofDecimal? (negative : Bool) (digits : Nat) (exponent : Int) : Option Binary64 :=
  if digits = 0 ∨ exponent < -330 - (digits.log2 : Int) then some (zero negative)
  else if 310 < exponent then none
  else
    let (num, den) := scaledRatio digits 10 exponent
    nearest? negative num den

def ratio : Binary64 → Nat × Nat
  | .finite _ m q => scaledRatio m 2 q
  | _ => (0, 1)

def mul? (negative : Bool) (x y : Binary64) : Option Binary64 :=
  nearest? negative (x.ratio.1 * y.ratio.1) (x.ratio.2 * y.ratio.2)

def div? (negative : Bool) (x y : Binary64) : Option Binary64 :=
  nearest? negative (x.ratio.1 * y.ratio.2) (x.ratio.2 * y.ratio.1)

end Binary64
end AccountRegistry.Number
