import AccountRegistry.Number.Binary64

set_option autoImplicit false

/-!
# The shortest decimal that reads back

For a positive number `m * 2 ^ q` the decimal of fewest digits among those that
round to it, and of these the nearest. On the grid of a given number of digits
only the two neighbours of the number can be the answer.
-/
namespace AccountRegistry.Number.Shortest

def decimalMagnitude (m : Nat) (q : Int) : Int :=
  let guess := ((m.log2 : Int) + q) * 30103 / 100000 + 1
  let (num, den) := scaledRatio m 2 q
  let reaches (k : Int) : Bool :=
    let (p, r) := scaledRatio 1 10 k
    p * den ≤ num * r
  if reaches guess then guess + 1 else if reaches (guess - 1) then guess else guess - 1

/-- Whether `d * 10 ^ e` rounds to `m * 2 ^ q`. The bounds of the interval are
halfway to the neighbours and belong to it when the significand is even. -/
def readsBack (m : Nat) (q : Int) (d : Nat) (e : Int) : Bool :=
  let below := if m = Nat.pow 2 52 ∧ Binary64.minExponent < q then 1 else 2
  let (lowNum, lowDen) := scaledRatio (4 * m - below) 2 (q - 2)
  let (highNum, highDen) := scaledRatio (4 * m + 2) 2 (q - 2)
  let (num, den) := scaledRatio d 10 e
  if m % 2 = 0 then lowNum * den ≤ num * lowDen && num * highDen ≤ highNum * den
  else lowNum * den < num * lowDen && num * highDen < highNum * den

def onGrid (m : Nat) (q : Int) (digits : Nat) : Option (Nat × Int) :=
  let e := decimalMagnitude m q - digits
  let (num, den) := scaledRatio m 2 q
  let (p, r) := scaledRatio 1 10 e
  let d := (num * r) / (den * p)
  let rest := (num * r) % (den * p)
  match readsBack m q d e, readsBack m q (d + 1) e with
  | true, true => some (if 2 * rest < den * p then d else d + 1, e)
  | true, false => some (d, e)
  | false, true => some (d + 1, e)
  | false, false => none

/-- Digits and power of ten. Seventeen digits always suffice; only the answer of
one digit can have been rounded up to ten. -/
def digits (m : Nat) (q : Int) : Nat × Int :=
  match (List.range 17).findSome? fun n => onGrid m q (n + 1) with
  | some (10, e) => (1, e + 1)
  | some answer => answer
  | none => (m, 0)

end AccountRegistry.Number.Shortest
