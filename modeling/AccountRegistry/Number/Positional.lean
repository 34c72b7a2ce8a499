import AccountRegistry.Number.Shortest
import AccountRegistry.Text.Digits

set_option autoImplicit false

/-!
# Floating-point numbers as plain decimals

The shortest digits in positional form whatever the magnitude, without an
exponent and without a point for whole numbers.
-/
namespace AccountRegistry.Number
open AccountRegistry.Text

def positional (d : Nat) (e : Int) : List Char :=
  let ds := Digits.write 10 d
  let point : Int := ds.length + e
  if 0 ≤ e then ds ++ List.replicate e.toNat '0'
  else if 0 < point then ds.take point.toNat ++ '.' :: ds.drop point.toNat
  else '0' :: '.' :: (List.replicate (-point).toNat '0' ++ ds)

def signed (negative : Bool) (cs : List Char) : String :=
  String.ofList (if negative then '-' :: cs else cs)

def Binary64.text : Binary64 → String
  | .finite negative m q =>
    if m = 0 then signed negative ['0']
    else
      let (d, e) := Shortest.digits m q
      signed negative (positional d e)
  | .infinite negative => signed negative "inf".toList
  | .nan => "NaN"

end AccountRegistry.Number
