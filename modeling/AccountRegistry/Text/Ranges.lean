set_option autoImplicit false

/-!
# Tables of code points

A table is an ascending list of ranges that do not touch, each a pair of its
first and last code point.
-/
namespace AccountRegistry.Text

def inRanges (n : Nat) : List (Nat × Nat) → Bool
  | [] => false
  | (first, last) :: rest => if n < first then false else n ≤ last || inRanges n rest

end AccountRegistry.Text
