set_option autoImplicit false

/-!
# Blanks and white space

Spaces and tabs, the wider class of white space, and texts without such
characters at either end.
-/
namespace AccountRegistry.Text

def isBlank (c : Char) : Bool := c = ' ' || c = '\t'

def isWhiteSpace (c : Char) : Bool :=
  let n := c.toNat
  (0x09 ≤ n && n ≤ 0x0D) || n == 0x20 || n == 0x85 || n == 0xA0 || n == 0x1680 ||
    (0x2000 ≤ n && n ≤ 0x200A) || n == 0x2028 || n == 0x2029 || n == 0x202F || n == 0x205F ||
    n == 0x3000

def trimmed (p : Char → Bool) (cs : List Char) : List Char :=
  ((cs.dropWhile p).reverse.dropWhile p).reverse

end AccountRegistry.Text
