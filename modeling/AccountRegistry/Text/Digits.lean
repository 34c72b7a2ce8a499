set_option autoImplicit false

/-!
# Digits of natural numbers

Numbers written and read in a base of at most thirty-six, letters standing for
the digits from ten on. Main statement: reading what was written in a base gives
the number back.
-/
namespace AccountRegistry.Text.Digits

def digit (d : Nat) : Char :=
  if d < 10 then Char.ofNat ('0'.toNat + d) else Char.ofNat ('a'.toNat + (d - 10))

/-- The value of a digit, letters of either case standing for ten and more. -/
def value? (c : Char) : Option Nat :=
  if '0' ≤ c ∧ c ≤ '9' then some (c.toNat - '0'.toNat)
  else if 'a' ≤ c ∧ c ≤ 'z' then some (c.toNat - 'a'.toNat + 10)
  else if 'A' ≤ c ∧ c ≤ 'Z' then some (c.toNat - 'A'.toNat + 10)
  else none

def valueIn? (base : Nat) (c : Char) : Option Nat :=
  (value? c).filter (· < base)

def write (base n : Nat) : List Char :=
  if n < base ∨ base < 2 then [digit n] else write base (n / base) ++ [digit (n % base)]
termination_by n
decreasing_by exact Nat.div_lt_self (by omega) (by omega)

def readFrom (base : Nat) : Nat → List Char → Option Nat
  | n, [] => some n
  | n, c :: cs => (valueIn? base c).bind fun d => readFrom base (n * base + d) cs

def read? (base : Nat) : List Char → Option Nat
  | [] => none
  | cs => readFrom base 0 cs

def writeInt : Int → List Char
  | .ofNat n => write 10 n
  | .negSucc n => '-' :: write 10 (n + 1)

def splitMinus : List Char → Bool × List Char
  | '-' :: cs => (true, cs)
  | cs => (false, cs)

def withSign (negative : Bool) (n : Nat) : Int := if negative then -n else n

def readInt? (cs : List Char) : Option Int :=
  let (negative, ds) := splitMinus cs
  (read? 10 ds).map (withSign negative)

def writePadded (width n : Nat) : List Char :=
  let ds := write 10 n
  List.replicate (width - ds.length) '0' ++ ds

def decimal (n : Nat) : String := String.ofList (write 10 n)

def isWord64 (n : Int) : Bool := -0x8000000000000000 ≤ n && n < 0x8000000000000000

def isDecimal (c : Char) : Bool := '0' ≤ c && c ≤ '9'

theorem readFrom_append (base n : Nat) (cs ds : List Char) :
    readFrom base n (cs ++ ds) = (readFrom base n cs).bind fun m => readFrom base m ds := by
  induction cs generalizing n with
  | nil => rfl
  | cons c cs ih =>
    simp only [List.cons_append, readFrom]
    cases valueIn? base c with
    | none => rfl
    | some d => exact ih _

theorem valueIn?_digit {base d : Nat} (hbase : base ≤ 36) (hd : d < base) :
    valueIn? base (digit d) = some d := by
  have all : ∀ e : Fin 36, value? (digit e.val) = some e.val := by decide
  have hvalue : value? (digit d) = some d := all ⟨d, by omega⟩
  rw [valueIn?, hvalue, Option.filter_some, if_pos (decide_eq_true hd)]

theorem write_ne_nil (base n : Nat) : write base n ≠ [] := by
  rw [write]
  split <;> simp

theorem readFrom_write {base : Nat} (hlow : 2 ≤ base) (hhigh : base ≤ 36) (n : Nat) :
    readFrom base 0 (write base n) = some n := by
  induction n using Nat.strongRecOn with
  | ind n ih =>
    rw [write]
    split
    · next hlast =>
      have hn : n < base := by omega
      simp only [readFrom, valueIn?_digit hhigh hn, Option.bind_some, Nat.zero_mul, Nat.zero_add]
    · next hmore =>
      have hless : n / base < n := Nat.div_lt_self (by omega) (by omega)
      have hdigit : n % base < base := Nat.mod_lt _ (by omega)
      rw [readFrom_append, ih _ hless, Option.bind_some]
      simp only [readFrom, valueIn?_digit hhigh hdigit, Option.bind_some, Option.some.injEq]
      rw [Nat.mul_comm]
      exact Nat.div_add_mod n base

theorem read?_write {base : Nat} (hlow : 2 ≤ base) (hhigh : base ≤ 36) (n : Nat) :
    read? base (write base n) = some n := by
  have ne := write_ne_nil base n
  have eq := readFrom_write hlow hhigh n
  unfold read?
  split
  · next h => exact absurd h ne
  · exact eq

end AccountRegistry.Text.Digits
