import AccountRegistry.Text.Digits

set_option autoImplicit false

/-!
# Dates and times

A day of the calendar, a time of day, or both, then optionally with an offset
from universal time. Fields are held to their ranges and to nothing more: each
month has a thirty-first day and a day may be twenty-four o'clock.
-/
namespace AccountRegistry.Calendar
open AccountRegistry.Text

structure Date where
  year : Nat
  month : Nat
  day : Nat
deriving DecidableEq, Repr

structure TimeOfDay where
  hour : Nat
  minute : Nat
  second : Nat
  nanosecond : Nat
deriving DecidableEq, Repr

inductive Offset where
  | universal
  | shifted (hours : Int) (minutes : Nat)
deriving DecidableEq, Repr

inductive DateTime where
  | date (date : Date)
  | time (time : TimeOfDay)
  | both (date : Date) (time : TimeOfDay) (offset : Option Offset)
deriving DecidableEq, Repr

namespace DateTime

def pad (width n : Nat) : String := String.ofList (Digits.writePadded width n)

def dateText (d : Date) : String := pad 4 d.year ++ "-" ++ pad 2 d.month ++ "-" ++ pad 2 d.day

def fractionText (nanosecond : Nat) : String :=
  if nanosecond = 0 then ""
  else "." ++ String.ofList
    ((Digits.writePadded 9 nanosecond).reverse.dropWhile (· == '0')).reverse

def timeText (t : TimeOfDay) : String :=
  pad 2 t.hour ++ ":" ++ pad 2 t.minute ++ ":" ++ pad 2 t.second ++ fractionText t.nanosecond

def offsetText : Offset → String
  | .universal => "Z"
  | .shifted hours minutes =>
    (if hours < 0 then "-" else "+") ++ pad 2 hours.natAbs ++ ":" ++ pad 2 minutes

def text : DateTime → String
  | .date d => dateText d
  | .time t => timeText t
  | .both d t none => dateText d ++ "T" ++ timeText t
  | .both d t (some o) => dateText d ++ "T" ++ timeText t ++ offsetText o

def readFixed? (width : Nat) (cs : List Char) : Option (Nat × List Char) :=
  let ds := cs.take width
  if ds.length = width ∧ ds.all Digits.isDecimal then
    (Digits.read? 10 ds).map fun n => (n, cs.drop width)
  else none

def readMark? (mark : Char) : List Char → Option (List Char)
  | [] => none
  | c :: cs => if c = mark then some cs else none

def readDate? (cs : List Char) : Option (Date × List Char) := do
  let (year, cs) ← readFixed? 4 cs
  let (month, cs) ← readFixed? 2 (← readMark? '-' cs)
  let (day, cs) ← readFixed? 2 (← readMark? '-' cs)
  if 1 ≤ month ∧ month ≤ 12 ∧ 1 ≤ day ∧ day ≤ 31 then some (⟨year, month, day⟩, cs) else none

/-- Reads a fraction, if there is one, in nanoseconds; further digits are dropped. -/
def readFraction? : List Char → Option (Nat × List Char)
  | '.' :: cs =>
    let ds := cs.takeWhile Digits.isDecimal
    let nine := (ds ++ List.replicate 9 '0').take 9
    if ds.isEmpty then none
    else (Digits.read? 10 nine).map fun n => (n, cs.dropWhile Digits.isDecimal)
  | cs => some (0, cs)

def readTime? (cs : List Char) : Option (TimeOfDay × List Char) := do
  let (hour, cs) ← readFixed? 2 cs
  let (minute, cs) ← readFixed? 2 (← readMark? ':' cs)
  let (second, cs) ← readFixed? 2 (← readMark? ':' cs)
  let (nanosecond, cs) ← readFraction? cs
  if hour ≤ 24 ∧ minute ≤ 59 ∧ second ≤ 59 then some (⟨hour, minute, second, nanosecond⟩, cs)
  else none

def readOffset? : List Char → Option (Option Offset)
  | [] => some none
  | ['Z'] | ['z'] => some (some .universal)
  | sign :: cs => do
    let (hours, cs) ← readFixed? 2 cs
    let (minutes, cs) ← readFixed? 2 (← readMark? ':' cs)
    if !cs.isEmpty then none
    else if sign = '+' then some (some (.shifted hours minutes))
    else if sign = '-' then some (some (.shifted (-hours) minutes))
    else none

def read? (cs : List Char) : Option DateTime :=
  if cs[2]? = some ':' then
    match readTime? cs with
    | some (t, []) => some (.time t)
    | _ => none
  else
    match readDate? cs with
    | none => none
    | some (d, []) => some (.date d)
    | some (d, c :: cs) => do
      guard (c = 'T' ∨ c = 't' ∨ c = ' ')
      let (t, cs) ← readTime? cs
      return .both d t (← readOffset? cs)

end DateTime
end AccountRegistry.Calendar
