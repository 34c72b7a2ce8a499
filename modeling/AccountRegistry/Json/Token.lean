import AccountRegistry.Json.Number

set_option autoImplicit false

/-!
# Tokens of JSON

Marks, strings and the values that are a single word or number. White space only
stands between tokens and is dropped.
-/
namespace AccountRegistry.Json
open AccountRegistry.Text
open AccountRegistry.Settings (Value)

inductive Token where
  | openBrace
  | closeBrace
  | openBracket
  | closeBracket
  | comma
  | colon
  | text (cs : List Char)
  | value (v : Value)
deriving Repr

def isSpace (c : Char) : Bool := c = ' ' || c = '\n' || c = '\t' || c = '\r'

def unit? (cs : List Char) : Option (Nat × NoLonger cs) :=
  if (cs.take 4).length = 4 then
    (Digits.read? 16 (cs.take 4)).map fun n => (n, Rest.dropped 4 cs)
  else none

def isLeadingSurrogate (n : Nat) : Bool := 0xD800 ≤ n && n < 0xDC00

def isTrailingSurrogate (n : Nat) : Bool := 0xDC00 ≤ n && n < 0xE000

/-- The character of one code unit, or of two that are a surrogate pair. -/
def unicode? (cs : List Char) : Option (Char × NoLonger cs) := do
  let (n, ⟨rest, h⟩) ← unit? cs
  if isLeadingSurrogate n then
    guard (rest.take 2 = ['\\', 'u'])
    let (m, ⟨rest', h'⟩) ← unit? (rest.drop 2)
    guard (isTrailingSurrogate m)
    return (Char.ofNat (0x10000 + (n - 0xD800) * 0x400 + (m - 0xDC00)),
      ⟨rest', by simp only [List.length_drop] at h'; omega⟩)
  else
    guard (!isTrailingSurrogate n)
    return (Char.ofNat n, ⟨rest, h⟩)

def escape? : (cs : List Char) → Option (Char × NoLonger cs)
  | [] => none
  | c :: cs =>
    let one (d : Char) : Option (Char × NoLonger (c :: cs)) :=
      some (d, ⟨cs, Rest.length_le_cons c cs⟩)
    match c with
    | '"' => one '"'
    | '\\' => one '\\'
    | '/' => one '/'
    | 'b' => one '\x08'
    | 'f' => one '\x0c'
    | 'n' => one '\n'
    | 'r' => one '\r'
    | 't' => one '\t'
    | 'u' => (unicode? cs).map fun (d, r) => (d, Rest.within r (Rest.length_le_cons c cs))
    | _ => none

/-- The character at the front of a string body, which may be an escape. -/
def character? (c : Char) (cs : List Char) : Option (Char × NoLonger cs) :=
  if c = '\\' then escape? cs
  else if c.toNat < 0x20 then none
  else some (c, Rest.all cs)

def body? (cs : List Char) : Option (List Char × Shorter cs) :=
  match cs with
  | [] => none
  | c :: cs =>
    if c = '"' then some ([], Rest.after c cs)
    else
      match character? c cs with
      | none => none
      | some (d, ⟨rest, h⟩) =>
        have : rest.length < (c :: cs).length := Rest.length_lt_cons c h
        (body? rest).map fun (text, r) => (d :: text, Rest.beyond r (Nat.le_of_lt this))
termination_by cs.length
decreasing_by exact this

def markOf? : Char → Option Token
  | '\x7b' => some .openBrace
  | '\x7d' => some .closeBrace
  | '[' => some .openBracket
  | ']' => some .closeBracket
  | ',' => some .comma
  | ':' => some .colon
  | _ => none

def wordOf? (w : List Char) : Option Value :=
  if w = "null".toList then some .null
  else if w = "true".toList then some (.scalar (.flag true))
  else if w = "false".toList then some (.scalar (.flag false))
  else none

def isLower (c : Char) : Bool := 'a' ≤ c && c ≤ 'z'

def number? (negative : Bool) (cs : List Char) : Option (Token × Shorter cs) := do
  let (l, r) ← literal? negative cs
  return (.value (.scalar (← l.scalar?)), r)

def scan? : (cs : List Char) → Option (Token × Shorter cs)
  | [] => none
  | c :: cs =>
    match markOf? c with
    | some t => some (t, Rest.after c cs)
    | none =>
      if c = '"' then (body? cs).map fun (text, r) =>
        (.text text, Rest.beyond r (Rest.length_le_cons c cs))
      else if isLower c then
        (wordOf? (c :: cs.takeWhile isLower)).map fun v =>
          (.value v, Rest.step (Rest.dropping isLower cs))
      else if c = '-' then (number? true cs).map fun (t, r) =>
        (t, Rest.beyond r (Rest.length_le_cons c cs))
      else number? false (c :: cs)

def tokens? (cs : List Char) : Option (List Token) :=
  if (Rest.dropping isSpace cs).val.isEmpty then some []
  else
    match scan? (Rest.dropping isSpace cs).val with
    | none => none
    | some (t, r) =>
      have : r.val.length < cs.length :=
        Nat.lt_of_lt_of_le r.property (Rest.dropping isSpace cs).property
      (tokens? r.val).map (t :: ·)
termination_by cs.length

end AccountRegistry.Json
