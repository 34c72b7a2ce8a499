import AccountRegistry.Text.Split
import AccountRegistry.Toml.Item
import AccountRegistry.Toml.Token

set_option autoImplicit false

/-!
# Numbers and dates of TOML

A word that starts a number or a date, together with the tokens after it that
belong to the same literal: a fraction, a signed exponent, the parts of a time.
-/
namespace AccountRegistry.Toml
open AccountRegistry.Text AccountRegistry.Number
open AccountRegistry.Settings (Scalar)

/-- Digits at the front with single underscores between them, and what follows. Without
`zeros` only the digit zero alone may start with a zero. -/
def digitRun? (base : Nat) (zeros : Bool) (cs : List Char) : Option (List Char × List Char) :=
  let run := cs.takeWhile fun c => c = '_' || (Digits.valueIn? base c).isSome
  let parts := pieces '_' run
  if parts.any (·.isEmpty) then none
  else if !zeros && 1 < run.length && run.head? = some '0' then none
  else some (parts.flatten, cs.drop run.length)

def whole? (base : Nat) (signs zeros : Bool) (cs : List Char) : Option Scalar := do
  let (negative, cs) := if signs then Digits.splitMinus cs else (false, cs)
  let (ds, rest) ← digitRun? base zeros cs
  guard rest.isEmpty
  let n := Digits.withSign negative (← Digits.read? base ds)
  if Digits.isWord64 n then some (.whole n) else none

/-- The exponent that starts at the end of a word, with the tokens after the word. An exponent
sign of plus is a token of its own, so the digits may be in the next word. -/
def exponent? (cs : List Char) (ts : List Token) : Option (Int × NoLonger ts) :=
  match cs with
  | [] => some (0, Rest.all ts)
  | e :: cs =>
    if e ≠ 'e' ∧ e ≠ 'E' then none
    else if cs.isEmpty then
      match ts with
      | .plus :: .word w :: rest => do
        let (ds, more) ← digitRun? 10 true w
        guard more.isEmpty
        return ((← Digits.read? 10 ds : Nat), ⟨rest, by simp only [List.length_cons]; omega⟩)
      | .word w :: rest => do
        let (ds, more) ← digitRun? 10 true w
        guard more.isEmpty
        return ((← Digits.read? 10 ds : Nat), ⟨rest, by simp only [List.length_cons]; omega⟩)
      | _ => none
    else do
      let (negative, cs) := Digits.splitMinus cs
      let (ds, more) ← digitRun? 10 true cs
      guard more.isEmpty
      return (Digits.withSign negative (← Digits.read? 10 ds), Rest.all ts)

/-- A decimal with its whole part in `s` and its fraction, if any, in another word. A number
too great to be finite is refused. -/
def real? (s : List Char) (fraction : Option (List Char)) (ts : List Token) :
    Option (Scalar × NoLonger ts) := do
  let (negative, s) := Digits.splitMinus s
  let (whole, more) ← digitRun? 10 false s
  let (places, more) ← match fraction with
    | none => some ([], more)
    | some f => if more.isEmpty then digitRun? 10 true f else none
  let (exponent, rest) ← exponent? more ts
  let digits ← Digits.read? 10 (whole ++ places)
  let x ← Binary64.ofDecimal? negative digits (exponent - places.length)
  return (.real x, rest)

def announcedBase? : List Char → Option (Nat × List Char)
  | '0' :: 'x' :: ds => some (16, ds)
  | '0' :: 'o' :: ds => some (8, ds)
  | '0' :: 'b' :: ds => some (2, ds)
  | _ => none

def plainNumber? (s : List Char) : Option Scalar :=
  if s = "inf".toList then some (.real (.infinite false))
  else if s = "-inf".toList then some (.real (.infinite true))
  else if s = "nan".toList ∨ s = "-nan".toList then some (.real .nan)
  else whole? 10 true false s

def fractional? (s : List Char) (ts : List Token) : Option (Scalar × NoLonger ts) :=
  match ts with
  | .period :: .word f :: rest =>
    (real? s (some f) rest).map fun (v, r) =>
      (v, ⟨r.val, by have := r.property; simp only [List.length_cons]; omega⟩)
  | _ => none

def number? (s : List Char) (ts : List Token) : Option (Scalar × NoLonger ts) :=
  match announcedBase? s with
  | some (base, ds) => (whole? base false true ds).map (·, Rest.all ts)
  | none =>
    if s.any (fun c => c = 'e' || c = 'E') then real? s none ts
    else if ts.head? = some .period then fractional? s ts
    else (plainNumber? s).map (·, Rest.all ts)

def spacedWord (ts : List Token) : List Char × NoLonger ts :=
  match ts with
  | .blank [' '] :: .word w :: rest => (' ' :: w, ⟨rest, by simp only [List.length_cons]; omega⟩)
  | ts => ([], Rest.all ts)

def markedWord? (mark : Token) (c : Char) (ts : List Token) : Option (List Char × NoLonger ts) :=
  match ts with
  | t :: w :: rest =>
    if t = mark then
      match w with
      | .word w => some (c :: w, ⟨rest, by simp only [List.length_cons]; omega⟩)
      | _ => none
    else some ([], Rest.all _)
  | [t] => if t = mark then none else some ([], Rest.all _)
  | [] => some ([], Rest.all _)

def timeTail? (ts : List Token) : Option (List Char × NoLonger ts) :=
  match ts with
  | .colon :: .word minutes :: .colon :: .word seconds :: ts => do
    let (fraction, ⟨ts, h₁⟩) ← markedWord? .period '.' ts
    let (plus, ⟨ts, h₂⟩) ← markedWord? .plus '+' ts
    let (colon, ⟨ts, h₃⟩) ← markedWord? .colon ':' ts
    return (':' :: minutes ++ ':' :: seconds ++ fraction ++ plus ++ colon,
      ⟨ts, by simp only [List.length_cons]; omega⟩)
  | .colon :: _ => none
  | ts => some ([], Rest.all ts)

/-- The text of what is to be a date or a time, from the word `s` on. -/
def moment? (s : List Char) (ts : List Token) : Option (Item × NoLonger ts) := do
  let (hour, ⟨ts, h₁⟩) := spacedWord ts
  let (time, ⟨ts, h₂⟩) ← timeTail? ts
  return (.moment (s ++ hour ++ time), ⟨ts, by omega⟩)

def hasPair (a b : Char) : List Char → Bool
  | [] => false
  | c :: cs => (c = a && cs.head? = some b) || hasPair a b cs

/-- Whether a word can only be the start of a date: it holds the letter between date and time,
or a minus that is neither a sign nor part of an exponent. -/
def looksLikeDate (s : List Char) : Bool :=
  s.any (fun c => c = 'T' || c = 't') ||
    ((s.drop 1).any (· = '-') && !hasPair 'e' '-' s && !hasPair 'E' '-' s)

def numberOrMoment? (s : List Char) (ts : List Token) : Option (Item × NoLonger ts) :=
  if looksLikeDate s || ts.head? = some .colon then moment? s ts
  else (number? s ts).map fun (n, r) => (.scalar n, r)

end AccountRegistry.Toml
