import AccountRegistry.Pattern.Fault
import AccountRegistry.Text.Blank

set_option autoImplicit false

/-!
# Reading a pattern

A reader takes characters at a cursor and never goes back, so that the rest of
the pattern gets no longer; reading in rounds, each of which takes a character,
comes to an end by it.
-/
namespace AccountRegistry.Pattern
open AccountRegistry.Text

/-- A place in a pattern. Where reading is lenient, white space and comments between the parts
are passed over. -/
structure Cursor where
  rest : List Char
  position : Position
  lenient : Bool

namespace Cursor

def atStart (cs : List Char) : Cursor := ⟨cs, .start, false⟩

abbrev NotBefore (c : Cursor) := { d : Cursor // d.rest.length ≤ c.rest.length }

def itself (c : Cursor) : NotBefore c := ⟨c, Nat.le_refl _⟩

def onward (c : Cursor) (d : NotBefore c) (e : NotBefore d.val) : NotBefore c :=
  ⟨e.val, Nat.le_trans e.property d.property⟩

def pass (p : Char → Bool) (c : Cursor) : NotBefore c :=
  ⟨{ c with
      rest := c.rest.dropWhile p
      position := (c.rest.takeWhile p).foldl (fun p c => p.after c) c.position },
    (List.dropWhile_sublist p).length_le⟩

def passCount (n : Nat) (c : Cursor) : NotBefore c :=
  ⟨{ c with
      rest := c.rest.drop n
      position := (c.rest.take n).foldl (fun p c => p.after c) c.position },
    by simp⟩

def spacingLength (inComment : Bool) : List Char → Nat
  | [] => 0
  | c :: cs =>
    if inComment then spacingLength (c ≠ '\n') cs + 1
    else if isWhiteSpace c then spacingLength false cs + 1
    else if c = '#' then spacingLength true cs + 1
    else 0

def passSpacing (c : Cursor) : NotBefore c :=
  if c.lenient then c.passCount (spacingLength false c.rest) else c.itself

end Cursor

def Reader (α : Type) := (c : Cursor) → Except Fault (α × c.NotBefore)

namespace Reader
open Cursor (NotBefore)

variable {α β σ : Type}

def result (a : α) : Reader α := fun c => .ok (a, c.itself)

def andThen (r : Reader α) (f : α → Reader β) : Reader β := fun c =>
  match r c with
  | .error e => .error e
  | .ok (a, d) =>
    match f a d.val with
    | .error e => .error e
    | .ok (b, e) => .ok (b, c.onward d e)

instance : Monad Reader where
  pure := result
  bind := andThen

def fail (cause : Cause) (span : Span) : Reader α := fun _ => .error ⟨cause, span, none⟩

def here : Reader Position := fun c => .ok (c.position, c.itself)

def atEnd : Reader Bool := fun c => .ok (c.rest.isEmpty, c.itself)

def peek : Reader (Option Char) := fun c => .ok (c.rest.head?, c.itself)

def nextSpan : Reader Span := fun c =>
  .ok (⟨c.position, (c.rest.head?.map c.position.after).getD c.position⟩, c.itself)

/-- The character after the next one. Where reading is lenient, white space is passed over, and
one number sign with it. -/
def peekPast : Reader (Option Char) := fun c =>
  let cs := c.rest.drop 1
  let past :=
    if c.lenient then
      match cs.dropWhile isWhiteSpace with
      | '#' :: cs => (cs.dropWhile isWhiteSpace).head?
      | cs => cs.head?
    else none
  .ok (past.or cs.head?, c.itself)

def skip : Reader Unit := fun c => .ok ((), c.passCount 1)

def spacing : Reader Unit := fun c => .ok ((), c.passSpacing)

def skipSpaced : Reader Unit := do
  skip
  spacing

def isLenient : Reader Bool := fun c => .ok (c.lenient, c.itself)

def setLenient (b : Bool) : Reader Unit := fun c =>
  .ok ((), ⟨{ c with lenient := b }, Nat.le_refl _⟩)

def literally (s : String) : Reader Bool := fun c =>
  if s.toList.isPrefixOf c.rest then .ok (true, c.passCount s.length) else .ok (false, c.itself)

def run (p : Char → Bool) : Reader (List Char) := fun c =>
  .ok (c.rest.takeWhile p, c.pass p)

def runSpacedFrom (p : Char → Bool) (c : Cursor) : List (Char × Span) × NotBefore c :=
  match h : c.rest with
  | [] => ([], c.itself)
  | ch :: rest =>
    if p ch then
      let d : Cursor := ⟨rest, c.position.after ch, c.lenient⟩
      have hd : d.passSpacing.val.rest.length < c.rest.length := by
        rw [h, List.length_cons]
        exact Nat.lt_succ_of_le d.passSpacing.property
      let (more, e) := runSpacedFrom p d.passSpacing.val
      ((ch, ⟨c.position, d.position⟩) :: more,
        ⟨e.val, Nat.le_trans e.property (Nat.le_of_lt hd)⟩)
    else ([], c.itself)
termination_by c.rest.length

def runWithSpans (p : Char → Bool) : Reader (List (Char × Span)) := fun c => .ok (runSpacedFrom p c)

def runSpaced (p : Char → Bool) : Reader (List Char) := do
  return (← runWithSpans p).map Prod.fst

/-- What a round comes to: reading goes on, or has its result. -/
inductive Round (σ α : Type) where
  | next (s : σ)
  | done (a : α)

/-- Reads in rounds. Every round is given a character, which it has taken, with its span. -/
def roundsFrom (round : σ → Char → Span → Reader (Round σ α)) (atEnd : σ → Reader α) (s : σ)
    (c : Cursor) : Except Fault (α × NotBefore c) :=
  match h : c.rest with
  | [] => atEnd s c
  | ch :: rest =>
    let d : Cursor := ⟨rest, c.position.after ch, c.lenient⟩
    have hd : d.rest.length < c.rest.length := by simp [d, h]
    match round s ch ⟨c.position, d.position⟩ d with
    | .error e => .error e
    | .ok (.done a, e) => .ok (a, ⟨e.val, Nat.le_trans e.property (Nat.le_of_lt hd)⟩)
    | .ok (.next s, e) =>
      have he : e.val.rest.length < c.rest.length := Nat.lt_of_le_of_lt e.property hd
      match roundsFrom round atEnd s e.val with
      | .error e => .error e
      | .ok (a, f) => .ok (a, ⟨f.val, Nat.le_trans f.property (Nat.le_of_lt he)⟩)
termination_by c.rest.length

def rounds (round : σ → Char → Span → Reader (Round σ α)) (atEnd : σ → Reader α) (s : σ) :
    Reader α := roundsFrom round atEnd s

def read (r : Reader α) (text : String) : Except Fault α :=
  match r (Cursor.atStart text.toList) with
  | .ok (a, _) => .ok a
  | .error e => .error e

end Reader
end AccountRegistry.Pattern
