import AccountRegistry.Text.Blank
import AccountRegistry.Text.Digits
import AccountRegistry.Text.Rest

set_option autoImplicit false

/-!
# Tokens of TOML

The marks, words, strings, blanks and comments that a TOML text consists of. A
text that does not split into tokens is no TOML. The tokens do not depend on
where in the text they stand.
-/
namespace AccountRegistry.Toml
open AccountRegistry.Text

inductive Token where
  | newline
  | blank (text : List Char)
  | comment
  | equals
  | period
  | comma
  | colon
  | plus
  | openBrace
  | closeBrace
  | openBracket
  | closeBracket
  | word (text : List Char)
  | quoted (text : List Char) (multiline : Bool)
deriving DecidableEq, Repr

inductive Quotes where
  | basic
  | literal
deriving DecidableEq, Repr

def Quotes.mark : Quotes → Char
  | .basic => '"'
  | .literal => '\x27'

def isCommentChar (c : Char) : Bool := c = '\t' || 0x20 ≤ c.toNat

def isPlain (c : Char) : Bool := isCommentChar c && c.toNat ≠ 0x7F

def isWordChar (c : Char) : Bool :=
  ('a' ≤ c && c ≤ 'z') || ('A' ≤ c && c ≤ 'Z') || ('0' ≤ c && c ≤ '9') || c = '-' || c = '_'

def codePoint? (width : Nat) (cs : List Char) : Option (List Char × NoLonger cs) :=
  if (cs.take width).length = width then
    match Digits.read? 16 (cs.take width) with
    | some n => if n.isValidChar then some ([Char.ofNat n], Rest.dropped width cs) else none
    | none => none
  else none

def lineJoin? (cs : List Char) : Option (List Char × NoLonger cs) :=
  match Rest.dropping isBlank cs with
  | ⟨'\n' :: rest, h⟩ =>
    let r := Rest.dropping (fun c => isBlank c || c = '\n') rest
    some ([], ⟨r.val, by have := r.property; simp only [List.length_cons] at h; omega⟩)
  | _ => none

def escape? (multiline : Bool) : (cs : List Char) → Option (List Char × NoLonger cs)
  | [] => none
  | c :: cs =>
    let one (d : Char) : Option (List Char × NoLonger (c :: cs)) :=
      some ([d], ⟨cs, Rest.length_le_cons c cs⟩)
    match c with
    | '"' => one '"'
    | '\\' => one '\\'
    | 'b' => one '\x08'
    | 't' => one '\t'
    | 'n' => one '\n'
    | 'f' => one '\x0c'
    | 'r' => one '\r'
    | 'u' => (codePoint? 4 cs).map fun (d, r) => (d, Rest.within r (Rest.length_le_cons c cs))
    | 'U' => (codePoint? 8 cs).map fun (d, r) => (d, Rest.within r (Rest.length_le_cons c cs))
    | _ => if multiline then lineJoin? (c :: cs) else none

/-- Whether a string ends at a quote, read after it. A multi-line string ends at three quotes,
and up to two more of them before the last three belong to its text. -/
def closing? (mark : Char) (multiline : Bool) (cs : List Char) :
    Option (List Char × NoLonger cs) :=
  if multiline then
    if (cs.take 2).all (· = mark) ∧ (cs.take 2).length = 2 then
      let extra := min 2 ((cs.drop 2).takeWhile (· = mark)).length
      some (List.replicate extra mark, Rest.dropped (2 + extra) cs)
    else none
  else some ([], Rest.all cs)

/-- A step through a string: the text it adds and whether it ends the string. -/
structure Piece (cs : List Char) where
  closes : Bool
  text : List Char
  rest : NoLonger cs

def piece? (quotes : Quotes) (multiline : Bool) (c : Char) (cs : List Char) : Option (Piece cs) :=
  let itself : Piece cs := ⟨false, [c], Rest.all cs⟩
  if c = quotes.mark then
    match closing? quotes.mark multiline cs with
    | some (extra, r) => some ⟨true, extra, r⟩
    | none => some itself
  else if c = '\n' then if multiline then some itself else none
  else if c = '\\' ∧ quotes = .basic then
    (escape? multiline cs).map fun (text, r) => ⟨false, text, r⟩
  else if isPlain c then some itself
  else none

def body? (quotes : Quotes) (multiline : Bool) (cs : List Char) :
    Option (List Char × Shorter cs) :=
  match cs with
  | [] => none
  | c :: cs =>
    match piece? quotes multiline c cs with
    | none => none
    | some ⟨true, text, rest⟩ => some (text, Rest.step rest)
    | some ⟨false, text, ⟨rest, h⟩⟩ =>
      have : rest.length < (c :: cs).length := Rest.length_lt_cons c h
      (body? quotes multiline rest).map fun (more, r) =>
        (text ++ more, ⟨r.val, Nat.lt_trans r.property this⟩)
termination_by cs.length
decreasing_by exact this

def afterOpening : (cs : List Char) → NoLonger cs
  | [] => Rest.all []
  | c :: cs => if c = '\n' then ⟨cs, Rest.length_le_cons c cs⟩ else Rest.all (c :: cs)

/-- Reads a string from after its first quote; three quotes open a multi-line string. -/
def string? (quotes : Quotes) (cs : List Char) : Option (Token × NoLonger cs) :=
  if (cs.take 2).all (· = quotes.mark) ∧ (cs.take 2).length = 2 then
    let start := afterOpening (cs.drop 2)
    (body? quotes true start.val).map fun (text, r) =>
      (.quoted text true, ⟨r.val, by
        have := r.property
        have := start.property
        simp only [List.length_drop] at this
        omega⟩)
  else if cs.head? = some quotes.mark then some (.quoted [] false, Rest.dropped 1 cs)
  else (body? quotes false cs).map fun (text, r) =>
    (.quoted text false, ⟨r.val, Nat.le_of_lt r.property⟩)

def markOf? : Char → Option Token
  | '\n' => some .newline
  | '=' => some .equals
  | '.' => some .period
  | ',' => some .comma
  | ':' => some .colon
  | '+' => some .plus
  | '\x7b' => some .openBrace
  | '\x7d' => some .closeBrace
  | '[' => some .openBracket
  | ']' => some .closeBracket
  | _ => none

def scan? (c : Char) (cs : List Char) : Option (Token × NoLonger cs) :=
  match markOf? c with
  | some t => some (t, Rest.all cs)
  | none =>
    if c = '"' then string? .basic cs
    else if c = '\x27' then string? .literal cs
    else if c = '#' then some (.comment, Rest.dropping isCommentChar cs)
    else if isBlank c then some (.blank (c :: cs.takeWhile isBlank), Rest.dropping isBlank cs)
    else if isWordChar c then
      some (.word (c :: cs.takeWhile isWordChar), Rest.dropping isWordChar cs)
    else none

def scanAll? (cs : List Char) : Option (List Token) :=
  match cs with
  | [] => some []
  | c :: cs =>
    match scan? c cs with
    | none => none
    | some (t, ⟨rest, h⟩) =>
      have : rest.length < (c :: cs).length := Rest.length_lt_cons c h
      (scanAll? rest).map (t :: ·)
termination_by cs.length
decreasing_by exact this

def foldLineEnds : List Char → List Char
  | [] => []
  | [c] => [c]
  | c :: d :: cs =>
    if c = '\r' ∧ d = '\n' then '\n' :: foldLineEnds cs else c :: foldLineEnds (d :: cs)

def dropByteOrderMark : List Char → List Char
  | '\ufeff' :: cs => cs
  | cs => cs

def tokens? (text : String) : Option (List Token) :=
  scanAll? (foldLineEnds (dropByteOrderMark text.toList))

end AccountRegistry.Toml
