import AccountRegistry.Pattern.CharSet
import AccountRegistry.Pattern.Term
import AccountRegistry.Text.Split

set_option autoImplicit false

/-!
# What patterns mean

A term with its flags worked in: single characters, sets of them, assertions about
what stands next to a place, repetitions, sequences and choices. Letters of either
case are known in ASCII alone, and only where it is asked for; classes of Unicode
are not known at all.
-/
namespace AccountRegistry.Pattern

/-- An assertion about the characters before and after a place. Words consist of the letters and
digits of ASCII and the underscore, or of whatever Unicode counts as parts of words. -/
inductive Look where
  | textStart
  | textEnd
  | lineStart (crlf : Bool)
  | lineEnd (crlf : Bool)
  | wordBoundary (unicode negated : Bool)
  | wordStart (unicode half : Bool)
  | wordEnd (unicode half : Bool)
deriving DecidableEq, Repr

inductive Expr where
  | empty
  | literal (c : Char)
  | set (s : CharSet)
  | look (l : Look)
  | repetition (least : Nat) (most : Option Nat) (sub : Expr)
  | capture (sub : Expr)
  | concatenation (parts : List Expr)
  | alternation (branches : List Expr)
deriving Repr

structure Mode where
  caseInsensitive : Bool
  multiLine : Bool
  dotMatchesNewLine : Bool
  unicode : Bool
  crlf : Bool
deriving DecidableEq, Repr

namespace Mode

def initial : Mode := ⟨false, false, false, true, false⟩

def apply (flags : Flags) (m : Mode) : Mode where
  caseInsensitive := (flags.state? .caseInsensitive).getD m.caseInsensitive
  multiLine := (flags.state? .multiLine).getD m.multiLine
  dotMatchesNewLine := (flags.state? .dotMatchesNewLine).getD m.dotMatchesNewLine
  unicode := (flags.state? .unicode).getD m.unicode
  crlf := (flags.state? .crlf).getD m.crlf

def greatest (m : Mode) : Nat := if m.unicode then 0x10FFFF else 0xFF

end Mode

def faultAt {α : Type} (cause : Cause) (span : Span) : Except Fault α :=
  throw ⟨cause, span, none⟩

def asciiLetter (c : Char) : Bool := c.isAlpha

def Expr.ofSet (s : CharSet) : Expr :=
  match s.ranges with
  | [(low, high)] => if low = high then .literal (Char.ofNat low) else .set s
  | _ => .set s

namespace Literal

/-- A byte beyond ASCII could only be a part of a character. -/
def check (m : Mode) (l : Literal) : Except Fault Unit :=
  if !m.unicode && l.isByte && 0x80 ≤ l.char.toNat then faultAt .invalidUtf8 l.span else return ()

def expr (m : Mode) (l : Literal) : Except Fault Expr := do
  l.check m
  if !m.caseInsensitive then return .literal l.char
  else if m.unicode then faultAt .unicodeCaseUnavailable l.span
  else if asciiLetter l.char then return .set (CharSet.single l.char.toNat).foldAscii
  else return .literal l.char

def number (m : Mode) (l : Literal) : Except Fault Nat := do
  l.check m
  if !m.unicode && 0x80 ≤ l.char.toNat then faultAt .unicodeNotAllowed l.span
  else return l.char.toNat

end Literal

def dot (m : Mode) (span : Span) : Except Fault Expr :=
  if !m.unicode then faultAt .invalidUtf8 span
  else
    let excluded : CharSet :=
      if m.dotMatchesNewLine then .empty
      else if m.crlf then ⟨[(0x0A, 0x0A), (0x0D, 0x0D)]⟩
      else .single 0x0A
    return .set (excluded.complement m.greatest)

def PerlClass.set : PerlClass → CharSet
  | .digit => ⟨[(0x30, 0x39)]⟩
  | .space => ⟨[(0x09, 0x0D), (0x20, 0x20)]⟩
  | .word => ⟨[(0x30, 0x39), (0x41, 0x5A), (0x5F, 0x5F), (0x61, 0x7A)]⟩

def AsciiClass.set : AsciiClass → CharSet
  | .alnum => ⟨[(0x30, 0x39), (0x41, 0x5A), (0x61, 0x7A)]⟩
  | .alpha => ⟨[(0x41, 0x5A), (0x61, 0x7A)]⟩
  | .ascii => ⟨[(0x00, 0x7F)]⟩
  | .blank => ⟨[(0x09, 0x09), (0x20, 0x20)]⟩
  | .cntrl => ⟨[(0x00, 0x1F), (0x7F, 0x7F)]⟩
  | .digit => ⟨[(0x30, 0x39)]⟩
  | .graph => ⟨[(0x21, 0x7E)]⟩
  | .lower => ⟨[(0x61, 0x7A)]⟩
  | .print => ⟨[(0x20, 0x7E)]⟩
  | .punct => ⟨[(0x21, 0x2F), (0x3A, 0x40), (0x5B, 0x60), (0x7B, 0x7E)]⟩
  | .space => ⟨[(0x09, 0x0D), (0x20, 0x20)]⟩
  | .upper => ⟨[(0x41, 0x5A)]⟩
  | .word => ⟨[(0x30, 0x39), (0x41, 0x5A), (0x5F, 0x5F), (0x61, 0x7A)]⟩
  | .xdigit => ⟨[(0x30, 0x39), (0x41, 0x46), (0x61, 0x66)]⟩

def SetOperation.apply : SetOperation → CharSet → CharSet → CharSet
  | .intersection => CharSet.intersection
  | .difference => CharSet.difference
  | .symmetricDifference => CharSet.symmetricDifference

namespace CharClass

def normalized (query : String) : List Char :=
  let cs := query.toList
  let bare := if (cs.take 2).map Char.toLower = ['i', 's'] then cs.drop 2 else cs
  let kept := (bare.filter fun c => c.toNat < 0x80 ∧ c ≠ ' ' ∧ c ≠ '_' ∧ c ≠ '-').map Char.toLower
  if kept = ['c'] ∧ bare ≠ cs then "isc".toList else kept

/-- Of properties nothing is known. Three names could be those of a value, which then is what is
not found. -/
def propertyCause (query : String) : Cause :=
  if ["cf", "sc", "lc"].contains (String.ofList (normalized query)) then .propertyValueNotFound
  else .propertyNotFound

def namesCharacters : CharClass → Bool
  | .literal _ | .range _ _ _ => true
  | .union _ parts => parts.any fun
    | .literal _ | .range _ _ _ => true
    | _ => false
  | _ => false

def folded (m : Mode) (c : CharClass) (span : Span) (s : CharSet) : Except Fault CharSet :=
  if !m.caseInsensitive then return s
  else if !m.unicode then return s.foldAscii
  else if c.namesCharacters then faultAt .unicodeCaseUnavailable span
  else return s

def negatedIf (m : Mode) (negated : Bool) (span : Span) (s : CharSet) : Except Fault CharSet :=
  let s := if negated then s.complement m.greatest else s
  if !m.unicode && !s.isBelow 0x80 then faultAt .invalidUtf8 span else return s

mutual

def set (m : Mode) : CharClass → Except Fault CharSet
  | .empty _ => return .empty
  | .literal l => return .single (← l.number m)
  | .range _ first last => do
    let low ← first.number m
    let high ← last.number m
    return ⟨[(low, high)]⟩
  | .ascii span negated kind =>
    if m.caseInsensitive && m.unicode then faultAt .unicodeCaseUnavailable span
    else
      negatedIf m negated span (if m.caseInsensitive then kind.set.foldAscii else kind.set)
  | .perl span negated kind =>
    if m.unicode then faultAt .unicodeClassUnavailable span
    else negatedIf m negated span kind.set
  | .property span _ query =>
    if m.unicode then faultAt (propertyCause query) span else faultAt .unicodeNotAllowed span
  | .bracketed span negated inner => do
    negatedIf m negated span (← folded m inner span (← inner.set m))
  | .union _ parts => partsSet m parts
  | .combination _ operation left right => do
    let l ← left.set m
    let r ← right.set m
    let r ← folded m right right.span r
    let l ← folded m left left.span l
    return operation.apply l r

def partsSet (m : Mode) : List CharClass → Except Fault CharSet
  | [] => return .empty
  | c :: cs => do
    let s ← c.set m
    return s.union (← partsSet m cs)

end

end CharClass

def Assertion.look (m : Mode) : Assertion → Look
  | .lineStart => if m.multiLine then .lineStart m.crlf else .textStart
  | .lineEnd => if m.multiLine then .lineEnd m.crlf else .textEnd
  | .textStart => .textStart
  | .textEnd => .textEnd
  | .wordBoundary => .wordBoundary m.unicode false
  | .notWordBoundary => .wordBoundary m.unicode true
  | .wordStart => .wordStart m.unicode false
  | .wordEnd => .wordEnd m.unicode false
  | .wordStartHalf => .wordStart m.unicode true
  | .wordEndHalf => .wordEnd m.unicode true

namespace Expr

mutual

def isVoid : Expr → Bool
  | .empty | .look _ => true
  | .literal _ | .set _ => false
  | .repetition _ _ sub | .capture sub => sub.isVoid
  | .concatenation es | .alternation es => areVoid es

def areVoid : List Expr → Bool
  | [] => true
  | e :: es => e.isVoid && areVoid es

end

def repeated (least : Nat) (most : Option Nat) (sub : Expr) : Expr :=
  let least := if sub.isVoid then min least 1 else least
  let most := if sub.isVoid then some ((most.map (min · 1)).getD 1) else most
  if most = some 0 then .empty
  else if least = 1 ∧ most = some 1 then sub
  else .repetition least most sub

def sequence : List Expr → Expr
  | [] => .empty
  | [e] => e
  | es => .concatenation es

def isEmptyExpr : Expr → Bool
  | .empty => true
  | _ => false

end Expr

mutual

def Term.expr (m : Mode) : Term → Except Fault (Expr × Mode)
  | .empty _ => return (.empty, m)
  | .flags _ items => return (.empty, m.apply items)
  | .literal l => return (← l.expr m, m)
  | .dot span => return (← Pattern.dot m span, m)
  | .assertion _ kind => return (.look (kind.look m), m)
  | .charClass c => return (.ofSet (← c.set m), m)
  | .repetition _ least most sub => do
    let (e, m) ← sub.expr m
    return (.repeated least most e, m)
  | .group _ none sub => return (.capture (← sub.expr m).1, m)
  | .group _ (some flags) sub => return ((← sub.expr (m.apply flags)).1, m)
  | .alternation _ branches => do
    let (es, m) ← termsExpr m branches
    return (.alternation es, m)
  | .concatenation _ parts => do
    let (es, m) ← termsExpr m parts
    return (.sequence (es.filter (!·.isEmptyExpr)), m)

def termsExpr (m : Mode) : List Term → Except Fault (List Expr × Mode)
  | [] => return ([], m)
  | t :: ts => do
    let (e, m) ← t.expr m
    let (es, m) ← termsExpr m ts
    return (e :: es, m)

end

end AccountRegistry.Pattern
