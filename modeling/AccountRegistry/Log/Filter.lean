import AccountRegistry.Log.Record
import AccountRegistry.Pattern.Basic

set_option autoImplicit false

/-!
# Log filters

A list of directives, each a level for the targets with a common start, and
possibly a pattern that has to be in the message. The directive of the longest
start decides, of two with starts of one length the later; a record that no
directive speaks of is dropped. Whatever cannot be read as a part of a filter is
left out with a complaint.
-/
namespace AccountRegistry.Log
open AccountRegistry.Text

/-- The least weight that passes; none lets nothing pass. -/
abbrev Threshold := Option Level

/-- A directive without a start speaks of every target, as does one with an empty start. -/
structure Directive where
  start : Option String
  threshold : Threshold
deriving DecidableEq, Repr

structure Filter where
  directives : List Directive
  pattern : Option Pattern
deriving Repr

def Threshold.admits (t : Threshold) (l : Level) : Bool :=
  match t with
  | none => false
  | some most => l.verbosity ≤ most.verbosity

namespace Directive

def startChars (d : Directive) : List Char := (d.start.getD "").toList

def covers (d : Directive) (target : String) : Bool := d.startChars.isPrefixOf target.toList

def insert (d : Directive) (ds : List Directive) : List Directive :=
  if ds.any (·.start = d.start) then ds.map fun e => if e.start = d.start then d else e
  else ds ++ [d]

end Directive

namespace Filter

def deciding? (f : Filter) (target : String) : Option Directive :=
  f.directives.foldl (fun best d =>
    if d.covers target && (best.all fun b => b.startChars.length ≤ d.startChars.length) then some d
    else best) none

def admits (f : Filter) (r : Record) : Bool :=
  ((f.deciding? r.target).any fun d => Threshold.admits d.threshold r.level) &&
    f.pattern.all (·.isIn r.message)

inductive Complaint where
  | slashes (text : String)
  | directive (text : String)
  | pattern (text : String) (refusal : Pattern.Refusal)
deriving DecidableEq, Repr

namespace Complaint

def text : Complaint → String
  | .slashes text => "invalid logging spec '" ++ text ++ "' (too many '/'s)"
  | .directive text => "invalid logging spec '" ++ text ++ "'"
  | .pattern text refusal => "invalid regex filter - " ++ refusal.text text

def written (c : Complaint) : String := "warning: " ++ c.text ++ ", ignoring it\n"

end Complaint

def upper (c : Char) : Char := if 'a' ≤ c ∧ c ≤ 'z' then Char.ofNat (c.toNat - 32) else c

def threshold? (cs : List Char) : Option Threshold :=
  let name := String.ofList (cs.map upper)
  if name = "OFF" then some none
  else ([.error, .warn, .info, .debug, .trace].find? fun l : Level => l.name = name).map some

/-- A level for everything, a start of targets with its level, or a start alone, which lets
everything of it pass. -/
def directive (item : List Char) : Except Complaint Directive :=
  match pieces '=' item with
  | [only] => return match threshold? only with
    | some t => ⟨none, t⟩
    | none => ⟨some (String.ofList only), some .trace⟩
  | [start, level] =>
    let level := trimmed isWhiteSpace level
    let start := some (String.ofList start)
    if level.isEmpty then return ⟨start, some .trace⟩
    else
      match threshold? level with
      | some t => return ⟨start, t⟩
      | none => throw (.directive (String.ofList level))
  | _ => throw (.directive (String.ofList item))

structure Reading where
  filter : Filter
  complaints : List Complaint

def Reading.add (r : Reading) (item : List Char) : Reading :=
  let item := trimmed isWhiteSpace item
  if item.isEmpty then r
  else
    match directive item with
    | .ok d => { r with filter := { r.filter with directives := d.insert r.filter.directives } }
    | .error c => { r with complaints := r.complaints ++ [c] }

def Reading.addPattern (r : Reading) (text : String) : Reading :=
  match Pattern.parse text with
  | .ok p => { r with filter := { r.filter with pattern := some p } }
  | .error refusal => { r with complaints := r.complaints ++ [.pattern text refusal] }

/-- Where there are no directives, errors pass. -/
def Reading.finish (r : Reading) : Reading :=
  if r.filter.directives.isEmpty then
    { r with filter := { r.filter with directives := [⟨none, some .error⟩] } }
  else r

def Reading.ofItems (items : List Char) : Reading :=
  (pieces ',' items).foldl Reading.add ⟨⟨[], none⟩, []⟩

def parse (text : String) : Reading :=
  match pieces '/' text.toList with
  | [items] => (Reading.ofItems items).finish
  | [items, pattern] => ((Reading.ofItems items).addPattern (String.ofList pattern)).finish
  | _ => Reading.finish ⟨⟨[], none⟩, [.slashes text]⟩

def written (f : Filter) (records : List Record) : String :=
  String.join ((records.filter f.admits).map Record.written)

def Reading.written (r : Reading) (records : List Record) : String :=
  String.join (r.complaints.map Complaint.written) ++ r.filter.written records

end Filter

def defaultFilter : String := "info"

end AccountRegistry.Log
