import AccountRegistry.Proofs.Log.Rendering
import Mathlib.Data.List.Forall2

set_option autoImplicit false

/-!
# Records read back from lines

A line that begins with a bracket opens a record, and a line that begins with
four blanks goes on with the record before it. Whatever is in the messages, the
lines of some records are read back as these records: a message has no part in
how its lines begin.
-/
namespace AccountRegistry.Log
open AccountRegistry.Text

def columnWidth : Nat := 5

def Level.ofColumn? (cs : List Char) : Option Level :=
  [.error, .warn, .info, .debug, .trace].find? fun l : Level => l.column.toList = cs

theorem Level.length_column (l : Level) : l.column.toList.length = columnWidth := by
  cases l <;> rfl

theorem Level.ofColumn?_column (l : Level) : Level.ofColumn? l.column.toList = some l := by
  cases l <;> decide

def opensRecord (line : String) : Bool := line.toList.head? = some '['

namespace Record

/-- Reads a level and a target in brackets; what follows them on the line is the message. -/
def ofOpening? (line : String) : Option Record := do
  let rest ← ['['].isPrefixOf? line.toList
  let level ← Level.ofColumn? (rest.take columnWidth)
  let rest ← [' '].isPrefixOf? (rest.drop columnWidth)
  let message ← [']', ' '].isPrefixOf? (rest.dropWhile (· ≠ ']'))
  return ⟨level, String.ofList (rest.takeWhile (· ≠ ']')), String.ofList message⟩

def continued (r : Record) (line : String) : Record :=
  { r with message := r.message ++ "\n" ++ line }

end Record

def unindented? (line : String) : Option String :=
  (blanks.isPrefixOf? line.toList).map String.ofList

/-- Reads lines after a record that may go on; lines of any other kind are passed over. -/
def decodeAfter (r : Option Record) : List String → List Record
  | [] => r.toList
  | line :: lines =>
    match Record.ofOpening? line, unindented? line with
    | some next, _ => r.toList ++ decodeAfter (some next) lines
    | none, some rest => decodeAfter (r.map (·.continued rest)) lines
    | none, none => decodeAfter r lines

def decode (lines : List String) : List Record := decodeAfter none lines

namespace Record

theorem ofOpening?_of_not_opensRecord {line : String} (h : opensRecord line = false) :
    ofOpening? line = none := by
  have hbracket : ['['].isPrefixOf? line.toList = none := by
    rw [opensRecord, decide_eq_false_iff_not] at h
    cases hline : line.toList with
    | nil => rfl
    | cons c cs =>
      rw [hline, List.head?_cons, Option.some.injEq] at h
      simp [List.isPrefixOf?, Ne.symm h]
  rw [ofOpening?, hbracket]
  rfl

theorem ofOpening?_head {r : Record} (h : isTargetName r.target = true) (p : List Char) :
    ofOpening? (r.head ++ String.ofList p) = some { r with message := String.ofList p } := by
  have hline : (r.head ++ String.ofList p).toList =
      ['['] ++ (r.level.column.toList ++ ([' '] ++ (r.target.toList ++ ([']', ' '] ++ p)))) := by
    simp [toList_head]
  have hprefix : ∀ front rest : List Char, front.isPrefixOf? (front ++ rest) = some rest :=
    fun _ _ => List.isPrefixOf?_eq_some_iff_append_eq.2 rfl
  have htarget : ∀ c ∈ r.target.toList, decide (c ≠ ']') = true :=
    fun c hc => decide_eq_true (isTargetName_iff.1 h c hc).2.1
  have htake : (r.target.toList ++ ([']', ' '] ++ p)).takeWhile (· ≠ ']') = r.target.toList := by
    rw [List.takeWhile_append_of_pos htarget]
    simp
  have hdrop : (r.target.toList ++ ([']', ' '] ++ p)).dropWhile (· ≠ ']') = [']', ' '] ++ p := by
    rw [List.dropWhile_append_of_pos htarget]
    simp
  simp only [ofOpening?, hline, hprefix, List.take_left' (Level.length_column r.level),
    List.drop_left' (Level.length_column r.level), Level.ofColumn?_column, htake, hdrop,
    Option.bind_eq_bind, Option.bind_some, String.ofList_toList]
  rfl

theorem opensRecord_head (r : Record) (s : String) : opensRecord (r.head ++ s) = true := by
  simp [opensRecord, toList_head]

theorem opensRecord_continuation (s : String) : opensRecord (continuation ++ s) = false := by
  simp [opensRecord, continuation]

theorem unindented?_continuation (s : String) : unindented? (continuation ++ s) = some s := by
  have hline : (continuation ++ s).toList = blanks ++ s.toList := String.toList_append
  rw [unindented?, hline, List.isPrefixOf?_eq_some_iff_append_eq.2 rfl, Option.map_some,
    String.ofList_toList]

theorem decodeAfter_continuations (r : Record) (ps : List (List Char)) (lines : List String) :
    decodeAfter (some r) (ps.map (fun q => continuation ++ String.ofList q) ++ lines) =
      decodeAfter (some { r with
        message := r.message ++ String.ofList (ps.flatMap (['\n'] ++ ·)) }) lines := by
  induction ps generalizing r with
  | nil => simp
  | cons q ps ih =>
    rw [List.map_cons, List.cons_append, decodeAfter,
      ofOpening?_of_not_opensRecord (opensRecord_continuation _), unindented?_continuation]
    dsimp only [Option.map_some]
    rw [ih]
    simp [continued, String.append_assoc]

theorem decodeAfter_lines {r : Record} (h : isTargetName r.target = true) (before : Option Record)
    (lines : List String) :
    decodeAfter before (r.lines ++ lines) = before.toList ++ decodeAfter (some r) lines := by
  obtain ⟨p, ps, hpieces, hlines⟩ := r.exists_lines
  have hmessage : String.ofList p ++ String.ofList (ps.flatMap (['\n'] ++ ·)) = r.message := by
    rw [← String.ofList_append, ← joined_eq_flatMap, ← hpieces, joined_pieces,
      String.ofList_toList]
  rw [hlines, List.cons_append, decodeAfter, ofOpening?_head h]
  dsimp only
  rw [decodeAfter_continuations, hmessage]

end Record

theorem decodeAfter_flatMap {records : List Record}
    (h : ∀ r ∈ records, Record.isTargetName r.target = true) (before : Option Record) :
    decodeAfter before (records.flatMap Record.lines) = before.toList ++ records := by
  induction records generalizing before with
  | nil => exact (List.append_nil _).symm
  | cons r records ih =>
    obtain ⟨hr, hrecords⟩ := List.forall_mem_cons.1 h
    rw [List.flatMap_cons, Record.decodeAfter_lines hr, ih hrecords]
    rfl

theorem decode_append {foreword : List String} (h : ∀ l ∈ foreword, opensRecord l = false)
    (lines : List String) : decode (foreword ++ lines) = decode lines := by
  induction foreword with
  | nil => rfl
  | cons l foreword ih =>
    obtain ⟨hl, hforeword⟩ := List.forall_mem_cons.1 h
    rw [← ih hforeword, decode, List.cons_append, decodeAfter,
      Record.ofOpening?_of_not_opensRecord hl]
    cases unindented? l <;> rfl

theorem Record.opening_lines (r : Record) :
    ∃ s, r.lines.filter opensRecord = [r.head ++ s] := by
  obtain ⟨p, ps, -, hlines⟩ := r.exists_lines
  refine ⟨String.ofList p, ?_⟩
  rw [hlines, List.filter_cons_of_pos (opensRecord_head r _), List.filter_eq_nil_iff.2]
  intro l hl
  obtain ⟨q, -, rfl⟩ := List.mem_map.1 hl
  rw [opensRecord_continuation]
  exact Bool.false_ne_true

def Begins (line : String) (r : Record) : Prop := r.head.toList <+: line.toList

/-- Some lines tell some records: the lines that begin with a bracket are one for each record, in
the same order, and the records are read from the lines. -/
structure Tells (lines : List String) (records : List Record) : Prop where
  opened : List.Forall₂ Begins (lines.filter opensRecord) records
  decoded : decode lines = records

theorem opened_flatMap (records : List Record) :
    List.Forall₂ Begins ((records.flatMap Record.lines).filter opensRecord) records := by
  induction records with
  | nil => exact .nil
  | cons r records ih =>
    obtain ⟨s, hs⟩ := r.opening_lines
    rw [List.flatMap_cons, List.filter_append, hs]
    refine .cons ?_ ih
    rw [Begins, String.toList_append]
    exact List.prefix_append _ _

theorem tells_flatMap {records : List Record}
    (h : ∀ r ∈ records, Record.isTargetName r.target = true) :
    Tells (records.flatMap Record.lines) records where
  opened := opened_flatMap records
  decoded := decodeAfter_flatMap h none

example : decode ["warning: x", "    y", "[WARN  a] b", "    [INFO  c] d", "[DEBUG e] f"] =
    [⟨.warn, "a", "b\n[INFO  c] d"⟩, ⟨.debug, "e", "f"⟩] := by
  decide +kernel

theorem filter_opensRecord_append {foreword : List String}
    (h : ∀ l ∈ foreword, opensRecord l = false) (lines : List String) :
    (foreword ++ lines).filter opensRecord = lines.filter opensRecord := by
  have hnone : foreword.filter opensRecord = [] :=
    List.filter_eq_nil_iff.2 fun l hl => Bool.eq_false_iff.1 (h l hl)
  rw [List.filter_append, hnone, List.nil_append]

theorem Tells.preceded {foreword lines : List String} {records : List Record}
    (h : Tells lines records) (hforeword : ∀ l ∈ foreword, opensRecord l = false) :
    Tells (foreword ++ lines) records where
  opened := filter_opensRecord_append hforeword lines ▸ h.opened
  decoded := (decode_append hforeword lines).trans h.decoded

end AccountRegistry.Log
