import AccountRegistry.Log.Filter
import AccountRegistry.Proofs.Log.Decoding

set_option autoImplicit false

/-!
# The lines of a log

A line of a log begins with a bracket only if it begins with the head of a record
that passes, whatever the messages are: a control sequence can take a newline in
and so leave a record without a line of its own, but it cannot make a line look
like a record. Where no newline is taken in, every record has its lines.
-/
namespace AccountRegistry.Log
open AccountRegistry.Text

def openings (ps : List (List Char)) : List (List Char) :=
  ps.filter fun p => p.head? = some '['

theorem filter_opensRecord_linesOf (s : String) :
    (linesOf s).filter opensRecord = (openings (pieces '\n' s.toList)).map String.ofList := by
  have hkept : ∀ ps : List (List Char), openings (if ps.getLast? = some [] then ps.dropLast else ps) =
      openings ps := by
    intro ps
    split
    · next hlast =>
      have hps : ps.dropLast ++ [[]] = ps := List.dropLast_append_getLast? [] hlast
      have hempty : openings [[]] = [] := rfl
      conv_rhs => rw [← hps, openings, List.filter_append]
      exact (List.append_nil _).symm
    · rfl
  have hopens : opensRecord ∘ String.ofList = fun p : List Char => decide (p.head? = some '[') := by
    funext p
    rw [Function.comp, opensRecord, String.toList_ofList]
  rw [linesOf, List.filter_map, hopens]
  exact congrArg _ (hkept _)

theorem openings_indented (cs rest : List Char) :
    openings (pieces '\n' (indented cs ++ rest)).tail = openings (pieces '\n' rest).tail := by
  induction cs with
  | nil => rfl
  | cons c cs ih =>
    obtain ⟨q, qs, hq⟩ := List.exists_cons_of_ne_nil (pieces_ne_nil '\n' (indented cs ++ rest))
    rw [hq] at ih
    by_cases hc : c = '\n'
    · have hblanks : '\n' ∉ blanks := by decide
      rw [hc, indented_newline, List.cons_append, List.append_assoc, pieces, if_pos rfl,
        pieces_append_of_notMem hblanks hq]
      exact ih
    · rw [indented_cons hc, List.cons_append, pieces, if_neg hc, hq]
      exact ih

/-- A record opens one line. What comes after it opens what it would open on its own, but for its
first line where the newline of the record is taken in. -/
theorem openings_record {r : Record} (h : Record.isTargetName r.target = true) (rest : List Char) :
    let later := if r.keepsNewline then pieces '\n' rest else (pieces '\n' rest).tail
    ∃ p, r.head.toList <+: p ∧
      openings (pieces '\n' (r.written.toList ++ rest)) = p :: openings later ∧
      openings (pieces '\n' (r.written.toList ++ rest)).tail = openings later := by
  intro later
  have hwritten : r.written.toList ++ rest = r.head.toList ++ (indented r.shown.message.toList ++
      ((if r.keepsNewline then ['\n'] else []) ++ rest)) := by
    rw [Record.toList_written h, List.append_assoc, List.append_assoc]
  have hlater : openings (pieces '\n' (indented r.shown.message.toList ++
      ((if r.keepsNewline then ['\n'] else []) ++ rest))).tail = openings later := by
    rw [openings_indented]
    dsimp only [later]
    split
    · rw [List.singleton_append, pieces, if_pos rfl, List.tail_cons]
    · rfl
  obtain ⟨q, qs, hq⟩ := List.exists_cons_of_ne_nil (pieces_ne_nil '\n'
    (indented r.shown.message.toList ++ ((if r.keepsNewline then ['\n'] else []) ++ rest)))
  have hpieces := pieces_append_of_notMem (Record.newline_notMem_head h) hq
  rw [hq, List.tail_cons] at hlater
  refine ⟨r.head.toList ++ q, List.prefix_append _ _, ?_, ?_⟩
  · rw [hwritten, hpieces, ← hlater]
    simp [openings, Record.toList_head]
  · rw [hwritten, hpieces, List.tail_cons, hlater]

/-- The lines of some records that begin with a bracket begin with the heads of records, and so do
those without the first line, which may go on with another one. -/
theorem openings_written {records : List Record}
    (h : ∀ r ∈ records, Record.isTargetName r.target = true) :
    let ps := pieces '\n' (records.flatMap (·.written.toList))
    List.SublistForall₂ (fun p r => r.head.toList <+: p) (openings ps) records ∧
      List.SublistForall₂ (fun p r => r.head.toList <+: p) (openings ps.tail) records := by
  induction records with
  | nil => exact ⟨.nil, .nil⟩
  | cons r records ih =>
    obtain ⟨hr, hrecords⟩ := List.forall_mem_cons.1 h
    obtain ⟨hwhole, htail⟩ := ih hrecords
    obtain ⟨p, hp, hopen, hlater⟩ := openings_record hr (records.flatMap (·.written.toList))
    rw [List.flatMap_cons]
    dsimp only
    rw [hopen, hlater]
    split
    · exact ⟨.cons hp hwhole, .cons_right hwhole⟩
    · exact ⟨.cons hp htail, .cons_right htail⟩

namespace Filter

section Written
variable {f : Filter} {records : List Record}
  (htargets : ∀ r ∈ records.filter f.admits, Record.isTargetName r.target = true)
include htargets

/-- No line looks like the first line of a record that does not pass or is not there. -/
theorem unforged_written : List.SublistForall₂ Begins
    ((linesOf (f.written records)).filter opensRecord) (records.filter f.admits) := by
  have hlists : (f.written records).toList =
      (records.filter f.admits).flatMap (·.written.toList) := by
    rw [Filter.written, String.toList_join, List.flatMap_map]
  rw [filter_opensRecord_linesOf, hlists, List.sublistForall₂_map_left_iff]
  simpa [Begins] using (openings_written htargets).1

theorem linesOf_written (hkeeps : ∀ r ∈ records.filter f.admits, r.keepsNewline = true) :
    linesOf (f.written records) =
      ((records.filter f.admits).map Record.shown).flatMap Record.lines := by
  have hwritten : f.written records =
      ofLines (((records.filter f.admits).map Record.shown).flatMap Record.lines) := by
    rw [← Record.join_texts, List.map_map, Filter.written]
    exact congrArg String.join
      (List.map_congr_left fun r hr => Record.written_eq_text (htargets r hr) (hkeeps r hr))
  rw [hwritten, linesOf_ofLines]
  intro l hl
  obtain ⟨s, hs, hl⟩ := List.mem_flatMap.1 hl
  obtain ⟨r, hr, rfl⟩ := List.mem_map.1 hs
  have htarget : Record.isTargetName r.shown.target = true := htargets r hr
  exact Record.newline_notMem_lines htarget l hl

theorem tells_written (hkeeps : ∀ r ∈ records.filter f.admits, r.keepsNewline = true) :
    Tells (linesOf (f.written records)) ((records.filter f.admits).map Record.shown) := by
  rw [linesOf_written htargets hkeeps]
  refine tells_flatMap fun s hs => ?_
  obtain ⟨r, hr, rfl⟩ := List.mem_map.1 hs
  exact htargets r hr

end Written

end Filter
end AccountRegistry.Log
