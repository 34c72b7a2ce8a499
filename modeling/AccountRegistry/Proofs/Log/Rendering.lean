import AccountRegistry.Log.Record
import AccountRegistry.Proofs.Text.Indentation

set_option autoImplicit false

/-!
# Records as they are written

The text of a record is its head, its message with all lines but the first
indented, and a newline. Without its control sequences it is the text of the same
record with another message, unless a sequence that has not come to its end takes
the newline in.
-/
namespace AccountRegistry.Log.Record
open AccountRegistry.Text AccountRegistry.Text.ControlSequence

theorem exists_lines (r : Record) : ∃ p ps, pieces '\n' r.message.toList = p :: ps ∧
    r.lines = (r.head ++ String.ofList p) :: ps.map fun q => continuation ++ String.ofList q := by
  obtain ⟨p, ps, hpieces⟩ := List.exists_cons_of_ne_nil (pieces_ne_nil '\n' r.message.toList)
  refine ⟨p, ps, hpieces, ?_⟩
  rw [lines, piecesOf, hpieces, List.map_cons]
  simp

theorem text_eq_ofLines (r : Record) : r.text = ofLines r.lines := by
  obtain ⟨p, ps, -, hlines⟩ := r.exists_lines
  rw [text, hlines, intercalate_newline]

theorem join_texts (records : List Record) :
    String.join (records.map text) = ofLines (records.flatMap lines) := by
  induction records with
  | nil => rfl
  | cons r records ih =>
    rw [List.map_cons, List.flatMap_cons, ofLines_append, ← ih, ← text_eq_ofLines]
    simp

theorem toList_text (r : Record) :
    r.text.toList = r.head.toList ++ (indented r.message.toList ++ ['\n']) := by
  obtain ⟨p, ps, hpieces, hlines⟩ := r.exists_lines
  have hblanks : continuation.toList = blanks := rfl
  have hlists : r.lines.map String.toList = (r.head.toList ++ p) :: ps.map (blanks ++ ·) := by
    simp [hlines, hblanks]
  rw [text, String.toList_append, String.toList_intercalate, hlists]
  exact (congrArg (· ++ _) (intercalate_pieces _ _ hpieces)).trans (List.append_assoc ..)

def shown (r : Record) : Record :=
  { r with message := String.ofList (shownFrom .plain r.message.toList) }

/-- No control sequence of the message takes in the newline at the end of the record. -/
def keepsNewline (r : Record) : Bool :=
  ((Scan.plain.past (indented r.message.toList)).next '\n').2

/-- Nothing in the name of a target is taken for its end, for the end of a line or for a command. -/
def isTargetName (t : String) : Bool := t.toList.all fun c => isText c && c ≠ ']' && c ≠ '\n'

theorem isTargetName_iff {t : String} : isTargetName t = true ↔
    ∀ c ∈ t.toList, isText c = true ∧ c ≠ ']' ∧ c ≠ '\n' := by
  simp [isTargetName, and_assoc]

theorem isText_column (l : Level) : l.column.toList.all isText = true := by
  cases l <;> decide

theorem toList_head (r : Record) : r.head.toList =
    '[' :: (r.level.column.toList ++ ' ' :: (r.target.toList ++ [']', ' '])) := by
  simp [head]

theorem newline_notMem_head {r : Record} (h : isTargetName r.target = true) :
    '\n' ∉ r.head.toList := by
  have hcolumn : '\n' ∉ r.level.column.toList := by cases r.level <;> decide
  have htarget : '\n' ∉ r.target.toList := fun hmem => (isTargetName_iff.1 h _ hmem).2.2 rfl
  simp [toList_head, hcolumn, htarget]

theorem newline_notMem_lines {r : Record} (h : isTargetName r.target = true) :
    ∀ l ∈ r.lines, '\n' ∉ l.toList := by
  obtain ⟨p, ps, hpieces, hlines⟩ := r.exists_lines
  have hpiece : ∀ q ∈ p :: ps, '\n' ∉ q := fun q hq => notMem_of_mem_pieces (hpieces ▸ hq)
  intro l hl
  rw [hlines] at hl
  obtain rfl | hl := List.mem_cons.1 hl
  · simp [newline_notMem_head h, hpiece p List.mem_cons_self]
  · obtain ⟨q, hq, rfl⟩ := List.mem_map.1 hl
    simp [continuation, hpiece q (List.mem_cons_of_mem p hq)]

theorem scan_head {r : Record} (h : isTargetName r.target = true) :
    dropFrom .start r.head.toList = r.head.toList ∧ Scan.start.past r.head.toList = .plain := by
  have hbracket : Scan.start.next '[' = (.plain, true) := by decide
  have hrest : ∀ c ∈ r.level.column.toList ++ ' ' :: (r.target.toList ++ [']', ' ']),
      isText c = true := by
    intro c hc
    simp only [List.mem_append, List.mem_cons, List.not_mem_nil, or_false] at hc
    obtain hc | rfl | hc | rfl | rfl := hc
    · exact List.all_eq_true.1 (isText_column r.level) c hc
    · decide
    · exact (isTargetName_iff.1 h c hc).1
    · decide
    · decide
  rw [toList_head]
  constructor
  · rw [dropFrom_cons, hbracket, dropFrom_plain hrest]
    rfl
  · rw [Scan.past, List.foldl_cons, hbracket]
    exact past_plain hrest

theorem toList_written {r : Record} (h : isTargetName r.target = true) : r.written.toList =
    r.head.toList ++ (indented r.shown.message.toList ++ if r.keepsNewline then ['\n'] else []) := by
  obtain ⟨hhead, hplain⟩ := scan_head h
  have hnewline : ∀ s : Scan, dropFrom s ['\n'] = if (s.next '\n').2 then ['\n'] else [] :=
    fun s => (dropFrom_cons s '\n' []).trans (List.append_nil _)
  rw [written, withoutControls, String.toList_ofList, toList_text, dropFrom_append, hhead, hplain,
    dropFrom_append, dropFrom_indented, hnewline, shown, String.toList_ofList]
  rfl

theorem written_eq_text {r : Record} (h : isTargetName r.target = true)
    (hend : r.keepsNewline = true) : r.written = r.shown.text := by
  have hlists : r.written.toList = r.shown.text.toList := by
    rw [toList_written h, if_pos hend, toList_text]
    rfl
  exact String.toList_inj.1 hlists

section Plain
variable {r : Record} (h : isPlainText r.message = true)
include h

theorem shown_of_isPlainText : r.shown = r := by
  rw [shown, shownFrom_plain (List.all_eq_true.1 h), String.ofList_toList]

theorem keepsNewline_of_isPlainText : r.keepsNewline = true := by
  rw [keepsNewline, past_plain fun c hc => isText_indented (List.all_eq_true.1 h) hc]
  rfl

end Plain

end AccountRegistry.Log.Record
