import AccountRegistry.Proofs.Text.Lines
import AccountRegistry.Text.ControlSequence

set_option autoImplicit false

/-!
# Indented text without control sequences

A text whose lines but the first are indented stays such a text when its control
sequences are dropped: a newline goes or stays together with the blanks after it.
Nothing is dropped from a text without controls other than white space.
-/
namespace AccountRegistry.Text

def blanks : List Char := [' ', ' ', ' ', ' ']

def indented (cs : List Char) : List Char :=
  cs.flatMap fun c => if c = '\n' then '\n' :: blanks else [c]

theorem indented_newline (cs : List Char) :
    indented ('\n' :: cs) = '\n' :: (blanks ++ indented cs) := by
  rw [indented, List.flatMap_cons, if_pos rfl]
  rfl

theorem indented_cons {c : Char} (hc : c ≠ '\n') (cs : List Char) :
    indented (c :: cs) = c :: indented cs := by
  rw [indented, List.flatMap_cons, if_neg hc]
  rfl

theorem intercalate_pieces (head cs : List Char) {p : List Char} {ps : List (List Char)}
    (h : pieces '\n' cs = p :: ps) :
    ['\n'].intercalate ((head ++ p) :: ps.map (blanks ++ ·)) = head ++ indented cs := by
  induction cs generalizing head p ps with
  | nil =>
    cases h
    rw [List.map_nil, List.intercalate_singleton]
    rfl
  | cons c cs ih =>
    obtain ⟨q, qs, hrest⟩ : ∃ q qs, pieces '\n' cs = q :: qs :=
      List.exists_cons_of_ne_nil (pieces_ne_nil _ _)
    rw [pieces, hrest] at h
    by_cases hc : c = '\n'
    · rw [if_pos hc] at h
      cases h
      rw [List.map_cons, List.intercalate_cons_cons, ih blanks hrest, hc, indented_newline,
        List.append_nil, List.append_assoc, List.singleton_append]
    · rw [if_neg hc] at h
      cases h
      have hshift : head ++ c :: q = (head ++ [c]) ++ q := by simp
      rw [hshift, ih (head ++ [c]) hrest, indented_cons hc]
      simp

namespace ControlSequence

def Scan.past (s : Scan) (cs : List Char) : Scan := cs.foldl (fun s c => (s.next c).1) s

theorem dropFrom_cons (s : Scan) (c : Char) (cs : List Char) : dropFrom s (c :: cs) =
    (if (s.next c).2 then [c] else []) ++ dropFrom (s.next c).1 cs := by
  rw [dropFrom]
  dsimp only
  split <;> rfl

theorem dropFrom_append (s : Scan) (xs ys : List Char) :
    dropFrom s (xs ++ ys) = dropFrom s xs ++ dropFrom (s.past xs) ys := by
  induction xs generalizing s with
  | nil => rfl
  | cons c xs ih =>
    rw [List.cons_append, dropFrom_cons, dropFrom_cons, ih, List.append_assoc]
    rfl

def Scan.plain : Scan := ⟨.ground, true⟩

theorem next_plain {c : Char} (h : isText c = true) : Scan.plain.next c = (.plain, true) := by
  have hnext : Scan.plain.next c = (if isAscii c then .plain else .plain, true) := by
    rw [Scan.next, h]
    rfl
  rw [hnext, ite_self]

section Plain
variable {cs : List Char} (h : ∀ c ∈ cs, isText c = true)
include h

theorem past_plain : Scan.plain.past cs = .plain := by
  induction cs with
  | nil => rfl
  | cons c cs ih =>
    obtain ⟨hc, hcs⟩ := List.forall_mem_cons.1 h
    rw [Scan.past, List.foldl_cons, next_plain hc]
    exact ih hcs

theorem dropFrom_plain : dropFrom .plain cs = cs := by
  induction cs with
  | nil => rfl
  | cons c cs ih =>
    obtain ⟨hc, hcs⟩ := List.forall_mem_cons.1 h
    rw [dropFrom_cons, next_plain hc, ih hcs]
    rfl

theorem isText_indented {c : Char} (hc : c ∈ indented cs) : isText c = true := by
  obtain ⟨d, hd, hmem⟩ := List.mem_flatMap.1 hc
  split at hmem
  · exact List.all_eq_true.1 (by decide : ('\n' :: blanks).all isText = true) c hmem
  · exact List.mem_singleton.1 hmem ▸ h d hd

end Plain

/-- What is left of a text that is indented and then rid of its controls, its indentation taken
off again. -/
def shownFrom (s : Scan) : List Char → List Char
  | [] => []
  | c :: cs =>
    let next := if c = '\n' then (s.next c).1.past blanks else (s.next c).1
    (if (s.next c).2 then [c] else []) ++ shownFrom next cs

/-- Blanks after a newline are kept if the newline is: then text is being taken, else what was
opened takes them in as well. -/
theorem dropFrom_blanks (s : Scan) :
    dropFrom (s.next '\n').1 blanks = if (s.next '\n').2 then blanks else [] := by
  obtain ⟨mode, inText⟩ := s
  cases mode <;> cases inText <;> decide

theorem dropFrom_indented (s : Scan) (cs : List Char) :
    dropFrom s (indented cs) = indented (shownFrom s cs) := by
  induction cs generalizing s with
  | nil => rfl
  | cons c cs ih =>
    by_cases hc : c = '\n'
    · subst hc
      rw [indented_newline, dropFrom_cons, dropFrom_append, dropFrom_blanks, ih, shownFrom,
        if_pos rfl]
      split
      · rw [List.singleton_append, List.singleton_append, indented_newline]
      · rfl
    · rw [indented_cons hc, dropFrom_cons, ih, shownFrom, if_neg hc]
      split
      · rw [List.singleton_append, List.singleton_append, indented_cons hc]
      · rfl

theorem shownFrom_plain {cs : List Char} (h : ∀ c ∈ cs, isText c = true) :
    shownFrom .plain cs = cs := by
  induction cs with
  | nil => rfl
  | cons c cs ih =>
    obtain ⟨hc, hcs⟩ := List.forall_mem_cons.1 h
    have hblanks : Scan.plain.past blanks = .plain := past_plain (List.all_eq_true.1 (by decide))
    rw [shownFrom, next_plain hc, hblanks, ite_self, ih hcs]
    rfl

end ControlSequence

def isPlainText (s : String) : Bool := s.toList.all ControlSequence.isText

@[simp] theorem isPlainText_append (s t : String) :
    isPlainText (s ++ t) = (isPlainText s && isPlainText t) := by
  simp [isPlainText]

end AccountRegistry.Text
