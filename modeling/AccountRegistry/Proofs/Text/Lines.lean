import AccountRegistry.Text.Split

set_option autoImplicit false

/-!
# Texts made of lines

Lines that are written one after the other, each with a newline at its end, are
found again in the text, if there is no newline within any of them.
-/
namespace AccountRegistry.Text

theorem pieces_append_of_notMem {sep : Char} {p cs q : List Char} {qs : List (List Char)}
    (h : sep ∉ p) (hcs : pieces sep cs = q :: qs) : pieces sep (p ++ cs) = (p ++ q) :: qs := by
  induction p with
  | nil => exact hcs
  | cons c p ih =>
    have hc : c ≠ sep := fun he => h (he ▸ List.mem_cons_self)
    have hp : sep ∉ p := fun hm => h (List.mem_cons_of_mem c hm)
    rw [List.cons_append, pieces, if_neg hc, ih hp]
    rfl

theorem pieces_of_notMem {sep : Char} {p : List Char} (h : sep ∉ p) : pieces sep p = [p] := by
  have hempty : pieces sep [] = [[]] := rfl
  simpa using pieces_append_of_notMem h hempty

theorem pieces_append_cons (sep : Char) (cs ds : List Char) :
    pieces sep (cs ++ sep :: ds) = pieces sep cs ++ pieces sep ds := by
  induction cs with
  | nil => simp [pieces]
  | cons c cs ih =>
    rw [List.cons_append, pieces, pieces, ih]
    split
    · rw [List.cons_append]
    · cases hcs : pieces sep cs with
      | nil => exact absurd hcs (pieces_ne_nil sep cs)
      | cons p ps => rfl

theorem notMem_of_mem_pieces {sep : Char} {cs p : List Char} (h : p ∈ pieces sep cs) : sep ∉ p := by
  induction cs generalizing p with
  | nil =>
    rw [pieces, List.mem_singleton] at h
    exact h ▸ List.not_mem_nil
  | cons c cs ih =>
    rw [pieces] at h
    split at h
    · obtain rfl | h := List.mem_cons.1 h
      · exact List.not_mem_nil
      · exact ih h
    · next hc =>
      cases hcs : pieces sep cs with
      | nil => exact absurd hcs (pieces_ne_nil sep cs)
      | cons q qs =>
        rw [hcs] at h ih
        obtain rfl | h := List.mem_cons.1 h
        · rintro (_ | ⟨_, hq⟩)
          · exact hc rfl
          · exact ih List.mem_cons_self hq
        · exact ih (List.mem_cons_of_mem q h)

theorem joined_eq_flatMap (sep p : List Char) (ps : List (List Char)) :
    joined sep (p :: ps) = p ++ ps.flatMap (sep ++ ·) := by
  induction ps generalizing p with
  | nil => exact (List.append_nil p).symm
  | cons q ps ih => rw [joined, ih, List.flatMap_cons, List.append_assoc, List.append_assoc]

def ofLines (lines : List String) : String := String.join (lines.map (· ++ "\n"))

theorem ofLines_cons (l : String) (ls : List String) :
    ofLines (l :: ls) = l ++ "\n" ++ ofLines ls := by
  simp [ofLines]

theorem toList_ofLines_cons (l : String) (ls : List String) :
    (ofLines (l :: ls)).toList = l.toList ++ '\n' :: (ofLines ls).toList := by
  simp [ofLines_cons]

theorem ofLines_append (ls ks : List String) : ofLines (ls ++ ks) = ofLines ls ++ ofLines ks := by
  simp [ofLines]

theorem intercalate_newline (l : String) (ls : List String) :
    "\n".intercalate (l :: ls) ++ "\n" = ofLines (l :: ls) := by
  induction ls generalizing l with
  | nil => simp [ofLines]
  | cons k ls ih =>
    rw [String.intercalate_cons_cons, String.append_assoc, ih, ofLines_cons l]

theorem pieces_ofLines_append (texts : List String) (cs : List Char) :
    pieces '\n' ((ofLines texts).toList ++ cs) =
      texts.flatMap (fun t => pieces '\n' t.toList) ++ pieces '\n' cs := by
  induction texts with
  | nil => rfl
  | cons t texts ih =>
    rw [toList_ofLines_cons, List.append_assoc, List.cons_append, pieces_append_cons, ih,
      List.flatMap_cons, List.append_assoc]

/-- Texts that are written like lines have all their lines in what is written. -/
theorem linesOf_ofLines_append (texts : List String) (s : String) :
    linesOf (ofLines texts ++ s) = texts.flatMap (piecesOf '\n') ++ linesOf s := by
  have hne := pieces_ne_nil '\n' s.toList
  have hlast : ∀ ps, (ps ++ pieces '\n' s.toList).getLast? = (pieces '\n' s.toList).getLast? := by
    intro ps
    rw [List.getLast?_append, List.getLast?_eq_some_getLast hne, Option.some_or]
  rw [linesOf, linesOf, String.toList_append, pieces_ofLines_append, hlast,
    List.dropLast_append_of_ne_nil hne]
  have htexts : (texts.flatMap fun t => pieces '\n' t.toList).map String.ofList =
      texts.flatMap (piecesOf '\n') := List.map_flatMap ..
  split <;> rw [List.map_append, htexts]

theorem linesOf_ofLines_flatMap (texts : List String) :
    linesOf (ofLines texts) = texts.flatMap (piecesOf '\n') := by
  simpa [linesOf, pieces] using linesOf_ofLines_append texts ""

theorem linesOf_ofLines {lines : List String} (h : ∀ l ∈ lines, '\n' ∉ l.toList) :
    linesOf (ofLines lines) = lines := by
  have hline : ∀ l ∈ lines, piecesOf '\n' l = [l] := fun l hl => by
    rw [piecesOf, pieces_of_notMem (h l hl), List.map_singleton, String.ofList_toList]
  rw [linesOf_ofLines_flatMap, List.flatMap_def, List.map_congr_left hline, ← List.flatMap_def,
    List.flatMap_singleton']

theorem length_linesOf_of_notMem {s : String} (h : '\n' ∉ s.toList) : (linesOf s).length ≤ 1 := by
  rw [linesOf, pieces_of_notMem h, List.length_map]
  split <;> simp

end AccountRegistry.Text
