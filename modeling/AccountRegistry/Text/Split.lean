set_option autoImplicit false

/-!
# Splitting at a character

`pieces c cs` is the list of texts between the occurrences of `c`; it is never
empty. Main statement: putting the character back between the pieces gives the
text again.
-/
namespace AccountRegistry.Text

def pieces (sep : Char) : List Char → List (List Char)
  | [] => [[]]
  | c :: cs =>
    if c = sep then [] :: pieces sep cs
    else match pieces sep cs with
      | [] => [[c]]
      | p :: ps => (c :: p) :: ps

def joined (sep : List Char) : List (List Char) → List Char
  | [] => []
  | [p] => p
  | p :: q :: ps => p ++ sep ++ joined sep (q :: ps)

def piecesOf (sep : Char) (s : String) : List String :=
  (pieces sep s.toList).map String.ofList

/-- The lines of a text; a newline at its end ends the last of them. -/
def linesOf (s : String) : List String :=
  let ps := pieces '\n' s.toList
  (if ps.getLast? = some [] then ps.dropLast else ps).map String.ofList

theorem pieces_ne_nil (sep : Char) (cs : List Char) : pieces sep cs ≠ [] := by
  cases cs with
  | nil => simp [pieces]
  | cons c cs =>
    unfold pieces
    split
    · simp
    · split <;> simp

theorem joined_pieces (sep : Char) (cs : List Char) : joined [sep] (pieces sep cs) = cs := by
  induction cs with
  | nil => rfl
  | cons c cs ih =>
    unfold pieces
    have ne := pieces_ne_nil sep cs
    cases h : pieces sep cs with
    | nil => exact absurd h ne
    | cons p ps =>
      rw [h] at ih
      split
      · next hc => simp [joined, ih, hc]
      · cases ps with
        | nil => simpa [joined] using ih
        | cons q qs => simpa [joined] using ih

end AccountRegistry.Text
