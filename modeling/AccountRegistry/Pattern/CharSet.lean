set_option autoImplicit false

/-!
# Sets of characters

Sets of numbers up to some greatest one, in ranges: of code points, or of bytes.
Main statements: membership in a union, a difference, an intersection and a
complement is what it should be.
-/
namespace AccountRegistry.Pattern

/-- Ranges by their first and last number; they may overlap, and none is empty. -/
structure CharSet where
  ranges : List (Nat × Nat)
deriving DecidableEq, Repr

namespace CharSet

def empty : CharSet := ⟨[]⟩

def single (n : Nat) : CharSet := ⟨[(n, n)]⟩

def contains (s : CharSet) (n : Nat) : Bool := s.ranges.any fun r => r.1 ≤ n && n ≤ r.2

def union (s t : CharSet) : CharSet := ⟨s.ranges ++ t.ranges⟩

def cut (without r : Nat × Nat) : List (Nat × Nat) :=
  if r.2 < without.1 ∨ without.2 < r.1 then [r]
  else (if r.1 < without.1 then [(r.1, without.1 - 1)] else []) ++
    if without.2 < r.2 then [(without.2 + 1, r.2)] else []

def difference (s t : CharSet) : CharSet :=
  ⟨t.ranges.foldl (fun rs without => rs.flatMap (cut without)) s.ranges⟩

def complement (greatest : Nat) (s : CharSet) : CharSet := difference ⟨[(0, greatest)]⟩ s

def intersection (s t : CharSet) : CharSet := s.difference (s.difference t)

def symmetricDifference (s t : CharSet) : CharSet :=
  (s.difference t).union (t.difference s)

def isBelow (bound : Nat) (s : CharSet) : Bool := s.ranges.all fun r => r.2 < bound

def foldAscii (s : CharSet) : CharSet :=
  let shifted (first last : Nat) (shift : Nat → Nat) : List (Nat × Nat) :=
    s.ranges.filterMap fun r =>
      let low := max first r.1
      let high := min last r.2
      if low ≤ high then some (shift low, shift high) else none
  ⟨s.ranges ++ shifted 0x41 0x5A (· + 0x20) ++ shifted 0x61 0x7A (· - 0x20)⟩

theorem contains_union (s t : CharSet) (n : Nat) :
    (s.union t).contains n = (s.contains n || t.contains n) := by
  simp [union, contains]

theorem any_cut (without r : Nat × Nat) (n : Nat) :
    ((cut without r).any fun q => decide (q.1 ≤ n) && decide (n ≤ q.2)) =
      ((decide (r.1 ≤ n) && decide (n ≤ r.2)) &&
        !(decide (without.1 ≤ n) && decide (n ≤ without.2))) := by
  unfold cut
  rw [Bool.eq_iff_iff]
  split
  · simp
    omega
  · split <;> split <;> simp <;> omega

theorem any_flatMap_cut (without : Nat × Nat) (rs : List (Nat × Nat)) (n : Nat) :
    ((rs.flatMap (cut without)).any fun q => decide (q.1 ≤ n) && decide (n ≤ q.2)) =
      ((rs.any fun r => decide (r.1 ≤ n) && decide (n ≤ r.2)) &&
        !(decide (without.1 ≤ n) && decide (n ≤ without.2))) := by
  induction rs with
  | nil => rfl
  | cons r rs ih =>
    rw [List.flatMap_cons, List.any_append, ih, any_cut, List.any_cons, Bool.and_or_distrib_right]

theorem contains_difference (s t : CharSet) (n : Nat) :
    (s.difference t).contains n = (s.contains n && !t.contains n) := by
  obtain ⟨rs⟩ := s
  obtain ⟨ts⟩ := t
  simp only [difference, contains]
  induction ts generalizing rs with
  | nil => simp
  | cons t ts ih =>
    rw [List.foldl_cons, ih, any_flatMap_cut, List.any_cons, Bool.not_or, Bool.and_assoc]

theorem contains_intersection (s t : CharSet) (n : Nat) :
    (s.intersection t).contains n = (s.contains n && t.contains n) := by
  rw [intersection, contains_difference, contains_difference]
  cases s.contains n <;> cases t.contains n <;> rfl

theorem contains_complement (greatest : Nat) (s : CharSet) (n : Nat) :
    (s.complement greatest).contains n = (decide (n ≤ greatest) && !s.contains n) := by
  rw [complement, contains_difference]
  simp [contains]

end CharSet
end AccountRegistry.Pattern
