set_option autoImplicit false

/-!
# What a reader leaves

A reader of a list returns the rest together with a proof that it has become
shorter, or at least not longer; readers that call each other end by it.
-/
namespace AccountRegistry.Text

abbrev Shorter {α : Type} (xs : List α) := { rest : List α // rest.length < xs.length }

abbrev NoLonger {α : Type} (xs : List α) := { rest : List α // rest.length ≤ xs.length }

namespace Rest
variable {α : Type}

theorem length_le_cons (x : α) (xs : List α) : xs.length ≤ (x :: xs).length :=
  Nat.le_succ _

theorem length_lt_cons (x : α) {xs ys : List α} (h : ys.length ≤ xs.length) :
    ys.length < (x :: xs).length :=
  Nat.lt_succ_of_le h

def all (xs : List α) : NoLonger xs := ⟨xs, Nat.le_refl _⟩

def after (x : α) (xs : List α) : Shorter (x :: xs) := ⟨xs, Nat.lt_succ_self _⟩

def dropping (p : α → Bool) (xs : List α) : NoLonger xs :=
  ⟨xs.dropWhile p, (List.dropWhile_sublist p).length_le⟩

def span? (p : α → Bool) (xs : List α) : Option (List α × Shorter xs) :=
  if h : xs.takeWhile p = [] then none
  else some (xs.takeWhile p, ⟨xs.dropWhile p, by
    have whole := congrArg List.length (List.takeWhile_append_dropWhile (p := p) (l := xs))
    have some_taken := List.length_pos_iff.mpr h
    rw [List.length_append] at whole
    omega⟩)

def dropped (n : Nat) (xs : List α) : NoLonger xs :=
  ⟨xs.drop n, by simp⟩

theorem tail_lt {x : α} {xs ys : List α} (r : NoLonger xs) (h : r.val = x :: ys) :
    ys.length < xs.length := by
  have := r.property
  rw [h, List.length_cons] at this
  omega

def step {x : α} {xs : List α} (r : NoLonger xs) : Shorter (x :: xs) :=
  ⟨r.val, Nat.lt_succ_of_le r.property⟩

def within {xs ys : List α} (r : NoLonger ys) (h : ys.length ≤ xs.length) : NoLonger xs :=
  ⟨r.val, Nat.le_trans r.property h⟩

def below {xs ys : List α} (r : NoLonger ys) (h : ys.length < xs.length) : Shorter xs :=
  ⟨r.val, Nat.lt_of_le_of_lt r.property h⟩

def beyond {xs ys : List α} (r : Shorter ys) (h : ys.length ≤ xs.length) : Shorter xs :=
  ⟨r.val, Nat.lt_of_lt_of_le r.property h⟩

end Rest
end AccountRegistry.Text
