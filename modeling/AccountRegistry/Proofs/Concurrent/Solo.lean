import Mathlib.Data.List.Induction
import AccountRegistry.Store.Concurrent

set_option autoImplicit false

/-!
# Operations on their own

What becomes of an operation which is left alone from some phase on. Its steps
together are the operation performed at once, and every step but the last two
leaves open what will come of it: what it has noted so far, with what finishing
it will tell, never changes.
-/
namespace AccountRegistry

def Outcome.preceded {α : Type} (events : List Event) (o : Outcome α) : Outcome α :=
  { o with events := events ++ o.events }

theorem Outcome.preceded_preceded {α : Type} (xs ys : List Event) (o : Outcome α) :
    (o.preceded ys).preceded xs = o.preceded (xs ++ ys) := by
  simp [Outcome.preceded]

namespace Concurrent

def Phase.distance : Phase → Nat
  | .entered => 5
  | .checked => 4
  | .found _ => 3
  | .derived _ _ => 2
  | .answered _ => 1
  | .told _ => 0
  | .broken => 0

theorem lookUp_distance (s : Store) (op : Operation) : (lookUp s op).distance ≤ 3 := by
  cases op <;> simp [lookUp, Phase.distance]

theorem derive_distance (s : Store) (stored : Option String) (op : Operation) :
    (derive s stored op).distance ≤ 2 := by
  unfold derive
  split
  · split <;> simp [Phase.distance]
  · split <;> simp [Phase.distance]
  · exact Nat.zero_le _

theorem move_distance {s s' : Store} {op : Operation} {phase phase' : Phase} {events : List Event}
    (h : move s op phase = .next phase' events s') : phase'.distance < phase.distance := by
  cases phase with
  | entered => cases h; decide
  | checked => cases h; exact Nat.lt_succ_of_le (lookUp_distance s op)
  | found stored => cases h; exact Nat.lt_succ_of_le (derive_distance s stored op)
  | derived stored credential => cases h; exact Nat.lt_succ_self _
  | answered answer => cases h; exact Nat.lt_succ_self _
  | told answer => cases h
  | broken => cases h

/-- The outcome of an operation that takes all its steps from a phase on. -/
def finish (s : Store) (op : Operation) (phase : Phase) : Outcome Answer :=
  match h : move s op phase with
  | .next phase' events s' =>
    have := move_distance h
    (finish s' op phase').preceded events
  | .leave answer s' => ⟨answer, [], s'⟩
termination_by phase.distance

theorem finish_next {s s' : Store} {op : Operation} {phase phase' : Phase} {events : List Event}
    (h : move s op phase = .next phase' events s') :
    finish s op phase = (finish s' op phase').preceded events := by
  rw [finish]
  split
  · next h' =>
    rw [h] at h'
    cases h'
    rfl
  · next h' =>
    rw [h] at h'
    cases h'

theorem finish_leave {s s' : Store} {op : Operation} {phase : Phase} {answer : Option Answer}
    (h : move s op phase = .leave answer s') : finish s op phase = ⟨answer, [], s'⟩ := by
  rw [finish]
  split
  · next h' =>
    rw [h] at h'
    cases h'
  · next h' =>
    rw [h] at h'
    cases h'
    rfl

theorem finish_told (s : Store) (op : Operation) (answer : Answer) :
    finish s op (.told answer) = ⟨some answer, [], s⟩ :=
  finish_leave rfl

theorem finish_answered (s : Store) (op : Operation) (answer : Answer) :
    finish s op (.answered answer) = ⟨some answer, telling op answer, s⟩ := by
  rw [finish_next rfl, finish_told]
  simp [Outcome.preceded]

theorem finish_derived (s : Store) (op : Operation) (stored : Option String) (credential : String) :
    finish s op (.derived stored credential) =
      ⟨some (conclude s stored credential op).1, telling op (conclude s stored credential op).1,
        (conclude s stored credential op).2⟩ := by
  rw [finish_next rfl, finish_answered]
  rfl

theorem finish_register_found (s : Store) (u p : String) :
    (finish s (.register u p) (.found s.users[u]?)).preceded (s.recovery .write) =
      s.perform (.register u p) := by
  rw [finish_next rfl]
  simp only [Store.perform, Store.register, Std.ExtTreeMap.contains_eq_isSome_getElem?, derive]
  cases hu : s.users[u]? with
  | some stored =>
    simp only [Option.isSome_some, ↓reduceIte]
    rw [finish_answered]
    rfl
  | none =>
    cases hp : s.transform p with
    | none =>
      simp only [Option.isSome_none, Bool.false_eq_true, ↓reduceIte]
      rw [finish_leave rfl]
      simp [Outcome.preceded, Outcome.map, Operation.access]
    | some credential =>
      simp only [Option.isSome_none, Bool.false_eq_true, ↓reduceIte]
      rw [finish_derived]
      rfl

theorem finish_authenticate_found (s : Store) (u p : String) :
    (finish s (.authenticate u p) (.found s.users[u]?)).preceded (s.recovery .read) =
      s.perform (.authenticate u p) := by
  rw [finish_next rfl]
  simp only [Store.perform, Store.authenticate, derive]
  cases hu : s.users[u]? with
  | none =>
    rw [finish_answered]
    rfl
  | some stored =>
    cases hp : s.transform p with
    | none =>
      simp only
      rw [finish_leave rfl]
      simp [Outcome.preceded, Outcome.map, Operation.access]
    | some credential =>
      simp only
      rw [finish_derived]
      simp [conclude, telling, Outcome.preceded, Outcome.map]

theorem finish_checked (s : Store) (op : Operation) :
    (finish s op .checked).preceded (s.recovery op.access) = s.perform op := by
  rw [finish_next rfl]
  cases op with
  | register u p => exact finish_register_found s u p
  | authenticate u p => exact finish_authenticate_found s u p
  | _ =>
    simp only [lookUp]
    rw [finish_answered]
    simp [telling, Outcome.preceded, Operation.access]
    rfl

theorem finish_entered (s : Store) (op : Operation) : finish s op .entered = s.perform op := by
  rw [finish_next rfl, finish_checked]

def Phase.isTold : Phase → Bool
  | .told _ => true
  | _ => false

def Phase.noted (now : Store) (op : Operation) : Phase → List Event
  | .entered => []
  | .told _ => []
  | _ => now.recovery op.access

theorem noted_lookUp (s now : Store) (op : Operation) :
    (lookUp s op).noted now op = now.recovery op.access := by
  cases op <;> rfl

theorem noted_derive (s now : Store) (stored : Option String) (op : Operation) :
    (derive s stored op).noted now op = now.recovery op.access := by
  unfold derive
  split
  · split <;> rfl
  · split <;> rfl
  · rfl

theorem isTold_lookUp (s : Store) (op : Operation) : (lookUp s op).isTold = false := by
  cases op <;> rfl

theorem isTold_derive (s : Store) (stored : Option String) (op : Operation) :
    (derive s stored op).isTold = false := by
  unfold derive
  split
  · split <;> rfl
  · split <;> rfl
  · rfl

theorem recovery_conclude (s : Store) (stored : Option String) (credential : String)
    (op : Operation) (access : Access) :
    (conclude s stored credential op).2.recovery access = s.recovery access := by
  cases op <;> rfl

section Moves
variable {s s' : Store} {op : Operation} {phase phase' : Phase} {events : List Event}

/-- An operation tells what it did in one step only, and before it tells nothing but that it
recovered. -/
theorem move_next_cases (h : move s op phase = .next phase' events s') :
    (∃ answer, phase = .answered answer ∧ phase' = .told answer ∧ events = telling op answer ∧
      s' = s) ∨
    (phase'.isTold = false ∧ phase.noted s op ++ events = phase'.noted s' op) := by
  cases phase with
  | entered => cases h; exact .inr ⟨rfl, rfl⟩
  | checked =>
    cases h
    exact .inr ⟨isTold_lookUp s op, by rw [noted_lookUp, List.append_nil]; rfl⟩
  | found stored =>
    cases h
    exact .inr ⟨isTold_derive s stored op, by rw [noted_derive, List.append_nil]; rfl⟩
  | derived stored credential =>
    cases h
    refine .inr ⟨rfl, ?_⟩
    exact (List.append_nil _).trans (recovery_conclude s stored credential op op.access).symm
  | answered answer => cases h; exact .inl ⟨answer, rfl, rfl, rfl, rfl⟩
  | told answer => cases h
  | broken => cases h

theorem move_leave_cases {answer : Option Answer} (h : move s op phase = .leave answer s') :
    (∃ a, phase = .told a ∧ answer = some a ∧ s' = s) ∨ (phase = .broken ∧ answer = none) := by
  cases phase with
  | told a => cases h; exact .inl ⟨a, rfl, rfl, rfl⟩
  | broken => cases h; exact .inr ⟨rfl, rfl⟩
  | _ => cases h

/-- Until it tells what it did, no step changes what will come of an operation. -/
theorem finish_move (h : move s op phase = .next phase' events s') (hn : phase'.isTold = false) :
    (finish s' op phase').preceded (phase'.noted s' op) =
      (finish s op phase).preceded (phase.noted s op) := by
  obtain ⟨answer, -, rfl, -⟩ | ⟨-, hnoted⟩ := move_next_cases h
  · cases hn
  · rw [finish_next h, Outcome.preceded_preceded, hnoted]

theorem move_next_store_of_read (ha : op.access = .read)
    (h : move s op phase = .next phase' events s') : s' = s := by
  cases phase with
  | derived stored credential =>
    cases op with
    | register u p => cases ha
    | _ => cases h; rfl
  | told answer => cases h
  | broken => cases h
  | _ => cases h; rfl

theorem move_leave_store_of_read {answer : Option Answer} (ha : op.access = .read)
    (h : move s op phase = .leave answer s') : s' = s := by
  obtain ⟨a, -, -, hs⟩ | ⟨rfl, -⟩ := move_leave_cases h
  · exact hs
  · simp only [move, ha, Move.leave.injEq] at h
    exact h.2.symm

end Moves
end Concurrent
end AccountRegistry
