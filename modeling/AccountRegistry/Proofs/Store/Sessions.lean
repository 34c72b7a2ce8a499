import AccountRegistry.Proofs.Store.Ownership
import AccountRegistry.Store.Session

set_option autoImplicit false

/-!
# What a store takes notice of

In a session with several stores, a store takes notice of its own registrations
and of nothing else. Reading it, asking other stores and changing copies may be
left out of a run at any places; what is left of the run at the store, and what
the run makes of it, stays the same.
-/
namespace AccountRegistry.Session
variable {n : Nat}

def leaving {α : Type} (out : Nat → Bool) : List α → List α
  | [] => []
  | x :: xs =>
    let rest := leaving (fun k => out (k + 1)) xs
    if out 0 then rest else x :: rest

/-- A step that is no registration at the chosen store. -/
inductive Spare (chosen : Fin n) : Step n → Prop
  | reads {i : Fin n} {op : Operation} (h : ∀ u p, op ≠ .register u p) : Spare chosen (.ask i op)
  | elsewhere {i : Fin n} {op : Operation} (h : i ≠ chosen) : Spare chosen (.ask i op)
  | changes {k : Nat} {f : Users → Users} : Spare chosen (.change k f)

def seenAt (chosen : Fin n) : Step n × Option (Outcome Answer) → Option (Operation × Outcome Answer)
  | (.ask i op, outcome) => if i = chosen then outcome.map (op, ·) else none
  | (.change _ _, _) => none

section Steps
variable {w w' : Session n} {chosen : Fin n} {step : Step n}

theorem stores_next_of_spare (h : Spare chosen step) :
    (w.next step).stores chosen = w.stores chosen := by
  cases h with
  | @reads i op hop =>
    have hread : op.access = .read := by
      cases op with
      | register u p => exact absurd rfl (hop u p)
      | _ => rfl
    change (if chosen = i then _ else _) = _
    split
    · next hi => rw [hi, Store.perform_store_of_read _ _ hread]
    · rfl
  | elsewhere hi => exact if_neg hi.symm
  | changes => rfl

theorem stores_next_congr (h : w.stores chosen = w'.stores chosen) (step : Step n) :
    (w.next step).stores chosen = (w'.next step).stores chosen := by
  cases step with
  | ask i op =>
    change (if chosen = i then _ else _) = if chosen = i then _ else _
    split
    · next hi => rw [← hi, h]
    · exact h
  | change k f => exact h

theorem seenAt_congr (h : w.stores chosen = w'.stores chosen) (step : Step n) :
    seenAt chosen (step, w.outcome? step) = seenAt chosen (step, w'.outcome? step) := by
  cases step with
  | ask i op =>
    change (if i = chosen then _ else _) = if i = chosen then _ else _
    split
    · next hi => rw [outcome?, outcome?, hi, h]
    · rfl
  | change k f => rfl

end Steps

/-- Two sessions that agree on a store go on to agree on it, though spare steps are left out of
one of the runs. -/
theorem agree_leaving {w w' : Session n} {chosen : Fin n} {steps : List (Step n)}
    {out : Nat → Bool} (hspare : ∀ k step, steps[k]? = some step → out k → Spare chosen step)
    (h : w.stores chosen = w'.stores chosen) :
    (leaving out (w.transcript steps)).filterMap (seenAt chosen) =
        (w'.transcript (leaving out steps)).filterMap (seenAt chosen) ∧
      (w.after steps).stores chosen = (w'.after (leaving out steps)).stores chosen := by
  induction steps generalizing w w' out with
  | nil => exact ⟨rfl, h⟩
  | cons step steps ih =>
    have hrest : ∀ k step, steps[k]? = some step → out (k + 1) → Spare chosen step :=
      fun k step hk hout => hspare (k + 1) step hk hout
    simp only [transcript, leaving]
    cases hout : out 0 with
    | true =>
      have hnext := stores_next_of_spare (w := w) (hspare 0 step rfl hout)
      exact ih hrest (hnext.trans h)
    | false =>
      obtain ⟨hseen, hlast⟩ := ih hrest (stores_next_congr h step)
      refine ⟨?_, hlast⟩
      simp only [Bool.false_eq_true, if_false, transcript, List.filterMap_cons, seenAt_congr h step,
        hseen]

/-- Any steps but registrations at a store may be left out of a run. The steps that are left show
the same of the store, and it ends with the same users, poisoned or not. -/
theorem registrations_alone_matter {w : Session n} {chosen : Fin n} {steps : List (Step n)}
    {out : Nat → Bool} (h : ∀ k step, steps[k]? = some step → out k → Spare chosen step) :
    (leaving out (w.transcript steps)).filterMap (seenAt chosen) =
        (w.transcript (leaving out steps)).filterMap (seenAt chosen) ∧
      (w.after steps).stores chosen = (w.after (leaving out steps)).stores chosen :=
  agree_leaving h rfl

def twoStores : Session 2 :=
  start fun i => if i = 0 then .refusing "panic" "~" else .suffix .default

def meddling : List (Step 2) :=
  [.ask 0 (.register "ann" "pw"), .ask 0 .snapshot,
   .change 0 fun users => (users.insert "ann" "x").insert "mallory" "x",
   .ask 1 (.register "ann" "other"), .ask 0 (.authenticate "ann" "panic"),
   .ask 0 (.register "bob" "panic"), .ask 0 (.isRegistered "mallory"),
   .ask 0 (.register "mallory" "pw"), .ask 0 .snapshot]

def meddled (k : Nat) : Bool := [1, 2, 3, 4, 6].contains k

theorem registrations_alone_matter_meddling :
    (∀ k step, meddling[k]? = some step → meddled k → Spare 0 step) ∧
      (leaving meddled (twoStores.transcript meddling)).filterMap (seenAt 0) =
        (twoStores.transcript (leaving meddled meddling)).filterMap (seenAt 0) ∧
      (twoStores.after meddling).stores 0 =
        (twoStores.after (leaving meddled meddling)).stores 0 := by
  have hspare : ∀ k step, meddling[k]? = some step → meddled k → Spare 0 step := by
    intro k step hk hout
    have hmem : k ∈ [1, 2, 3, 4, 6] := List.contains_iff_mem.1 hout
    simp only [List.mem_cons, List.not_mem_nil, or_false] at hmem
    obtain rfl | rfl | rfl | rfl | rfl := hmem
    · cases hk
      exact .reads nofun
    · cases hk
      exact .changes
    · cases hk
      exact .elsewhere (by decide)
    · cases hk
      exact .reads nofun
    · cases hk
      exact .reads nofun
  exact ⟨hspare, registrations_alone_matter hspare⟩

end AccountRegistry.Session
