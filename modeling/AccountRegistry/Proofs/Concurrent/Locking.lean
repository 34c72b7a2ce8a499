import Mathlib.Data.List.Induction
import AccountRegistry.Store.Concurrent

set_option autoImplicit false

/-!
# Who holds the lock

What a step can do, and the discipline of the lock: it counts its readers, it has
a writer or none, and while it has a writer no other thread is at work.
-/
namespace AccountRegistry.Concurrent

/-- A step of one thread, by what it does with the lock. -/
inductive Steps (c : State) (i : Nat) : State → Prop where
  | enters {op : Operation} {ops : List Operation} {answers : List (Option Answer)} {lock : Lock}
      (ht : c.threads[i]? = some ⟨.idle, op :: ops, answers⟩)
      (hl : c.lock.take? op.access = some lock) :
      Steps c i { c with lock, threads := c.threads.set i ⟨.running op .entered, ops, answers⟩ }
  | goesOn {op : Operation} {phase phase' : Phase} {ops : List Operation}
      {answers : List (Option Answer)} {events : List Event} {store : Store}
      (ht : c.threads[i]? = some ⟨.running op phase, ops, answers⟩)
      (hm : move c.store op phase = .next phase' events store) :
      Steps c i { c with
        store
        threads := c.threads.set i ⟨.running op phase', ops, answers⟩
        events := c.events ++ events.map (i, ·) }
  | leaves {op : Operation} {phase : Phase} {ops : List Operation}
      {answers : List (Option Answer)} {answer : Option Answer} {store : Store}
      (ht : c.threads[i]? = some ⟨.running op phase, ops, answers⟩)
      (hm : move c.store op phase = .leave answer store) :
      Steps c i { c with
        store
        lock := c.lock.give op.access
        threads := c.threads.set i ⟨.idle, ops, answers ++ [answer]⟩ }

theorem steps_of_step? {c c' : State} {i : Nat} (h : step? c i = some c') : Steps c i c' := by
  cases ht : c.threads[i]? with
  | none => simp [step?, ht] at h
  | some t =>
    obtain ⟨activity, pending, answers⟩ := t
    cases activity with
    | idle =>
      cases pending with
      | nil => simp [step?, ht] at h
      | cons op ops =>
        cases hl : c.lock.take? op.access with
        | none => simp [step?, ht, hl] at h
        | some lock =>
          simp only [step?, ht, hl, Option.bind_eq_bind, Option.bind_some, Option.pure_def,
            Option.some.injEq] at h
          exact h ▸ .enters ht hl
    | running op phase =>
      cases hm : move c.store op phase with
      | next phase' events store =>
        simp only [step?, ht, hm, Option.bind_eq_bind, Option.bind_some, Option.pure_def,
          Option.some.injEq] at h
        exact h ▸ .goesOn ht hm
      | leave answer store =>
        simp only [step?, ht, hm, Option.bind_eq_bind, Option.bind_some, Option.pure_def,
          Option.some.injEq] at h
        exact h ▸ .leaves ht hm

theorem run_concat (c : State) (schedule : List Nat) (i : Nat) :
    run c (schedule ++ [i]) = (step? (run c schedule) i).getD (run c schedule) :=
  List.foldl_append

theorem run_invariant {c : State} {P : State → Prop} (start : P c)
    (step : ∀ c c' i, P c → Steps c i c' → P c') (schedule : List Nat) : P (run c schedule) := by
  induction schedule using List.reverseRecOn with
  | nil => exact start
  | append_singleton schedule i ih =>
    rw [run_concat]
    cases h : step? (run c schedule) i with
    | none => exact ih
    | some c' => exact step _ _ i ih (steps_of_step? h)

theorem set_get_cases {ts : List Thread} {i j : Nat} {t u : Thread}
    (h : (ts.set i t)[j]? = some u) : j = i ∧ u = t ∨ j ≠ i ∧ ts[j]? = some u := by
  by_cases hj : j = i
  · subst hj
    rw [List.getElem?_set_self'] at h
    obtain ⟨v, -, hv⟩ := Option.map_eq_some_iff.1 h
    exact .inl ⟨rfl, hv.symm⟩
  · rw [List.getElem?_set_ne (Ne.symm hj)] at h
    exact .inr ⟨hj, h⟩

theorem ne_of_none {ts : List Thread} {i j : Nat} {t : Thread} (hi : ts[i]? = some t)
    (hj : ts[j]? = none) : j ≠ i := by
  rintro rfl
  rw [hi] at hj
  cases hj

theorem threads_length (s : Store) (work : List (List Operation)) (schedule : List Nat) :
    (run (.start s work) schedule).threads.length = work.length := by
  refine run_invariant (P := fun c => c.threads.length = work.length) (List.length_map _) ?_
    schedule
  intro c c' i hc hs
  cases hs <;> simpa using hc

def Thread.holds (t : Thread) (a : Access) : Bool :=
  match t.activity with
  | .idle => false
  | .running op _ => decide (op.access = a)

@[simp] theorem holds_idle (ops : List Operation) (answers : List (Option Answer)) (a : Access) :
    (Thread.mk .idle ops answers).holds a = false := rfl

@[simp] theorem holds_running (op : Operation) (phase : Phase) (ops : List Operation)
    (answers : List (Option Answer)) (a : Access) :
    (Thread.mk (.running op phase) ops answers).holds a = decide (op.access = a) := rfl

def holders (a : Access) (ts : List Thread) : Nat := ts.countP (·.holds a)

theorem holders_set {ts : List Thread} {i : Nat} {t : Thread} (h : ts[i]? = some t)
    (u : Thread) (a : Access) :
    holders a (ts.set i u) + (if t.holds a then 1 else 0) =
      holders a ts + (if u.holds a then 1 else 0) := by
  obtain ⟨hi, rfl⟩ := List.getElem?_eq_some_iff.1 h
  unfold holders
  rw [List.countP_set hi]
  have hpos : (if ts[i].holds a then 1 else 0) ≤ ts.countP (·.holds a) := by
    split
    · next hh => exact List.countP_pos_iff.2 ⟨_, List.getElem_mem hi, hh⟩
    · exact Nat.zero_le _
  omega

structure Guarded (c : State) : Prop where
  readers : holders .read c.threads = c.lock.readers
  writer : holders .write c.threads = if c.lock.writing then 1 else 0
  apart : c.lock.writing = true → c.lock.readers = 0

theorem guarded_start (s : Store) (work : List (List Operation)) :
    Guarded (State.start s work) := by
  have h : ∀ a, holders a (work.map Thread.start) = 0 := by
    intro a
    rw [holders, List.countP_eq_zero]
    intro t ht
    obtain ⟨ops, -, rfl⟩ := List.mem_map.1 ht
    exact Bool.false_ne_true
  exact ⟨h .read, h .write, fun hw => by cases hw⟩

theorem Guarded.step {c c' : State} {i : Nat} (hg : Guarded c) (h : Steps c i c') :
    Guarded c' := by
  obtain ⟨hr, hw, ha⟩ := hg
  cases h with
  | @enters op ops answers lock ht hl =>
    have cr := holders_set ht ⟨.running op .entered, ops, answers⟩ .read
    have cw := holders_set ht ⟨.running op .entered, ops, answers⟩ .write
    cases hop : op.access with
    | read =>
      simp only [Lock.take?, hop, Option.ite_none_left_eq_some, Option.some.injEq] at hl
      obtain ⟨hfree, rfl⟩ := hl
      refine ⟨?_, ?_, fun h => absurd h hfree⟩
      · simpa [hop, hr] using cr
      · simpa [hop, hw] using cw
    | write =>
      simp only [Lock.take?, hop, Option.ite_none_left_eq_some, Option.some.injEq,
        Bool.or_eq_true, decide_eq_true_eq, not_or, Bool.not_eq_true, ne_eq,
        Decidable.not_not] at hl
      obtain ⟨⟨hwriting, hreaders⟩, rfl⟩ := hl
      refine ⟨?_, ?_, fun _ => hreaders⟩
      · simpa [hop, hr] using cr
      · simpa [hop, hw, hwriting] using cw
  | @goesOn op phase phase' ops answers events store ht hm =>
    have same : ∀ a, holders a (c.threads.set i ⟨.running op phase', ops, answers⟩) =
        holders a c.threads := fun a =>
      Nat.add_right_cancel (holders_set ht ⟨.running op phase', ops, answers⟩ a)
    exact ⟨(same .read).trans hr, (same .write).trans hw, ha⟩
  | @leaves op phase ops answers answer store ht hm =>
    have cr := holders_set ht ⟨.idle, ops, answers ++ [answer]⟩ .read
    have cw := holders_set ht ⟨.idle, ops, answers ++ [answer]⟩ .write
    cases hop : op.access with
    | read =>
      have hwriter : holders .write (c.threads.set i ⟨.idle, ops, answers ++ [answer]⟩) =
          if c.lock.writing then 1 else 0 := by
        simpa [hop, hw] using cw
      refine ⟨Nat.eq_sub_of_add_eq ?_, hwriter, fun h => ?_⟩
      · simpa [hop, hr] using cr
      · simp only [Lock.give]
        rw [ha h]
    | write =>
      refine ⟨?_, ?_, fun h => by cases h⟩
      · simpa [hop, hr, Lock.give] using cr
      · simp only [hop, hw, holds_running, holds_idle, decide_true, ↓reduceIte,
          Bool.false_eq_true] at cw
        simp only [Lock.give, Bool.false_eq_true, ↓reduceIte]
        split at cw <;> omega

/-- While a thread writes, no other thread is at work. -/
theorem Guarded.alone {c : State} {i j : Nat} {t u : Thread} (hg : Guarded c)
    (ht : c.threads[i]? = some t) (hw : t.holds .write = true) (hu : c.threads[j]? = some u)
    (hj : j ≠ i) : u.activity = .idle := by
  have hpos : 0 < holders .write c.threads :=
    List.countP_pos_iff.2 ⟨t, List.mem_of_getElem? ht, hw⟩
  have hwriting : c.lock.writing = true := by
    by_contra hn
    rw [hg.writer, if_neg hn] at hpos
    omega
  have hone : holders .write c.threads = 1 := by rw [hg.writer, if_pos hwriting]
  have hnone : holders .read c.threads = 0 := by rw [hg.readers, hg.apart hwriting]
  -- with the writer taken out, nobody holds the lock for either access
  have hzero : holders .write (c.threads.set i ⟨.idle, t.pending, t.answers⟩) = 0 := by
    have := holders_set ht ⟨.idle, t.pending, t.answers⟩ .write
    simp only [hw, ↓reduceIte, holds_idle, Bool.false_eq_true] at this
    omega
  rw [holders, List.countP_eq_zero] at hnone hzero
  have hread := hnone u (List.mem_of_getElem? hu)
  have hwrite := hzero u (List.mem_of_getElem? ((List.getElem?_set_ne (Ne.symm hj)).trans hu))
  cases hact : u.activity with
  | idle => rfl
  | running op phase =>
    cases hop : op.access with
    | read => simp [Thread.holds, hact, hop] at hread
    | write => simp [Thread.holds, hact, hop] at hwrite

end AccountRegistry.Concurrent
