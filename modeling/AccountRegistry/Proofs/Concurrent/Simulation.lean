import AccountRegistry.Proofs.Concurrent.Locking
import AccountRegistry.Proofs.Concurrent.Order
import AccountRegistry.Proofs.Concurrent.Solo

set_option autoImplicit false

/-!
# A shared store as one that is used by one thread at a time

An operation takes effect when it tells what it did, or when it gives the lock
back after breaking off. The order in which operations take effect, together with
the notes of those still under way, explains a state: the simulation is kept by
every step, which adds at most one operation to the order.
-/
namespace AccountRegistry.Concurrent

namespace Thread

def ahead (t : Thread) : List Operation :=
  match t.activity with
  | .idle => t.pending
  | .running op phase => if phase.isTold then t.pending else op :: t.pending

/-- An answer that is told but not given yet. -/
def promised (t : Thread) : List (Option Answer) :=
  match t.activity with
  | .running _ (.told answer) => [some answer]
  | _ => []

def noted (now : Store) (t : Thread) : List Event :=
  match t.activity with
  | .idle => []
  | .running op phase => phase.noted now op

def midway (t : Thread) (a : Access) : Bool :=
  match t.activity with
  | .idle => false
  | .running op phase => decide (op.access = a) && !phase.isTold

theorem holds_of_midway {t : Thread} {a : Access} (h : t.midway a = true) : t.holds a = true := by
  obtain ⟨activity, pending, answers⟩ := t
  cases activity with
  | idle => cases h
  | running op phase =>
    simp only [midway, Bool.and_eq_true] at h
    exact h.1

end Thread

/-- How a thread fits an order of operations: which of its operations are in it, their answers,
and what will come of the one that is under way. -/
structure Fits (s : Store) (ops : List Operation) (now : Store) (order : List (Nat × Operation))
    (late : List (Nat × Event)) (i : Nat) (t : Thread) : Prop where
  operations : own i order ++ t.ahead = ops
  answers : t.answers ++ t.promised = (own i (serial s order)).map Outcome.answer
  late : own i late = t.noted now
  coming : ∀ op phase, t.activity = .running op phase → phase.isTold = false →
    (finish now op phase).preceded (phase.noted now op) = (serialStore s order).perform op

theorem Fits.frame {s now now' : Store} {ops : List Operation}
    {order order' : List (Nat × Operation)} {late late' : List (Nat × Event)} {i : Nat} {t : Thread}
    (h : Fits s ops now order late i t) (horder : own i order' = own i order)
    (hserial : own i (serial s order') = own i (serial s order))
    (hlate : own i late' = own i late)
    (hstore : t.activity = .idle ∨ now' = now ∧ serialStore s order' = serialStore s order) :
    Fits s ops now' order' late' i t := by
  obtain ⟨operations, answers, late, coming⟩ := h
  obtain hidle | ⟨rfl, hs⟩ := hstore
  · refine ⟨by rw [horder, operations], by rw [hserial, answers], ?_, ?_⟩
    · rw [hlate, late]
      simp only [Thread.noted, hidle]
    · intro op phase hrun
      rw [hidle] at hrun
      cases hrun
  · exact ⟨by rw [horder, operations], by rw [hserial, answers], by rw [hlate, late], hs ▸ coming⟩

/-- The state is what the operations of an order, performed one after the other, and the notes of
those under way make of a store. -/
structure Simulates (s : Store) (work : List (List Operation)) (c : State)
    (order : List (Nat × Operation)) (late : List (Nat × Event)) : Prop where
  guarded : Guarded c
  size : c.threads.length = work.length
  fits : ∀ (i : Nat) (t : Thread), c.threads[i]? = some t →
    Fits s (work.getD i []) c.store order late i t
  strangers : ∀ i : Nat, c.threads[i]? = none → own i order = [] ∧ own i late = []
  rested : (∀ (i : Nat) (t : Thread), c.threads[i]? = some t → t.midway .write = false) →
    c.store = serialStore s order
  log : ∀ keep, Separates keep →
    c.events.filter keep = (told (serial s order) ++ late).filter keep

theorem simulates_start (s : Store) (work : List (List Operation)) :
    Simulates s work (State.start s work) [] [] where
  guarded := guarded_start s work
  size := List.length_map _
  fits := by
    intro i t ht
    simp only [State.start, List.getElem?_map, Option.map_eq_some_iff] at ht
    obtain ⟨ops, hops, rfl⟩ := ht
    refine ⟨?_, rfl, rfl, fun op phase h => by cases h⟩
    simp [Thread.start, Thread.ahead, hops]
  strangers := fun i _ => ⟨rfl, rfl⟩
  rested := fun _ => rfl
  log := fun keep _ => rfl

section Steps
variable {s : Store} {work : List (List Operation)} {c : State} {order : List (Nat × Operation)}
  {late : List (Nat × Event)} {i : Nat}

theorem Simulates.store_of_free (h : Simulates s work c order late)
    (hfree : c.lock.writing = false) : c.store = serialStore s order := by
  refine h.rested fun i t ht => ?_
  have hw := h.guarded.writer
  rw [hfree] at hw
  have hnone := List.countP_eq_zero.1 hw t (List.mem_of_getElem? ht)
  cases hm : t.midway .write with
  | false => rfl
  | true => exact absurd (Thread.holds_of_midway hm) hnone

theorem writing_of_take? {l l' : Lock} {a : Access} (h : l.take? a = some l') :
    l.writing = false := by
  cases a with
  | read =>
    simp only [Lock.take?, Option.ite_none_left_eq_some, Bool.not_eq_true] at h
    exact h.1
  | write =>
    simp only [Lock.take?, Option.ite_none_left_eq_some, Bool.or_eq_true, not_or,
      Bool.not_eq_true] at h
    exact h.1.1

theorem Simulates.enters {op : Operation} {ops : List Operation} {answers : List (Option Answer)}
    {lock : Lock} (h : Simulates s work c order late)
    (ht : c.threads[i]? = some ⟨.idle, op :: ops, answers⟩)
    (hl : c.lock.take? op.access = some lock) :
    Simulates s work
      { c with lock, threads := c.threads.set i ⟨.running op .entered, ops, answers⟩ }
      order late := by
  have hstore : c.store = serialStore s order := h.store_of_free (writing_of_take? hl)
  have hold := h.fits i _ ht
  refine ⟨h.guarded.step (.enters ht hl), ?_, ?_, ?_, fun _ => hstore, h.log⟩
  · simpa using h.size
  · intro j t hj
    obtain ⟨rfl, rfl⟩ | ⟨-, hj⟩ := set_get_cases hj
    · refine ⟨hold.operations, hold.answers, hold.late, ?_⟩
      rintro op' phase h -
      cases h
      exact (finish_entered c.store op).trans (by rw [hstore])
    · exact h.fits j t hj
  · intro j hj
    refine h.strangers j ?_
    simpa using hj

theorem Simulates.companions {op : Operation} {phase : Phase} {ops : List Operation}
    {answers : List (Option Answer)} (h : Simulates s work c order late)
    (ht : c.threads[i]? = some ⟨.running op phase, ops, answers⟩) {j : Nat} {t : Thread}
    (hj : j ≠ i) (hu : c.threads[j]? = some t) :
    t.activity = .idle ∨ op.access = .read ∧ t.holds .write = false := by
  cases hop : op.access with
  | write => exact .inl (h.guarded.alone ht (by simp [hop]) hu hj)
  | read =>
    cases hw : t.holds .write with
    | false => exact .inr ⟨rfl, rfl⟩
    | true => cases h.guarded.alone hu hw ht (Ne.symm hj)

theorem noted_read {now : Store} {t : Thread} {e : Event} (hw : t.holds .write = false)
    (he : e ∈ t.noted now) : e = .recovered .read := by
  obtain ⟨activity, pending, answers⟩ := t
  cases activity with
  | idle => cases he
  | running op phase =>
    have hop : op.access = .read := by
      cases hop : op.access with
      | read => rfl
      | write => simp [hop] at hw
    have hr : e ∈ now.recovery op.access := by
      cases phase with
      | entered => cases he
      | told a => cases he
      | _ => exact he
    rw [hop, Store.recovery] at hr
    split at hr
    · exact List.mem_singleton.1 hr
    · cases hr

/-- The notes of operations under way are those of one writer, or those of readers. -/
theorem Simulates.late_cases {op : Operation} {phase : Phase} {ops : List Operation}
    {answers : List (Option Answer)} (h : Simulates s work c order late)
    (ht : c.threads[i]? = some ⟨.running op phase, ops, answers⟩) :
    (∀ x ∈ late, x.1 = i) ∨ op.access = .read ∧ ∀ x ∈ late, x.2 = .recovered .read := by
  have hmem : ∀ x ∈ late, ∃ t, c.threads[x.1]? = some t ∧ x.2 ∈ t.noted c.store := by
    intro x hx
    have hx' : x.2 ∈ own x.1 late := mem_own.2 hx
    cases hu : c.threads[x.1]? with
    | none => rw [(h.strangers _ hu).2] at hx'; cases hx'
    | some t => exact ⟨t, rfl, (h.fits _ t hu).late ▸ hx'⟩
  cases hop : op.access with
  | write =>
    refine .inl fun x hx => ?_
    by_contra hxi
    obtain ⟨t, hu, he⟩ := hmem x hx
    obtain hidle | ⟨hr, -⟩ := h.companions ht hxi hu
    · simp only [Thread.noted, hidle] at he
      cases he
    · rw [hop] at hr
      cases hr
  | read =>
    refine .inr ⟨rfl, fun x hx => ?_⟩
    obtain ⟨t, hu, he⟩ := hmem x hx
    by_cases hxi : x.1 = i
    · rw [hxi, ht, Option.some.injEq] at hu
      exact noted_read (by simp [← hu, hop]) he
    · obtain hidle | ⟨-, hw⟩ := h.companions ht hxi hu
      · simp only [Thread.noted, hidle] at he
        cases he
      · exact noted_read hw he

theorem Simulates.goesOn {op : Operation} {phase phase' : Phase} {ops : List Operation}
    {answers : List (Option Answer)} {events : List Event} {store : Store}
    (h : Simulates s work c order late)
    (ht : c.threads[i]? = some ⟨.running op phase, ops, answers⟩)
    (hm : move c.store op phase = .next phase' events store) (hp : phase.isTold = false)
    (hp' : phase'.isTold = false) :
    Simulates s work { c with
      store
      threads := c.threads.set i ⟨.running op phase', ops, answers⟩
      events := c.events ++ events.map (i, ·) } order (late ++ events.map (i, ·)) := by
  have hold := h.fits i _ ht
  have hnoted : phase.noted c.store op ++ events = phase'.noted store op := by
    obtain ⟨answer, -, rfl, -⟩ | ⟨-, hnoted⟩ := move_next_cases hm
    · cases hp'
    · exact hnoted
  refine ⟨h.guarded.step (.goesOn ht hm), ?_, ?_, ?_, ?_, ?_⟩
  · simpa using h.size
  · intro j t hj
    obtain ⟨rfl, rfl⟩ | ⟨hji, hj⟩ := set_get_cases hj
    · refine ⟨?_, ?_, ?_, ?_⟩
      · simpa [Thread.ahead, hp, hp'] using hold.operations
      · have hanswers := hold.answers
        cases phase' with
        | told a => cases hp'
        | _ =>
          cases phase with
          | told a => cases hp
          | _ => exact hanswers
      · rw [own_append, own_map_self, hold.late]
        exact hnoted
      · rintro op' phase₁ hrun -
        cases hrun
        exact (finish_move hm hp').trans (hold.coming op phase rfl hp)
    · refine (h.fits j t hj).frame rfl rfl ?_ ?_
      · rw [own_append, own_map_other _ hji, List.append_nil]
      · obtain hidle | ⟨hr, -⟩ := h.companions ht hji hj
        · exact .inl hidle
        · exact .inr ⟨move_next_store_of_read hr hm, rfl⟩
  · intro j hj
    have hnone : c.threads[j]? = none := by simpa using hj
    have hji : j ≠ i := ne_of_none ht hnone
    refine ⟨(h.strangers j hnone).1, ?_⟩
    rw [own_append, (h.strangers j hnone).2, own_map_other _ hji, List.append_nil]
  · intro hrest
    -- a writer is still midway, so it is a reader that went on
    have hi : i < c.threads.length := (List.getElem?_eq_some_iff.1 ht).1
    have hr : op.access = .read := by
      have := hrest i _ (List.getElem?_set_self hi)
      cases hop : op.access with
      | read => rfl
      | write => simp [Thread.midway, hop, hp'] at this
    refine (move_next_store_of_read hr hm).trans (h.rested fun j t hj => ?_)
    by_cases hji : j = i
    · subst hji
      rw [ht, Option.some.injEq] at hj
      simp [← hj, Thread.midway, hr]
    · exact hrest j t ((List.getElem?_set_ne (Ne.symm hji)).trans hj)
  · intro keep hk
    simp only [← List.append_assoc, List.filter_append]
    rw [h.log keep hk, List.filter_append]

/-- A step in which an operation takes effect: it is added to the order, with what it noted and
what it tells now. -/
theorem Simulates.takesEffect {op : Operation} {phase : Phase} {ops : List Operation}
    {answers : List (Option Answer)} (h : Simulates s work c order late)
    (ht : c.threads[i]? = some ⟨.running op phase, ops, answers⟩) (hp : phase.isTold = false)
    {answer : Option Answer} {new : List Event} {store : Store} {lock : Lock} {t' : Thread}
    (hfinish : finish c.store op phase = ⟨answer, new, store⟩)
    (hread : op.access = .read → store = c.store ∧ ∀ e ∈ new, e.access = .read)
    (hahead : t'.ahead = ops) (hanswers : t'.answers ++ t'.promised = answers ++ [answer])
    (hnoted : t'.noted store = []) (hmidway : ∀ a, t'.midway a = false)
    (hg : Guarded ⟨store, lock, c.threads.set i t', c.events ++ new.map (i, ·)⟩) :
    Simulates s work ⟨store, lock, c.threads.set i t', c.events ++ new.map (i, ·)⟩
      (order ++ [(i, op)]) (others i late) := by
  have hold := h.fits i _ ht
  have hperform : (serialStore s order).perform op =
      ⟨answer, phase.noted c.store op ++ new, store⟩ := by
    rw [← hold.coming op phase rfl hp, hfinish]
    rfl
  have hstore : serialStore s (order ++ [(i, op)]) = store := by
    rw [serialStore_concat, hperform]
  have hpromised : Thread.promised ⟨.running op phase, ops, answers⟩ = [] := by
    cases phase with
    | told a => cases hp
    | _ => rfl
  refine ⟨hg, ?_, ?_, ?_, fun _ => hstore.symm, ?_⟩
  · simpa using h.size
  · intro j t hj
    obtain ⟨rfl, rfl⟩ | ⟨hji, hj⟩ := set_get_cases hj
    · refine ⟨?_, ?_, ?_, ?_⟩
      · have := hold.operations
        simp only [Thread.ahead, hp, Bool.false_eq_true, ↓reduceIte] at this
        rw [own_append, own_self, hahead, List.append_assoc, ← this]
        rfl
      · have := hold.answers
        rw [hpromised, List.append_nil] at this
        rw [hanswers, serial_concat, own_append, own_self, List.map_append, ← this, hperform]
        rfl
      · rw [own_others_self, hnoted]
      · intro op' phase' hrun hp'
        have := hmidway op'.access
        simp [Thread.midway, hrun, hp'] at this
    · refine (h.fits j t hj).frame ?_ ?_ (own_others_other late hji) ?_
      · rw [own_append, own_other _ hji, List.append_nil]
      · rw [serial_concat, own_append, own_other _ hji, List.append_nil]
      · obtain hidle | ⟨hr, -⟩ := h.companions ht hji hj
        · exact .inl hidle
        · refine .inr ⟨(hread hr).1, ?_⟩
          rw [serialStore_concat, Store.perform_store_of_read _ _ hr]
  · intro j hj
    have hnone : c.threads[j]? = none := by simpa using hj
    have hji : j ≠ i := ne_of_none ht hnone
    rw [own_append, (h.strangers j hnone).1, own_other _ hji, own_others_other late hji]
    exact ⟨rfl, (h.strangers j hnone).2⟩
  · intro keep hk
    have hlate : (∀ x ∈ late, x.1 = i) ∨
        (∀ x ∈ late, x.2 = .recovered .read) ∧ ∀ e ∈ new, e.access = .read := by
      obtain hall | ⟨hr, hall⟩ := h.late_cases ht
      · exact .inl hall
      · exact .inr ⟨hall, (hread hr).2⟩
    have hnotes : own i late = phase.noted c.store op := hold.late
    calc (c.events ++ new.map (i, ·)).filter keep
        = (told (serial s order)).filter keep ++ (late ++ new.map (i, ·)).filter keep := by
          rw [List.filter_append, h.log keep hk, List.filter_append, List.filter_append,
            List.append_assoc]
      _ = (told (serial s order)).filter keep ++
            ((phase.noted c.store op ++ new).map (i, ·) ++ others i late).filter keep := by
          rw [filter_gather hk hlate, hnotes]
      _ = _ := by
          rw [serial_concat, told_concat, hperform, ← List.filter_append, List.append_assoc]

theorem Simulates.givesBack {op : Operation} {ops : List Operation} {answers : List (Option Answer)}
    {answer : Answer} (h : Simulates s work c order late)
    (ht : c.threads[i]? = some ⟨.running op (.told answer), ops, answers⟩) :
    Simulates s work { c with
      lock := c.lock.give op.access
      threads := c.threads.set i ⟨.idle, ops, answers ++ [some answer]⟩ } order late := by
  have hold := h.fits i _ ht
  refine ⟨h.guarded.step (.leaves ht rfl), ?_, ?_, ?_, ?_, h.log⟩
  · simpa using h.size
  · intro j t hj
    obtain ⟨rfl, rfl⟩ | ⟨-, hj⟩ := set_get_cases hj
    · refine ⟨hold.operations, ?_, hold.late, fun op' phase hrun => by cases hrun⟩
      exact (List.append_nil _).trans hold.answers
    · exact h.fits j t hj
  · intro j hj
    refine h.strangers j ?_
    simpa using hj
  · intro hrest
    refine h.rested fun j t hj => ?_
    by_cases hji : j = i
    · subst hji
      rw [ht, Option.some.injEq] at hj
      simp [← hj, Thread.midway, Phase.isTold]
    · exact hrest j t ((List.getElem?_set_ne (Ne.symm hji)).trans hj)

theorem telling_of_read {op : Operation} (hr : op.access = .read) (answer : Answer) :
    ∀ e ∈ telling op answer, e.access = .read := by
  intro e he
  cases op with
  | register u p => cases hr
  | authenticate u p =>
    cases answer with
    | verdict accepted =>
      rw [List.mem_singleton.1 he]
      rfl
    | _ => cases he
  | _ => cases he

/-- Every step leads to a state that is explained again. Either the order stays, or the operation
of the thread that took the step is added, and is not midway any more. -/
theorem Simulates.step {c' : State} (h : Simulates s work c order late) (hs : Steps c i c') :
    (∃ late', Simulates s work c' order late') ∨
    ∃ op phase ops answers t' late', c.threads[i]? = some ⟨.running op phase, ops, answers⟩ ∧
      phase.isTold = false ∧ c'.threads[i]? = some t' ∧ t'.midway .write = false ∧
      Simulates s work c' (order ++ [(i, op)]) late' := by
  cases hs with
  | enters ht hl => exact .inl ⟨late, h.enters ht hl⟩
  | @goesOn op phase phase' ops answers events store ht hm =>
    have hp : phase.isTold = false := by
      cases phase with
      | told a => cases hm
      | _ => rfl
    have hg := h.guarded.step (.goesOn ht hm)
    have hi : i < c.threads.length := (List.getElem?_eq_some_iff.1 ht).1
    obtain ⟨answer, rfl, rfl, rfl, rfl⟩ | ⟨hp', -⟩ := move_next_cases hm
    · have hmidway : ∀ a, Thread.midway ⟨.running op (.told answer), ops, answers⟩ a = false :=
        fun a => by simp [Thread.midway, Phase.isTold]
      refine .inr ⟨op, _, ops, answers, _, others i late, ht, hp, List.getElem?_set_self hi,
        hmidway .write, ?_⟩
      exact h.takesEffect ht hp (finish_answered c.store op answer)
        (fun hr => ⟨rfl, telling_of_read hr answer⟩) rfl rfl rfl hmidway hg
    · exact .inl ⟨_, h.goesOn ht hm hp hp'⟩
  | @leaves op phase ops answers answer store ht hm =>
    have hg := h.guarded.step (.leaves ht hm)
    have hi : i < c.threads.length := (List.getElem?_eq_some_iff.1 ht).1
    obtain ⟨a, rfl, rfl, rfl⟩ | ⟨rfl, rfl⟩ := move_leave_cases hm
    · exact .inl ⟨late, h.givesBack ht⟩
    · have hevents : c.events ++ ([] : List Event).map (i, ·) = c.events := List.append_nil _
      have heffect : Simulates s work ⟨store, c.lock.give op.access,
          c.threads.set i ⟨.idle, ops, answers ++ [none]⟩, c.events ++ ([] : List Event).map (i, ·)⟩
          (order ++ [(i, op)]) (others i late) :=
        h.takesEffect ht rfl (finish_leave hm)
          (fun hr => ⟨move_leave_store_of_read hr hm, fun e he => by cases he⟩) rfl
          (List.append_nil _) rfl (fun a => rfl) (by rw [hevents]; exact hg)
      rw [hevents] at heffect
      exact .inr ⟨op, _, ops, answers, _, others i late, ht, rfl, List.getElem?_set_self hi, rfl,
        heffect⟩

end Steps
end AccountRegistry.Concurrent
