import AccountRegistry.Proofs.Concurrent.Simulation

set_option autoImplicit false

/-!
# Every interleaving has a sequential order

Whatever turns the threads take, a run that comes to its end is explained by one
order of all operations: performed one after the other in it they give the same
answers and records and leave the same store. The order agrees with the order of
every thread and with time. Records may differ from it in one respect only:
readers that overlap may tell of a recovery before it is their turn.
-/
namespace AccountRegistry.Concurrent

def Quiet (c : State) : Prop :=
  ∀ (i : Nat) (t : Thread), c.threads[i]? = some t → t.activity = .idle

/-- An order explains the state after some steps. -/
def Explains (s : Store) (work : List (List Operation)) (schedule : List Nat)
    (order : List (Nat × Operation)) : Prop :=
  ∃ late, Simulates s work (run (State.start s work) schedule) order late

/-- An order explains a run from its start: what took effect first stands first, and a writer found
everything before it finished. -/
structure Recounts (s : Store) (work : List (List Operation)) (schedule : List Nat)
    (order : List (Nat × Operation)) : Prop where
  here : Explains s work schedule order
  earlier : ∀ early, early <+: schedule → ∃ first, first <+: order ∧ Explains s work early first
  alone : ∀ first i op rest, order = first ++ (i, op) :: rest → op.access = .write →
    ∃ early, early <+: schedule ∧ Explains s work early first ∧
      Quiet (run (State.start s work) early)
  writing : ∀ (i : Nat) (t : Thread), (run (State.start s work) schedule).threads[i]? = some t →
    t.midway .write = true → ∃ early, early <+: schedule ∧ Explains s work early order ∧
      Quiet (run (State.start s work) early)

theorem quiet_of_take_write {c : State} {lock : Lock} (hg : Guarded c)
    (hl : c.lock.take? .write = some lock) : Quiet c := by
  simp only [Lock.take?, Option.ite_none_left_eq_some, Bool.or_eq_true, decide_eq_true_eq,
    not_or, Bool.not_eq_true, ne_eq, Decidable.not_not] at hl
  obtain ⟨⟨hwriting, hreaders⟩, -⟩ := hl
  intro i t ht
  have hw := hg.writer
  have hr := hg.readers
  rw [hwriting] at hw
  rw [hreaders] at hr
  have hread := List.countP_eq_zero.1 hr t (List.mem_of_getElem? ht)
  have hwrite := List.countP_eq_zero.1 hw t (List.mem_of_getElem? ht)
  obtain ⟨activity, pending, answers⟩ := t
  cases activity with
  | idle => rfl
  | running op phase =>
    cases hop : op.access with
    | read => simp [hop] at hread
    | write => simp [hop] at hwrite

/-- A thread that is midway in writing after a step either has just taken the lock, which nobody
held, or was midway before and took the step itself. -/
theorem midway_write_cases {c c' : State} {i j : Nat} {t : Thread} (hg : Guarded c)
    (hs : Steps c i c') (ht : c'.threads[j]? = some t) (hm : t.midway .write = true) :
    Quiet c ∨ ∃ u, c.threads[j]? = some u ∧ u.midway .write = true := by
  cases hs with
  | @enters op ops answers lock hi hl =>
    obtain ⟨rfl, rfl⟩ | ⟨-, hj⟩ := set_get_cases ht
    · have hop : op.access = .write := by simpa [Thread.midway, Phase.isTold] using hm
      exact .inl (quiet_of_take_write hg (hop ▸ hl))
    · exact .inr ⟨t, hj, hm⟩
  | @goesOn op phase phase' ops answers events store hi hmove =>
    obtain ⟨rfl, rfl⟩ | ⟨-, hj⟩ := set_get_cases ht
    · refine .inr ⟨_, hi, ?_⟩
      simp only [Thread.midway, Bool.and_eq_true] at hm
      cases phase with
      | told a => cases hmove
      | _ => simpa [Thread.midway, Phase.isTold] using hm.1
    · exact .inr ⟨t, hj, hm⟩
  | @leaves op phase ops answers answer store hi hmove =>
    obtain ⟨rfl, rfl⟩ | ⟨-, hj⟩ := set_get_cases ht
    · cases hm
    · exact .inr ⟨t, hj, hm⟩

theorem recounts_start (s : Store) (work : List (List Operation)) : Recounts s work [] [] where
  here := ⟨[], simulates_start s work⟩
  earlier := by
    intro early he
    rw [List.prefix_nil.1 he]
    exact ⟨[], List.prefix_rfl, [], simulates_start s work⟩
  alone := by
    intro first i op rest h
    simp at h
  writing := by
    intro i t ht hm
    simp only [run, List.foldl_nil, State.start, List.getElem?_map, Option.map_eq_some_iff] at ht
    obtain ⟨ops, -, rfl⟩ := ht
    cases hm

section Recounting
variable {s : Store} {work : List (List Operation)} {schedule : List Nat}
  {order : List (Nat × Operation)} {i : Nat}

theorem Recounts.waits (h : Recounts s work schedule order)
    (hw : run (State.start s work) (schedule ++ [i]) = run (State.start s work) schedule) :
    Recounts s work (schedule ++ [i]) order where
  here := by
    rw [Explains, hw]
    exact h.here
  earlier := by
    intro early he
    obtain rfl | he := List.prefix_concat_iff.1 he
    · refine ⟨order, List.prefix_rfl, ?_⟩
      rw [Explains, hw]
      exact h.here
    · exact h.earlier early he
  alone := by
    intro first i op rest ho ha
    obtain ⟨early, he, hx⟩ := h.alone first i op rest ho ha
    exact ⟨early, he.trans (List.prefix_append _ _), hx⟩
  writing := by
    intro j t ht hm
    rw [hw] at ht
    obtain ⟨early, he, hx⟩ := h.writing j t ht hm
    exact ⟨early, he.trans (List.prefix_append _ _), hx⟩

theorem concat_eq_append_cons {α : Type} {xs ys zs : List α} {x y : α}
    (h : xs ++ [x] = ys ++ y :: zs) : (ys = xs ∧ y = x) ∨ ∃ zs', xs = ys ++ y :: zs' := by
  obtain rfl | ⟨zs', z, rfl⟩ := List.eq_nil_or_concat zs
  · obtain ⟨hxs, hx⟩ := List.append_inj' h rfl
    exact .inl ⟨hxs.symm, (List.cons.inj hx).1.symm⟩
  · rw [List.concat_eq_append, ← List.cons_append, ← List.append_assoc] at h
    exact .inr ⟨zs', (List.append_inj' h rfl).1⟩

/-- Before a step, a writer that is midway after it can be traced back to a state in which nobody
is at work and which has the same order. -/
theorem Recounts.writing_after {c' : State} (h : Recounts s work schedule order)
    (hs : Steps (run (State.start s work) schedule) i c') {j : Nat} {t : Thread}
    (ht : c'.threads[j]? = some t) (hm : t.midway .write = true) :
    ∃ early, early <+: schedule ++ [i] ∧ Explains s work early order ∧
      Quiet (run (State.start s work) early) := by
  obtain ⟨late, hsim⟩ := h.here
  obtain hquiet | ⟨u, hu, hum⟩ := midway_write_cases hsim.guarded hs ht hm
  · exact ⟨schedule, List.prefix_append _ _, h.here, hquiet⟩
  · obtain ⟨early, he, hx⟩ := h.writing j u hu hum
    exact ⟨early, he.trans (List.prefix_append _ _), hx⟩

theorem Recounts.goesOn {c' : State} (h : Recounts s work schedule order)
    (hs : Steps (run (State.start s work) schedule) i c')
    (hrun : run (State.start s work) (schedule ++ [i]) = c')
    (hx : ∃ late, Simulates s work c' order late) : Recounts s work (schedule ++ [i]) order := by
  have here : Explains s work (schedule ++ [i]) order := by
    rw [Explains, hrun]
    exact hx
  refine ⟨here, ?_, ?_, ?_⟩
  · intro early he
    obtain rfl | he := List.prefix_concat_iff.1 he
    · exact ⟨order, List.prefix_rfl, here⟩
    · exact h.earlier early he
  · intro first i op rest ho ha
    obtain ⟨early, he, hx⟩ := h.alone first i op rest ho ha
    exact ⟨early, he.trans (List.prefix_append _ _), hx⟩
  · intro j t ht hm
    rw [hrun] at ht
    exact h.writing_after hs ht hm

theorem Recounts.takesEffect {c' : State} (h : Recounts s work schedule order)
    (hs : Steps (run (State.start s work) schedule) i c')
    (hrun : run (State.start s work) (schedule ++ [i]) = c') {op : Operation} {phase : Phase}
    {ops : List Operation} {answers : List (Option Answer)} {t' : Thread}
    {late' : List (Nat × Event)}
    (hi : (run (State.start s work) schedule).threads[i]? = some ⟨.running op phase, ops, answers⟩)
    (hp : phase.isTold = false) (hi' : c'.threads[i]? = some t') (hm' : t'.midway .write = false)
    (hx : Simulates s work c' (order ++ [(i, op)]) late') :
    Recounts s work (schedule ++ [i]) (order ++ [(i, op)]) := by
  have here : Explains s work (schedule ++ [i]) (order ++ [(i, op)]) := by
    rw [Explains, hrun]
    exact ⟨late', hx⟩
  refine ⟨here, ?_, ?_, ?_⟩
  · intro early he
    obtain rfl | he := List.prefix_concat_iff.1 he
    · exact ⟨_, List.prefix_rfl, here⟩
    · obtain ⟨first, hf, hx⟩ := h.earlier early he
      exact ⟨first, hf.trans (List.prefix_append _ _), hx⟩
  · intro first j op' rest ho ha
    -- the operation is the new one, or stood in the order before
    obtain ⟨rfl, hlast⟩ | ⟨rest', hrest⟩ := concat_eq_append_cons ho
    · cases hlast
      have hmid : Thread.midway ⟨.running op phase, ops, answers⟩ .write = true := by
        simp [Thread.midway, ha, hp]
      obtain ⟨early, he, hx⟩ := h.writing i _ hi hmid
      exact ⟨early, he.trans (List.prefix_append _ _), hx⟩
    · obtain ⟨early, he, hx⟩ := h.alone first j op' rest' hrest ha
      exact ⟨early, he.trans (List.prefix_append _ _), hx⟩
  · intro j t ht hm
    rw [hrun] at ht
    obtain ⟨late, hsim⟩ := h.here
    -- nobody else can be at work beside a writer
    have hji : j ≠ i := by
      rintro rfl
      rw [hi', Option.some.injEq] at ht
      rw [ht, hm] at hm'
      cases hm'
    obtain hquiet | ⟨u, hu, hum⟩ := midway_write_cases hsim.guarded hs ht hm
    · cases hquiet i _ hi
    · cases hsim.guarded.alone hu (Thread.holds_of_midway hum) hi (Ne.symm hji)

end Recounting

theorem exists_recounts (s : Store) (work : List (List Operation)) (schedule : List Nat) :
    ∃ order, Recounts s work schedule order := by
  induction schedule using List.reverseRecOn with
  | nil => exact ⟨[], recounts_start s work⟩
  | append_singleton schedule i ih =>
    obtain ⟨order, h⟩ := ih
    have hrun := run_concat (State.start s work) schedule i
    cases hstep : step? (run (State.start s work) schedule) i with
    | none =>
      rw [hstep, Option.getD_none] at hrun
      exact ⟨order, h.waits hrun⟩
    | some c' =>
      rw [hstep, Option.getD_some] at hrun
      have hs := steps_of_step? hstep
      obtain ⟨late, hsim⟩ := h.here
      obtain hx | ⟨op, phase, ops, answers, t', late', hi, hp, hi', hm', hx⟩ := hsim.step hs
      · exact ⟨order, h.goesOn hs hrun hx⟩
      · exact ⟨_, h.takesEffect hs hrun hi hp hi' hm' hx⟩

/-- A run, with its start `s`, the work of its threads and its schedule, is explained by a
sequential order. -/
structure Linearizes (s : Store) (work : List (List Operation)) (schedule : List Nat)
    (order : List (Nat × Operation)) : Prop where
  operations : ∀ i, own i order = work.getD i []
  answers : ∀ i, ((run (State.start s work) schedule).threads[i]?).elim [] Thread.answers =
    (own i (serial s order)).map Outcome.answer
  store : (run (State.start s work) schedule).store = serialStore s order
  records : ∀ i, (run (State.start s work) schedule).events.filter
      (fun x => decide (x.1 = i ∨ x.2.access = .write)) =
    (told (serial s order)).filter fun x => decide (x.1 = i ∨ x.2.access = .write)
  results : (run (State.start s work) schedule).events.filter
      (fun x => decide (x.2 ≠ .recovered .read)) =
    (told (serial s order)).filter fun x => decide (x.2 ≠ .recovered .read)
  /-- At any time, a first part of the order has all operations that are finished and none that
  has not begun. -/
  time : ∀ early, early <+: schedule → ∃ first, first <+: order ∧
    ∀ (i : Nat) (t : Thread), (run (State.start s work) early).threads[i]? = some t →
      t.answers.length ≤ (own i first).length ∧
      (own i first).length + t.pending.length ≤ (work.getD i []).length
  /-- A writer begins when exactly the operations before it are finished and no other has begun. -/
  alone : ∀ first i op rest, order = first ++ (i, op) :: rest → op.access = .write →
    ∃ early, early <+: schedule ∧
      ∀ (j : Nat) (t : Thread), (run (State.start s work) early).threads[j]? = some t →
        t.activity = .idle ∧ t.answers.length = (own j first).length

theorem separates_thread (i : Nat) :
    Separates fun x => decide (x.1 = i ∨ x.2.access = .write) := by
  intro j k e hjk hj he
  have hji : j = i := by simpa [Event.access] using hj
  simp [he, hji ▸ Ne.symm hjk]

theorem separates_results : Separates fun x => decide (x.2 ≠ .recovered .read) := by
  intro j k e hjk hj he
  simp at hj

theorem Fits.length_answers {s now : Store} {ops : List Operation} {order : List (Nat × Operation)}
    {late : List (Nat × Event)} {i : Nat} {t : Thread} (h : Fits s ops now order late i t) :
    t.answers.length + t.promised.length = (own i order).length := by
  rw [← own_serial_length s, ← List.length_map Outcome.answer, ← h.answers, List.length_append]

theorem Fits.length_operations {s now : Store} {ops : List Operation}
    {order : List (Nat × Operation)} {late : List (Nat × Event)} {i : Nat} {t : Thread}
    (h : Fits s ops now order late i t) :
    (own i order).length + t.pending.length ≤ ops.length := by
  have hops := congrArg List.length h.operations
  have hahead : t.pending.length ≤ t.ahead.length := by
    unfold Thread.ahead
    split
    · exact Nat.le_refl _
    · split
      · exact Nat.le_refl _
      · exact Nat.le_succ _
  rw [List.length_append] at hops
  omega

theorem done_thread {c : State} (h : c.done = true) {i : Nat} {t : Thread}
    (ht : c.threads[i]? = some t) : t.activity = .idle ∧ t.pending = [] := by
  have hd := List.all_eq_true.1 h t (List.mem_of_getElem? ht)
  obtain ⟨activity, pending, answers⟩ := t
  cases activity with
  | idle => exact ⟨rfl, List.isEmpty_iff.1 hd⟩
  | running op phase => cases hd

theorem Simulates.late_of_done {s : Store} {work : List (List Operation)} {c : State}
    {order : List (Nat × Operation)} {late : List (Nat × Event)} (h : Simulates s work c order late)
    (hd : c.done = true) : late = [] := by
  refine eq_nil_of_own fun i => ?_
  cases ht : c.threads[i]? with
  | none => exact (h.strangers i ht).2
  | some t =>
    rw [(h.fits i t ht).late, Thread.noted, (done_thread hd ht).1]

theorem Recounts.linearizes {s : Store} {work : List (List Operation)} {schedule : List Nat}
    {order : List (Nat × Operation)} (h : Recounts s work schedule order)
    (hd : (run (State.start s work) schedule).done = true) : Linearizes s work schedule order := by
  obtain ⟨late, hsim⟩ := h.here
  obtain rfl := hsim.late_of_done hd
  refine ⟨?_, ?_, ?_, ?_, ?_, ?_, ?_⟩
  · intro i
    cases ht : (run (State.start s work) schedule).threads[i]? with
    | none =>
      have hlen : work.length ≤ i := hsim.size ▸ List.getElem?_eq_none_iff.1 ht
      rw [(hsim.strangers i ht).1, List.getD_eq_getElem?_getD, List.getElem?_eq_none hlen]
      rfl
    | some t =>
      obtain ⟨hidle, hpending⟩ := done_thread hd ht
      have := (hsim.fits i t ht).operations
      rwa [Thread.ahead, hidle, hpending, List.append_nil] at this
  · intro i
    cases ht : (run (State.start s work) schedule).threads[i]? with
    | none =>
      have hlen := own_serial_length s order i
      rw [(hsim.strangers i ht).1] at hlen
      rw [List.eq_nil_of_length_eq_zero hlen]
      rfl
    | some t =>
      have := (hsim.fits i t ht).answers
      rwa [Thread.promised, (done_thread hd ht).1, List.append_nil] at this
  · refine hsim.rested fun i t ht => ?_
    rw [Thread.midway, (done_thread hd ht).1]
  · intro i
    have := hsim.log _ (separates_thread i)
    rwa [List.append_nil] at this
  · have := hsim.log _ separates_results
    rwa [List.append_nil] at this
  · intro early he
    obtain ⟨first, hf, late, hsim⟩ := h.earlier early he
    refine ⟨first, hf, fun i t ht => ?_⟩
    have hanswers := (hsim.fits i t ht).length_answers
    exact ⟨by omega, (hsim.fits i t ht).length_operations⟩
  · intro first i op rest ho ha
    obtain ⟨early, he, ⟨late, hsim⟩, hquiet⟩ := h.alone first i op rest ho ha
    refine ⟨early, he, fun j t ht => ⟨hquiet j t ht, ?_⟩⟩
    have hanswers := (hsim.fits j t ht).length_answers
    rwa [Thread.promised, hquiet j t ht] at hanswers

/-- Every interleaving of threads on a shared store that comes to its end has a sequential order
of all their operations with the same answers, the same records and the same store. -/
theorem exists_linearization (s : Store) (work : List (List Operation)) (schedule : List Nat)
    (hd : (run (State.start s work) schedule).done = true) :
    ∃ order, Linearizes s work schedule order := by
  obtain ⟨order, h⟩ := exists_recounts s work schedule
  exact ⟨order, h.linearizes hd⟩

theorem exists_linearization_contended :
    let s := Store.ofTransform (.refusing "panic" "~")
    let work := [[.register "ann" "panic!", .authenticate "ann" "x"],
      [.register "ann" "pw", .size], [.authenticate "ann" "pw"]]
    let schedule := (List.replicate 20 [0, 1, 2]).flatten
    (run (State.start s work) schedule).done = true ∧ ∃ order, Linearizes s work schedule order :=
  ⟨by decide +kernel, exists_linearization _ _ _ (by decide +kernel)⟩

end AccountRegistry.Concurrent
