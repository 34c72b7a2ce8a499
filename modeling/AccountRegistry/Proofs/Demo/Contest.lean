import AccountRegistry.Demo
import AccountRegistry.Proofs.Store.Transcript

set_option autoImplicit false

/-!
# Contending for a taken name

Whatever turns the tasks take, all of them are refused a name that is taken, and
the store stays as it is. Every task gets its turn and is awaited in the end, so
as many are counted as there are.
-/
namespace AccountRegistry.Demo.Contest
open AccountRegistry.Log (Record)

theorem foldl_turn {P : Contest → Prop} {username : String}
    (step : ∀ c t, P c → P (turn username c t)) (schedule : List Turn) {c : Contest} (h : P c) :
    P (schedule.foldl (turn username) c) := by
  induction schedule generalizing c with
  | nil => exact h
  | cons t schedule ih => exact ih (step c t h)

/-- A contest on an unpoisoned store that has the name already. -/
structure Refusing (username : String) (s : Store) (c : Contest) : Prop where
  taken : ∃ stored : String, s.users[username]? = some stored
  unpoisoned : s.poisoned = false
  store : c.store = s
  size : c.results.length = contenders
  results : ∀ r, some r ∈ c.results → r = some (.error (.duplicateUser username))
  awaited : c.awaited ≤ contenders
  rejected : c.rejected = c.awaited
  records : ∀ r ∈ c.records, r = (Event.rejected username).record ∨
    r = (RegistryError.duplicateUser username).record

section Keeping
variable {username : String} {s : Store} {c : Contest}

theorem refusing_start (taken : ∃ stored : String, s.users[username]? = some stored)
    (unpoisoned : s.poisoned = false) : Refusing username s (start s) where
  taken := taken
  unpoisoned := unpoisoned
  store := rfl
  size := List.length_replicate
  results := fun _ h => nomatch List.eq_of_mem_replicate h
  awaited := Nat.zero_le _
  rejected := rfl
  records := fun _ h => nomatch h

theorem Refusing.contend (h : Refusing username s c) (task : Nat) :
    Refusing username s (c.contend username task) := by
  unfold Contest.contend
  split
  · obtain ⟨stored, hstored⟩ := h.taken
    have hregister : c.store.register username (secretOf task) =
        ⟨some (.error (.duplicateUser username)), [.rejected username], s⟩ := by
      rw [h.store, Store.register_of_taken hstored, Store.recovery, h.unpoisoned]
      rfl
    simp only [hregister]
    refine ⟨h.taken, h.unpoisoned, rfl, by rw [List.length_set, h.size], fun r hr => ?_, h.awaited,
      h.rejected, fun r hr => ?_⟩
    · obtain hold | hnew := List.mem_or_eq_of_mem_set hr
      · exact h.results r hold
      · exact Option.some.inj hnew
    · obtain hold | hnew := List.mem_append.1 hr
      · exact h.records r hold
      · exact .inl (List.mem_singleton.1 hnew)
  · exact h

theorem Refusing.await (h : Refusing username s c) : Refusing username s c.await := by
  unfold Contest.await
  split
  · next result hresult =>
    obtain rfl := h.results result (List.mem_of_getElem? hresult)
    have hlt : c.awaited < contenders := h.size ▸ (List.getElem?_eq_some_iff.1 hresult).1
    refine ⟨h.taken, h.unpoisoned, h.store, h.size, h.results, hlt, ?_, fun r hr => ?_⟩
    · exact congrArg (· + 1) h.rejected
    · obtain hold | hnew := List.mem_append.1 hr
      · exact h.records r hold
      · exact .inr (List.mem_singleton.1 hnew)
  · exact h

theorem Refusing.turn (h : Refusing username s c) (t : Turn) :
    Refusing username s (c.turn username t) := by
  cases t with
  | contend task => exact h.contend task
  | await => exact h.await

theorem Refusing.run (h : Refusing username s c) (schedule : List Turn) :
    Refusing username s (schedule.foldl (Contest.turn username) c) :=
  foldl_turn (fun _ t h => h.turn t) schedule h

end Keeping

def Served (task : Nat) (c : Contest) : Prop := ∃ r, c.results[task]? = some (some r)

section Ending
variable {username : String} {c : Contest} {task : Nat}

theorem results_await (c : Contest) : c.await.results = c.results := by
  unfold await
  split <;> rfl

theorem length_results_turn (username : String) (c : Contest) (t : Turn) :
    (c.turn username t).results.length = c.results.length := by
  cases t with
  | await => exact congrArg List.length (results_await c)
  | contend task =>
    rw [turn, contend]
    split
    · exact List.length_set
    · rfl

theorem served_contend (h : task < c.results.length) : Served task (c.contend username task) := by
  unfold contend
  split
  · exact ⟨_, List.getElem?_set_self h⟩
  · next hserved =>
    cases hr : c.results[task]? with
    | none => exact absurd (List.getElem?_eq_none_iff.1 hr) (Nat.not_le.2 h)
    | some result =>
      cases result with
      | none => exact absurd hr hserved
      | some r => exact ⟨r, hr⟩

theorem Served.turn (username : String) (h : Served task c) (t : Turn) :
    Served task (c.turn username t) := by
  obtain ⟨r, hr⟩ := h
  cases t with
  | await => exact ⟨r, (congrArg (·[task]?) (results_await c)).trans hr⟩
  | contend other =>
    rw [Contest.turn, contend]
    split
    · next hother =>
      have hne : other ≠ task := by
        rintro rfl
        rw [hr] at hother
        cases hother
      exact ⟨r, (List.getElem?_set_ne hne).trans hr⟩
    · exact ⟨r, hr⟩

theorem served_contends (username : String) {n : Nat} (hn : n ≤ c.results.length) :
    ∀ task < n, Served task (((List.range n).map .contend).foldl (turn username) c) := by
  induction n with
  | zero => exact fun task h => absurd h (Nat.not_lt_zero _)
  | succ n ih =>
    intro task htask
    rw [List.range_succ, List.map_append, List.foldl_append]
    have hlength : n < (((List.range n).map .contend).foldl (turn username) c).results.length :=
      foldl_turn (P := fun d => n < d.results.length)
        (fun d t hd => (length_results_turn username d t).symm ▸ hd) _ hn
    obtain rfl | hlt := Nat.eq_or_lt_of_le (Nat.le_of_lt_succ htask)
    · exact served_contend hlength
    · exact (ih (Nat.le_of_succ_le hn) task hlt).turn username (.contend n)

theorem awaited_await (h : Served c.awaited c) : c.await.awaited = c.awaited + 1 := by
  obtain ⟨r, hr⟩ := h
  unfold await
  rw [hr]

/-- Awaiting often enough awaits all tasks that have had their turns. -/
theorem awaited_awaits (username : String) {m : Nat} (n : Nat) (h : ∀ task < m, Served task c) :
    min m (c.awaited + n) ≤ ((List.replicate n .await).foldl (turn username) c).awaited := by
  induction n generalizing c with
  | zero => exact Nat.min_le_right _ _
  | succ n ih =>
    have hrest := ih (c := c.await) fun task htask => (h task htask).turn username .await
    rw [List.replicate_succ, List.foldl_cons]
    refine Nat.le_trans ?_ hrest
    -- below `m` the next task has a result to take; from `m` on nothing is left to show
    by_cases hm : c.awaited < m
    · rw [awaited_await (h _ hm)]
      omega
    · have hle : c.awaited ≤ c.await.awaited := by
        unfold await
        split
        · exact Nat.le_succ _
        · exact Nat.le_refl _
      omega

end Ending

theorem finish_refusing {username : String} {s : Store}
    (taken : ∃ stored : String, s.users[username]? = some stored) (unpoisoned : s.poisoned = false)
    (schedule : List Turn) :
    Refusing username s (finish username s schedule) ∧
      (finish username s schedule).rejected = contenders := by
  have hstart := refusing_start taken unpoisoned
  have hdone := hstart.run schedule
  have hend : Refusing username s (finish username s schedule) := hstart.run _
  refine ⟨hend, Nat.le_antisymm (hend.rejected ▸ hend.awaited) ?_⟩
  rw [hend.rejected]
  -- whatever the schedule left undone, each task has its turn before the last awaits
  have hserved := served_contends username (Nat.le_of_eq hdone.size.symm)
  have hawaited := awaited_awaits username contenders hserved
  rw [finish, List.foldl_append, remaining, List.foldl_append]
  exact Nat.le_trans (Nat.le_min.2 ⟨Nat.le_refl _, Nat.le_add_left _ _⟩) hawaited

end AccountRegistry.Demo.Contest
