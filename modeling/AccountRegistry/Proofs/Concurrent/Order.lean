import AccountRegistry.Proofs.Store.Ownership

set_option autoImplicit false

/-!
# Orders of operations

An order lists the operations of several threads, each with the number of its
thread. Performed one after the other they have outcomes and tell events, all
with the same numbers. Readers may tell of a recovery in any order while they
overlap; a choice of events that never takes such a note together with an event
of another reader looks the same in either order.
-/
namespace AccountRegistry.Concurrent

def own {α : Type} (i : Nat) (l : List (Nat × α)) : List α :=
  l.filterMap fun x => if x.1 = i then some x.2 else none

section Own
variable {α : Type} {i j : Nat}

@[simp] theorem own_nil : own i ([] : List (Nat × α)) = [] := rfl

@[simp] theorem own_append (xs ys : List (Nat × α)) : own i (xs ++ ys) = own i xs ++ own i ys :=
  List.filterMap_append

theorem own_self (a : α) : own i [(i, a)] = [a] := by simp [own]

theorem own_other (a : α) (h : j ≠ i) : own j [(i, a)] = [] := by simp [own, Ne.symm h]

theorem own_cons_self (a : α) (l : List (Nat × α)) : own i ((i, a) :: l) = a :: own i l := by
  simp [own]

theorem own_map_self (l : List α) : own i (l.map (i, ·)) = l := by
  induction l with
  | nil => rfl
  | cons a l ih => rw [List.map_cons, own_cons_self, ih]

theorem own_map_other (l : List α) (h : j ≠ i) : own j (l.map (i, ·)) = [] := by
  simp [own, Ne.symm h]

theorem mem_own {a : α} {l : List (Nat × α)} : a ∈ own i l ↔ (i, a) ∈ l := by
  simp [own]

theorem eq_nil_of_own {l : List (Nat × α)} (h : ∀ i, own i l = []) : l = [] := by
  cases l with
  | nil => rfl
  | cons x l =>
    have : x.2 ∈ own x.1 (x :: l) := mem_own.2 List.mem_cons_self
    rw [h x.1] at this
    cases this

def others (i : Nat) (l : List (Nat × α)) : List (Nat × α) := l.filter fun x => x.1 ≠ i

theorem own_others_self (l : List (Nat × α)) : own i (others i l) = [] := by
  rw [List.eq_nil_iff_forall_not_mem]
  intro a ha
  simp [mem_own, others] at ha

theorem own_others_other (l : List (Nat × α)) (h : j ≠ i) : own j (others i l) = own j l := by
  simp only [own, others, List.filterMap_filter]
  congr 1
  funext x
  by_cases hx : x.1 = j <;> simp [hx, h]

theorem filter_eq_map_own (l : List (Nat × α)) :
    l.filter (fun x => x.1 = i) = (own i l).map (i, ·) := by
  induction l with
  | nil => rfl
  | cons x l ih =>
    by_cases hx : x.1 = i
    · obtain ⟨k, a⟩ := x
      subst hx
      simpa [own] using ih
    · simpa [own, hx] using ih

end Own

def serial (s : Store) (order : List (Nat × Operation)) : List (Nat × Outcome Answer) :=
  (order.map Prod.fst).zip (s.performAll (order.map Prod.snd))

def serialStore (s : Store) (order : List (Nat × Operation)) : Store :=
  s.after (order.map Prod.snd)

def told (outcomes : List (Nat × Outcome Answer)) : List (Nat × Event) :=
  outcomes.flatMap fun x => x.2.events.map (x.1, ·)

theorem serialStore_concat (s : Store) (order : List (Nat × Operation)) (i : Nat) (op : Operation) :
    serialStore s (order ++ [(i, op)]) = ((serialStore s order).perform op).store := by
  simp only [serialStore, List.map_append, List.map_cons, List.map_nil, Store.after_concat]

theorem serial_concat (s : Store) (order : List (Nat × Operation)) (i : Nat) (op : Operation) :
    serial s (order ++ [(i, op)]) = serial s order ++ [(i, (serialStore s order).perform op)] := by
  simp only [serial, serialStore, List.map_append, List.map_cons, List.map_nil,
    Store.performAll_append]
  rw [List.zip_append (by rw [Store.length_performAll, List.length_map, List.length_map])]
  rfl

theorem told_concat (outcomes : List (Nat × Outcome Answer)) (i : Nat) (o : Outcome Answer) :
    told (outcomes ++ [(i, o)]) = told outcomes ++ o.events.map (i, ·) := by
  simp [told]

theorem own_serial_length (s : Store) (order : List (Nat × Operation)) (i : Nat) :
    (own i (serial s order)).length = (own i order).length := by
  induction order using List.reverseRecOn with
  | nil => rfl
  | append_singleton order x ih =>
    rw [serial_concat, own_append, own_append, List.length_append, List.length_append, ih]
    by_cases h : i = x.1
    · subst h
      rw [own_self, own_self]
      rfl
    · rw [own_other _ h, own_other x.2 h]
      rfl

theorem serial_append_cons (s : Store) (first rest : List (Nat × Operation)) (i : Nat)
    (op : Operation) : ∃ later, serial s (first ++ (i, op) :: rest) =
      serial s first ++ (i, (serialStore s first).perform op) :: later ∧
      ∀ j, (own j later).length = (own j rest).length := by
  refine ⟨serial ((serialStore s first).perform op).store rest, ?_, own_serial_length _ rest⟩
  simp only [serial, serialStore, List.map_append, List.map_cons, Store.performAll_append]
  rw [List.zip_append (by rw [Store.length_performAll, List.length_map, List.length_map])]
  rfl

/-- A choice of events that never takes a reader's recovery together with anything that another
reader tells. -/
def Separates (keep : Nat × Event → Bool) : Prop :=
  ∀ (i j : Nat) (e : Event), i ≠ j → keep (i, .recovered .read) = true → e.access = .read →
    keep (j, e) = false

section Gather
variable {keep : Nat × Event → Bool} {i : Nat} {late : List (Nat × Event)} {new : List Event}

theorem filter_gather_dropped (hdrop : ∀ e : Event, e.access = .read → keep (i, e) = false)
    (hlate : ∀ x ∈ late, x.2 = .recovered .read) (hnew : ∀ e ∈ new, e.access = .read) :
    (late ++ new.map (i, ·)).filter keep = late.filter keep ∧
      (late.filter (fun x => x.1 = i) ++ new.map (i, ·) ++ others i late).filter keep =
        late.filter keep := by
  have hself : ∀ x ∈ late, x.1 = i → keep x = false := by
    intro x hx hxi
    rw [show x = (i, .recovered .read) from Prod.ext hxi (hlate x hx)]
    exact hdrop _ rfl
  have h₁ : (new.map (i, ·)).filter keep = [] := by
    rw [List.filter_eq_nil_iff]
    intro y hy
    obtain ⟨e, he, rfl⟩ := List.mem_map.1 hy
    simp [hdrop e (hnew e he)]
  have h₂ : (late.filter fun x => x.1 = i).filter keep = [] := by
    rw [List.filter_eq_nil_iff]
    intro y hy
    obtain ⟨hmem, hyi⟩ := List.mem_filter.1 hy
    simp [hself y hmem (by simpa using hyi)]
  have h₃ : (others i late).filter keep = late.filter keep := by
    rw [others, List.filter_filter]
    refine List.filter_congr fun y hy => ?_
    by_cases hyi : y.1 = i
    · simp [hyi, hself y hy hyi]
    · simp [hyi]
  simp only [List.filter_append, h₁, h₂, h₃, List.append_nil, List.nil_append, and_self]

theorem filter_gather_kept (hkeep : ∀ x ∈ late, x.1 ≠ i → keep x = false) :
    (late ++ new.map (i, ·)).filter keep =
      (late.filter (fun x => x.1 = i) ++ new.map (i, ·) ++ others i late).filter keep := by
  have h₁ : (others i late).filter keep = [] := by
    rw [List.filter_eq_nil_iff]
    intro y hy
    obtain ⟨hmem, hyi⟩ := List.mem_filter.1 hy
    simp [hkeep y hmem (by simpa using hyi)]
  have h₂ : (late.filter fun x => x.1 = i).filter keep = late.filter keep := by
    rw [List.filter_filter]
    refine List.filter_congr fun y hy => ?_
    by_cases hyi : y.1 = i
    · simp [hyi]
    · simp [hyi, hkeep y hy hyi]
  simp only [List.filter_append, h₁, h₂, List.append_nil]

/-- What a thread has noted may be moved together with what it tells now, in front of what other
readers have noted. -/
theorem filter_gather (hk : Separates keep)
    (h : (∀ x ∈ late, x.1 = i) ∨
      (∀ x ∈ late, x.2 = .recovered .read) ∧ ∀ e ∈ new, e.access = .read) :
    (late ++ new.map (i, ·)).filter keep =
      ((own i late ++ new).map (i, ·) ++ others i late).filter keep := by
  rw [List.map_append, ← filter_eq_map_own late]
  by_cases hex : ∃ x ∈ late, x.1 ≠ i ∧ keep x = true
  · obtain ⟨x, hx, hxi, hkeep⟩ := hex
    obtain hown | ⟨hlate, hnew⟩ := h
    · exact absurd (hown x hx) hxi
    · have hdrop : ∀ e : Event, e.access = .read → keep (i, e) = false := by
        intro e he
        refine hk x.1 i e hxi ?_ he
        rw [← hlate x hx]
        exact hkeep
      obtain ⟨h₁, h₂⟩ := filter_gather_dropped hdrop hlate hnew
      exact h₁.trans h₂.symm
  · refine filter_gather_kept fun x hx hxi => ?_
    by_contra hn
    exact hex ⟨x, hx, hxi, by simpa using hn⟩

end Gather

end Concurrent
end AccountRegistry
