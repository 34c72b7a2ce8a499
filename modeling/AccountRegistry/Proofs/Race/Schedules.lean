import AccountRegistry.Proofs.Race.SingleWinner
import AccountRegistry.Proofs.Store.Secrecy

set_option autoImplicit false

/-!
# Races under two schedules

What a schedule can decide about a race. Calls for different names do not meet,
so each comes to what it would come to alone. Of several calls for one name the
schedule chooses the winner and nothing else: which names there are in the end,
and how many calls succeed for each of them, is settled before the race.
-/
namespace AccountRegistry.Race
open AccountRegistry.Concurrent

/-- The transform takes the secret of one of the contenders for a name. -/
def Derivable (s : Store) (pairs : List (String × String)) (username : String) : Prop :=
  ∃ secret, (username, secret) ∈ pairs ∧ (s.transform secret).isSome

def AllDerive (s : Store) (pairs : List (String × String)) : Prop :=
  ∀ p ∈ pairs, (s.transform p.2).isSome

section Settled
variable {s : Store} {pairs : List (String × String)} {schedule : List Nat}
  {order : List (Nat × Operation)} {username secret : String}

theorem mem_of_owner? (h : Linearizes s (work pairs) schedule order)
    (ho : Store.owner? s.transform (order.map Prod.snd) username = some secret) :
    (username, secret) ∈ pairs := by
  obtain ⟨first, i, rest, hsplit, -, -⟩ := exists_owner_place ho
  obtain ⟨u, p, hop, hi⟩ := mem_order h
    (show (i, Operation.register username secret) ∈ order by simp [hsplit])
  cases hop
  exact List.mem_of_getElem? hi

theorem owner?_isSome_iff (h : Linearizes s (work pairs) schedule order) :
    (Store.owner? s.transform (order.map Prod.snd) username).isSome ↔
      Derivable s pairs username := by
  rw [Option.isSome_iff_exists]
  constructor
  · rintro ⟨secret, ho⟩
    exact ⟨secret, mem_of_owner? h ho, Store.owner?_isSome ho⟩
  · rintro ⟨secret, hp, ht⟩
    exact exists_owner h hp ht

theorem mem_users_finish (h : Linearizes s (work pairs) schedule order) :
    username ∈ (finish s pairs schedule).store.users ↔
      username ∈ s.users ∨ Derivable s pairs username := by
  rw [Std.ExtTreeMap.mem_iff_isSome_getElem?, Std.ExtTreeMap.mem_iff_isSome_getElem?,
    users_finish h, Option.isSome_or, Bool.or_eq_true, ← owner?_isSome_iff h]
  refine or_congr_right ?_
  cases ho : Store.owner? s.transform (order.map Prod.snd) username with
  | none => simp
  | some secret => simpa using Store.owner?_isSome ho

theorem Settles.wins {calls : List Contender} (h : Settles s pairs schedule username calls) :
    (s.users.contains username = false ∧ Derivable s pairs username →
      calls.countP Contender.won = 1) ∧
    (¬ (s.users.contains username = false ∧ Derivable s pairs username) →
      calls.countP Contender.won = 0) := by
  refine ⟨fun ⟨hfree, hderive⟩ => (h.won hfree hderive).1, fun hlost => ?_⟩
  rw [List.countP_eq_zero]
  intro x hx
  cases hu : s.users.contains username with
  | true => simp [Contender.won, (h.taken hu).1 x hx]
  | false =>
    have hnone : ∀ secret, (username, secret) ∈ pairs → s.transform secret = none := by
      intro secret hp
      rw [← Option.not_isSome_iff_eq_none]
      exact fun ht => hlost ⟨hu, secret, hp, ht⟩
    simp [Contender.won, (h.free hu hnone).1 x hx]

theorem countP_broke (h : Linearizes s (work pairs) schedule order) (hderive : AllDerive s pairs) :
    (callsFor username (contenders pairs (finish s pairs schedule))).countP Contender.broke = 0 := by
  rw [List.countP_eq_zero]
  intro x hx
  obtain ⟨i, hi⟩ := List.mem_iff_getElem?.1 (List.mem_filter.1 hx).1
  have hp := pair_of_contender hi
  obtain ⟨first, rest, ho⟩ := exists_place h hp
  rw [contender_at_place h hp ho, Option.some.injEq] at hi
  have ha : x.answer = _ := (congrArg Contender.answer hi).symm
  have ht : ((serialStore s first).transform x.secret).isSome := by
    rw [serialStore, Store.after_transform]
    exact hderive _ (List.mem_of_getElem? hp)
  obtain ⟨credential, hc⟩ := Option.isSome_iff_exists.1 ht
  rw [Contender.broke, ha, Store.register_answer]
  cases (serialStore s first).users[x.username]? with
  | some stored => simp
  | none => simp [hc]

theorem secret_unique {p q : String} (hn : (pairs.map Prod.fst).Nodup)
    (hp : (username, p) ∈ pairs) (hq : (username, q) ∈ pairs) : p = q :=
  congrArg Prod.snd (List.inj_on_of_nodup_map hn hp hq rfl)

theorem users_at_place (h : Linearizes s (work pairs) schedule order)
    (hn : (pairs.map Prod.fst).Nodup) {i : Nat} (hp : pairs[i]? = some (username, secret))
    {first rest : List (Nat × Operation)}
    (ho : order = first ++ (i, .register username secret) :: rest) :
    (serialStore s first).users[username]? = s.users[username]? := by
  have hnone : Store.owner? s.transform (first.map Prod.snd) username = none := by
    rw [Store.owner?, List.findSome?_eq_none_iff]
    intro op hop
    obtain ⟨⟨j, op⟩, hj, rfl⟩ := List.mem_map.1 hop
    obtain ⟨u, p, rfl, hpj⟩ := mem_order h (show (j, op) ∈ order by simp [ho, hj])
    refine if_neg fun hu => ?_
    -- an earlier call for the name would be this call itself, which stands in the order once
    obtain rfl : u = username := hu.1
    have hi : i < (pairs.map Prod.fst).length := by
      rw [List.length_map]
      exact (List.getElem?_eq_some_iff.1 hp).1
    have hij : i = j := by
      rw [← List.getElem?_inj hi hn, List.getElem?_map, List.getElem?_map, hp, hpj]
      rfl
    subst hij
    have hmem : Operation.register u p ∈ own i first := mem_own.2 hj
    rw [(own_around_place h hp ho).1] at hmem
    cases hmem
  rw [serialStore, Store.users_after, hnone, Option.bind_none, Option.or_none]

theorem contenders_apart (h : Linearizes s (work pairs) schedule order)
    (hn : (pairs.map Prod.fst).Nodup) : contenders pairs (finish s pairs schedule) =
      pairs.map fun p => ⟨p.1, p.2, (s.perform (.register p.1 p.2)).answer⟩ := by
  refine List.ext_getElem? fun i => ?_
  rw [List.getElem?_map]
  cases hp : pairs[i]? with
  | none =>
    rw [contenders, List.getElem?_zipWith, hp]
    rfl
  | some p =>
    obtain ⟨username, secret⟩ := p
    obtain ⟨first, rest, ho⟩ := exists_place h hp
    have ht : (serialStore s first).transform = s.transform := Store.after_transform _ _
    rw [contender_at_place h hp ho, Store.register_answer, users_at_place h hn hp ho, ht,
      Option.map_some, Store.register_answer]

theorem users_apart (h : Linearizes s (work pairs) schedule order)
    (hn : (pairs.map Prod.fst).Nodup) {credential : String} :
    (finish s pairs schedule).store.users[username]? = some credential ↔
      s.users[username]? = some credential ∨ s.users[username]? = none ∧
        ∃ secret, (username, secret) ∈ pairs ∧ s.transform secret = some credential := by
  rw [users_finish h, Option.or_eq_some_iff, Option.bind_eq_some_iff]
  refine or_congr_right (and_congr_right fun _ => ⟨?_, ?_⟩)
  · rintro ⟨secret, ho, hc⟩
    exact ⟨secret, mem_of_owner? h ho, hc⟩
  · rintro ⟨secret, hp, hc⟩
    obtain ⟨winning, ho⟩ := exists_owner h hp (Option.isSome_of_eq_some hc)
    obtain rfl := secret_unique hn (mem_of_owner? h ho) hp
    exact ⟨winning, ho, hc⟩

theorem poisoned_apart (h : Linearizes s (work pairs) schedule order)
    (hn : (pairs.map Prod.fst).Nodup) : (finish s pairs schedule).store.poisoned = true ↔
      s.poisoned = true ∨ ∃ u p, (u, p) ∈ pairs ∧ s.users[u]? = none ∧ s.transform p = none := by
  have hstore : (finish s pairs schedule).store = serialStore s order := h.store
  rw [hstore, serialStore, Store.poisoned_after]
  refine or_congr_right ⟨?_, ?_⟩
  · rintro ⟨first, u, p, rest, hops, hfree, hbreaks⟩
    obtain ⟨first, more, rfl, rfl, hmore⟩ := List.map_eq_append_iff.1 hops
    obtain ⟨⟨i, op⟩, rest, rfl, rfl, rfl⟩ := List.map_eq_cons_iff.1 hmore
    obtain ⟨v, q, hop, hp⟩ := mem_order h
      (show (i, Operation.register u p) ∈ first ++ (i, Operation.register u p) :: rest by simp)
    cases hop
    exact ⟨u, p, List.mem_of_getElem? hp, (users_at_place h hn hp rfl).symm.trans hfree, hbreaks⟩
  · rintro ⟨u, p, hp, hfree, hbreaks⟩
    obtain ⟨i, hi⟩ := List.mem_iff_getElem?.1 hp
    obtain ⟨first, rest, ho⟩ := exists_place h hi
    refine ⟨first.map Prod.snd, u, p, rest.map Prod.snd, by simp [ho], ?_, hbreaks⟩
    exact (users_at_place h hn hi ho).trans hfree

end Settled

/-- The owner of a name depends on the order only if the name has several contenders. -/
theorem owner?_eq_of_count {s : Store} {pairs : List (String × String)} {one two : List Nat}
    {order order' : List (Nat × Operation)} {username : String}
    (h : Linearizes s (work pairs) one order) (h' : Linearizes s (work pairs) two order')
    (hcount : (pairs.filter (·.1 == username)).length ≤ 1) :
    Store.owner? s.transform (order.map Prod.snd) username =
      Store.owner? s.transform (order'.map Prod.snd) username := by
  have hsome : (Store.owner? s.transform (order.map Prod.snd) username).isSome ↔
      (Store.owner? s.transform (order'.map Prod.snd) username).isSome :=
    (owner?_isSome_iff h).trans (owner?_isSome_iff h').symm
  cases ho : Store.owner? s.transform (order.map Prod.snd) username with
  | none =>
    rw [ho] at hsome
    exact (Option.not_isSome_iff_eq_none.1 fun hs => nomatch hsome.2 hs).symm
  | some p =>
    rw [ho] at hsome
    obtain ⟨q, ho'⟩ := Option.isSome_iff_exists.1 (hsome.1 rfl)
    have hmem : ∀ r, (username, r) ∈ pairs → (username, r) ∈ pairs.filter (·.1 == username) :=
      fun r hr => List.mem_filter.2 ⟨hr, beq_self_eq_true _⟩
    obtain ⟨only, honly⟩ := List.length_eq_one_iff.1 (Nat.le_antisymm hcount
      (List.length_pos_of_mem (hmem p (mem_of_owner? h ho))))
    have hp := hmem p (mem_of_owner? h ho)
    have hq := hmem q (mem_of_owner? h' ho')
    rw [honly, List.mem_singleton] at hp hq
    obtain rfl : p = q := congrArg Prod.snd (hp.trans hq.symm)
    exact ho'.symm

/-- What two runs of a race share in which no two calls are for one name. -/
structure Coincide (s : Store) (pairs : List (String × String)) (one two : List Nat) : Prop where
  calls : contenders pairs (finish s pairs one) = contenders pairs (finish s pairs two)
  users : (finish s pairs one).store.users = (finish s pairs two).store.users
  poisoned : (finish s pairs one).store.poisoned = (finish s pairs two).store.poisoned
  extended : ∀ username credential,
    (finish s pairs one).store.users[username]? = some credential ↔
      s.users[username]? = some credential ∨ s.users[username]? = none ∧
        ∃ secret, (username, secret) ∈ pairs ∧ s.transform secret = some credential

/-- What two runs of any race share. -/
structure Agree (s : Store) (pairs : List (String × String)) (one two : List Nat) : Prop where
  usernames : ((finish s pairs one).store.perform .usernames).answer =
    ((finish s pairs two).store.perform .usernames).answer
  size : ((finish s pairs one).store.perform .size).answer =
    ((finish s pairs two).store.perform .size).answer
  wins : ∀ username,
    (callsFor username (contenders pairs (finish s pairs one))).countP Contender.won =
      (callsFor username (contenders pairs (finish s pairs two))).countP Contender.won
  duplicates : AllDerive s pairs → ∀ username,
    (callsFor username (contenders pairs (finish s pairs one))).countP Contender.lost =
      (callsFor username (contenders pairs (finish s pairs two))).countP Contender.lost
  /-- Only new names with several contenders can have different credentials. -/
  users : ∀ username, (finish s pairs one).store.users[username]? ≠
      (finish s pairs two).store.users[username]? →
    s.users[username]? = none ∧ 1 < (pairs.filter (·.1 == username)).length

section Schedules
variable {s : Store} {pairs : List (String × String)} {one two : List Nat}
  {order order' : List (Nat × Operation)}

theorem coincide (h : Linearizes s (work pairs) one order)
    (h' : Linearizes s (work pairs) two order') (hn : (pairs.map Prod.fst).Nodup) :
    Coincide s pairs one two where
  calls := (contenders_apart h hn).trans (contenders_apart h' hn).symm
  users := by
    refine Std.ExtTreeMap.ext_getElem? fun username => Option.ext fun credential => ?_
    exact (users_apart h hn).trans (users_apart h' hn).symm
  poisoned := Bool.eq_iff_iff.2 ((poisoned_apart h hn).trans (poisoned_apart h' hn).symm)
  extended _ _ := users_apart h hn

theorem Settles.wins_eq {username : String} {calls calls' : List Contender}
    (h : Settles s pairs one username calls) (h' : Settles s pairs two username calls') :
    calls.countP Contender.won = calls'.countP Contender.won := by
  by_cases hfree : s.users.contains username = false ∧ Derivable s pairs username
  · rw [h.wins.1 hfree, h'.wins.1 hfree]
  · rw [h.wins.2 hfree, h'.wins.2 hfree]

theorem agree (h : Linearizes s (work pairs) one order)
    (h' : Linearizes s (work pairs) two order') : Agree s pairs one two := by
  have hkeys : (finish s pairs one).store.users.keys = (finish s pairs two).store.users.keys :=
    Store.keys_eq_of_mem fun u => (mem_users_finish h).trans (mem_users_finish h').symm
  refine ⟨?_, ?_, fun username => (settles h).wins_eq (settles h'), fun hderive username => ?_,
    fun username hne => ?_⟩
  · exact congrArg (fun names => some (Answer.names names)) hkeys
  · have hsize : (finish s pairs one).store.users.size = (finish s pairs two).store.users.size := by
      rw [← Std.ExtTreeMap.length_keys, hkeys, Std.ExtTreeMap.length_keys]
    exact congrArg (fun n => some (Answer.count n)) hsize
  · -- the numbers of calls and of successes are given, and no call breaks off
    have hone : Settles s pairs one username _ := settles h
    have htwo : Settles s pairs two username _ := settles h'
    have hsum := hone.sum
    have hsum' := htwo.sum
    rw [countP_broke h hderive, hone.length] at hsum
    rw [countP_broke h' hderive, htwo.length] at hsum'
    have hwins := hone.wins_eq htwo
    omega
  · rw [users_finish h, users_finish h'] at hne
    constructor
    · cases hs : s.users[username]? with
      | none => rfl
      | some credential => exact absurd (by rw [hs, Option.some_or, Option.some_or]) hne
    · by_contra hcount
      exact hne (by rw [owner?_eq_of_count h h' (Nat.le_of_not_lt hcount)])

end Schedules

/-- Two complete runs of a race differ at most in who won a new name with several contenders; if
no name has several, they do not differ at all. -/
theorem schedules_decide_winners_only (s : Store) (pairs : List (String × String)) (one two : List Nat)
    (hone : (finish s pairs one).done = true) (htwo : (finish s pairs two).done = true) :
    ((pairs.map Prod.fst).Nodup → Coincide s pairs one two) ∧ Agree s pairs one two := by
  obtain ⟨order, h⟩ := exists_recounts s (work pairs) one
  obtain ⟨order', h'⟩ := exists_recounts s (work pairs) two
  exact ⟨coincide (h.linearizes hone) (h'.linearizes htwo),
    agree (h.linearizes hone) (h'.linearizes htwo)⟩

theorem schedules_decide_winners_only_reversed :
    let s := (Store.ofTransform (.refusing "panic" "~")).after [.register "bob" "pw"]
    let apart := [("ann", "pw"), ("bob", "x"), ("eve", "panic")]
    let contended := [("ann", "pw"), ("bob", "x"), ("ann", "other")]
    let one := (List.replicate 21 [0, 1, 2]).flatten
    let two := (List.replicate 21 [2, 1, 0]).flatten
    ((finish s apart one).done = true ∧ (finish s apart two).done = true ∧
      (apart.map Prod.fst).Nodup ∧ Coincide s apart one two) ∧
    (finish s contended one).done = true ∧ (finish s contended two).done = true ∧
      (finish s contended one).store.users["ann"]? ≠
        (finish s contended two).store.users["ann"]? ∧ Agree s contended one two := by
  refine ⟨⟨by decide +kernel, by decide +kernel, by decide, ?_⟩, by decide +kernel,
    by decide +kernel, by decide +kernel, ?_⟩
  · exact (schedules_decide_winners_only _ _ _ _ (by decide +kernel) (by decide +kernel)).1 (by decide)
  · exact (schedules_decide_winners_only _ _ _ _ (by decide +kernel) (by decide +kernel)).2

end AccountRegistry.Race
