import AccountRegistry.Proofs.Concurrent.Linearization
import AccountRegistry.Store.Race

set_option autoImplicit false

/-!
# One winner for each name

Whatever the schedule of a race, a name that was free goes to exactly one of its
contenders, if the transform takes the secret of any. Contenders whose secrets it
does not take neither win nor stand in the way of those after them.
-/
namespace AccountRegistry.Race
open AccountRegistry.Concurrent

theorem position_cases {α : Type} {xs ys xs' ys' : List α} {x y : α}
    (h : xs ++ x :: ys = xs' ++ y :: ys') (hxy : x ≠ y) :
    (∃ mid, xs' = xs ++ x :: mid) ∨ ∃ mid, xs = xs' ++ y :: mid := by
  obtain ⟨mid, h₁, h₂⟩ | ⟨mid, h₁, h₂⟩ := List.append_eq_append_iff.1 h
  · cases mid with
    | nil => exact absurd (List.cons.inj h₂).1 hxy
    | cons z mid =>
      obtain ⟨rfl, -⟩ := List.cons.inj h₂
      exact .inl ⟨mid, h₁⟩
  · cases mid with
    | nil => exact absurd (List.cons.inj h₂).1.symm hxy
    | cons z mid =>
      obtain ⟨rfl, -⟩ := List.cons.inj h₂
      exact .inr ⟨mid, h₁⟩

theorem finish_threads_length (s : Store) (pairs : List (String × String)) (schedule : List Nat) :
    (finish s pairs schedule).threads.length = pairs.length := by
  rw [finish, threads_length, work, List.length_map]

section Calls
variable {s : Store} {pairs : List (String × String)} {schedule : List Nat}
  {order : List (Nat × Operation)} {i : Nat} {username secret : String}

theorem work_getD (pairs : List (String × String)) (i : Nat) :
    (work pairs).getD i [] = (pairs[i]?).elim [] fun p => [.register p.1 p.2] := by
  rw [work, List.getD_eq_getElem?_getD, List.getElem?_map]
  cases pairs[i]? <;> rfl

theorem mem_order (h : Linearizes s (work pairs) schedule order) {op : Operation}
    (hop : (i, op) ∈ order) :
    ∃ username secret, op = .register username secret ∧ pairs[i]? = some (username, secret) := by
  have hown : op ∈ (work pairs).getD i [] := h.operations i ▸ mem_own.2 hop
  rw [work_getD] at hown
  cases hp : pairs[i]? with
  | none =>
    rw [hp] at hown
    cases hown
  | some p =>
    rw [hp] at hown
    exact ⟨p.1, p.2, List.mem_singleton.1 hown, rfl⟩

theorem own_order (h : Linearizes s (work pairs) schedule order)
    (hp : pairs[i]? = some (username, secret)) : own i order = [.register username secret] := by
  rw [h.operations i, work_getD, hp]
  rfl

theorem exists_place (h : Linearizes s (work pairs) schedule order)
    (hp : pairs[i]? = some (username, secret)) :
    ∃ first rest, order = first ++ (i, .register username secret) :: rest := by
  have hmem : (i, Operation.register username secret) ∈ order := by
    rw [← mem_own, own_order h hp]
    exact List.mem_singleton_self _
  exact List.append_of_mem hmem

theorem own_around_place (h : Linearizes s (work pairs) schedule order)
    (hp : pairs[i]? = some (username, secret)) {first rest : List (Nat × Operation)}
    (ho : order = first ++ (i, .register username secret) :: rest) :
    own i first = [] ∧ own i rest = [] := by
  have hown := congrArg List.length (own_order h hp)
  rw [ho, own_append, own_cons_self, List.length_append, List.length_cons,
    List.length_singleton] at hown
  exact ⟨List.eq_nil_of_length_eq_zero (by omega), List.eq_nil_of_length_eq_zero (by omega)⟩

theorem contender_at_place (h : Linearizes s (work pairs) schedule order)
    (hp : pairs[i]? = some (username, secret)) {first rest : List (Nat × Operation)}
    (ho : order = first ++ (i, .register username secret) :: rest) :
    (contenders pairs (finish s pairs schedule))[i]? = some ⟨username, secret,
      ((serialStore s first).perform (.register username secret)).answer⟩ := by
  obtain ⟨hfirst, hrest⟩ := own_around_place h hp ho
  obtain ⟨later, hserial, hlater⟩ :=
    serial_append_cons s first rest i (.register username secret)
  have hnil : own i (serial s first) = [] ∧ own i later = [] := by
    refine ⟨List.eq_nil_of_length_eq_zero ?_, List.eq_nil_of_length_eq_zero ?_⟩
    · rw [own_serial_length, hfirst]
      rfl
    · rw [hlater, hrest]
      rfl
  have hown : own i (serial s order) =
      [(serialStore s first).perform (.register username secret)] := by
    rw [ho, hserial, own_append, own_cons_self, hnil.1, hnil.2]
    rfl
  have hi : i < (finish s pairs schedule).threads.length := by
    rw [finish_threads_length]
    exact (List.getElem?_eq_some_iff.1 hp).1
  have hanswers := h.answers i
  rw [hown] at hanswers
  simp only [contenders, List.getElem?_zipWith, hp, List.getElem?_eq_getElem hi]
  simp only [finish, List.getElem?_eq_getElem (show i < (Concurrent.run (.start s (work pairs))
    schedule).threads.length from hi), Option.elim_some] at hanswers ⊢
  rw [hanswers]
  rfl

theorem call_of_taken (h : Linearizes s (work pairs) schedule order)
    (hp : pairs[i]? = some (username, secret)) {credential : String}
    (hs : s.users[username]? = some credential) :
    (contenders pairs (finish s pairs schedule))[i]? =
      some ⟨username, secret, some (.refused (.duplicateUser username))⟩ := by
  obtain ⟨first, rest, ho⟩ := exists_place h hp
  have hu : (serialStore s first).users[username]? = some credential :=
    Store.users_after_of_some _ hs
  rw [contender_at_place h hp ho, Store.register_answer, hu]

theorem call_of_owner (h : Linearizes s (work pairs) schedule order)
    (hp : pairs[i]? = some (username, secret)) {first rest : List (Nat × Operation)}
    (ho : order = first ++ (i, .register username secret) :: rest)
    (hs : s.users[username]? = none) {winning : String}
    (hw : Store.owner? s.transform (first.map Prod.snd) username = some winning) :
    (contenders pairs (finish s pairs schedule))[i]? =
      some ⟨username, secret, some (.refused (.duplicateUser username))⟩ := by
  obtain ⟨credential, hc⟩ := Option.isSome_iff_exists.1 (Store.owner?_isSome hw)
  have hu : (serialStore s first).users[username]? = some credential := by
    rw [serialStore, Store.users_after, hs, hw, Option.none_or, Option.bind_some, hc]
  rw [contender_at_place h hp ho, Store.register_answer, hu]

theorem call_of_free (h : Linearizes s (work pairs) schedule order)
    (hp : pairs[i]? = some (username, secret)) {first rest : List (Nat × Operation)}
    (ho : order = first ++ (i, .register username secret) :: rest)
    (hs : s.users[username]? = none)
    (hw : Store.owner? s.transform (first.map Prod.snd) username = none) :
    (contenders pairs (finish s pairs schedule))[i]? = some ⟨username, secret,
      (s.transform secret).map fun _ => .registered ⟨true, username⟩⟩ := by
  have hu : (serialStore s first).users[username]? = none := by
    rw [serialStore, Store.users_after, hs, hw]
    rfl
  have ht : (serialStore s first).transform = s.transform := Store.after_transform _ _
  rw [contender_at_place h hp ho, Store.register_answer, hu, ht]

end Calls

def Contender.broke (c : Contender) : Bool := c.answer.isNone

/-- The call of thread `j` is answered before that of thread `i` begins. -/
def RanBefore (s : Store) (pairs : List (String × String)) (schedule : List Nat) (j i : Nat) :
    Prop :=
  ∃ early, early <+: schedule ∧ ∃ tj ti, (finish s pairs early).threads[j]? = some tj ∧
    (finish s pairs early).threads[i]? = some ti ∧ tj.activity = .idle ∧ tj.answers.length = 1 ∧
    ti.activity = .idle ∧ ti.answers = []

/-- Thread `i` wins a name with a secret. Every other call for the name is refused, unless it broke
off before the winner's. -/
structure Wins (s : Store) (pairs : List (String × String)) (schedule : List Nat)
    (username : String) (i : Nat) (secret : String) : Prop where
  call : pairs[i]? = some (username, secret)
  derives : (s.transform secret).isSome
  registered : (contenders pairs (finish s pairs schedule))[i]? =
    some ⟨username, secret, some (.registered ⟨true, username⟩)⟩
  others : ∀ j own, j ≠ i → pairs[j]? = some (username, own) →
    (contenders pairs (finish s pairs schedule))[j]? =
      some ⟨username, own, some (.refused (.duplicateUser username))⟩ ∨
    s.transform own = none ∧ (contenders pairs (finish s pairs schedule))[j]? =
      some ⟨username, own, none⟩ ∧ RanBefore s pairs schedule j i
  stored : (finish s pairs schedule).store.users[username]? = s.transform secret
  authenticates : ((finish s pairs schedule).store.authenticate username secret).answer = some true

section Winners
variable {s : Store} {pairs : List (String × String)} {schedule : List Nat}
  {order : List (Nat × Operation)} {i j : Nat} {username secret : String}

/-- Among writers, standing before somebody in the order is running before him. -/
theorem ranBefore_of_order (h : Linearizes s (work pairs) schedule order)
    (hp : pairs[i]? = some (username, secret)) {first rest : List (Nat × Operation)}
    (ho : order = first ++ (i, .register username secret) :: rest) {op : Operation}
    (hj : (j, op) ∈ first) : RanBefore s pairs schedule j i := by
  obtain ⟨early, he, hquiet⟩ := h.alone first i _ rest ho rfl
  have hlen : ∀ (k : Nat) (op : Operation), (k, op) ∈ order →
      ∃ t, (finish s pairs early).threads[k]? = some t := by
    intro k op hk
    obtain ⟨u, p, -, hp⟩ := mem_order h hk
    have hk' : k < (finish s pairs early).threads.length := by
      rw [finish_threads_length]
      exact (List.getElem?_eq_some_iff.1 hp).1
    exact ⟨_, List.getElem?_eq_getElem hk'⟩
  obtain ⟨ti, hti⟩ := hlen i (.register username secret) (by simp [ho])
  obtain ⟨tj, htj⟩ := hlen j op (by simp [ho, hj])
  obtain ⟨hidle, hanswers⟩ := hquiet i ti hti
  obtain ⟨hidle', hanswers'⟩ := hquiet j tj htj
  refine ⟨early, he, tj, ti, htj, hti, hidle', ?_, hidle, ?_⟩
  · -- thread `j` has one call, and it stands in the first part
    have hmem : op ∈ own j first := mem_own.2 hj
    have htotal := congrArg List.length (h.operations j)
    obtain ⟨u, p, -, hp⟩ := mem_order h (show (j, op) ∈ order by simp [ho, hj])
    rw [ho, own_append, List.length_append, work_getD, hp, Option.elim_some,
      List.length_singleton] at htotal
    have := List.length_pos_of_mem hmem
    omega
  · rw [(own_around_place h hp ho).1] at hanswers
    exact List.eq_nil_of_length_eq_zero hanswers

/-- The call that makes a name somebody's stands behind none whose secret the transform takes. -/
theorem exists_owner_place {t : Transform}
    (ho : Store.owner? t (order.map Prod.snd) username = some secret) :
    ∃ first i rest, order = first ++ (i, .register username secret) :: rest ∧
      (t secret).isSome ∧ Store.owner? t (first.map Prod.snd) username = none := by
  rw [Store.owner?, List.findSome?_map, List.findSome?_eq_some_iff] at ho
  obtain ⟨first, ⟨i, op⟩, rest, hsplit, hop, hnone⟩ := ho
  obtain ⟨rfl, ht⟩ := Store.accepted?_eq_some.1 hop
  refine ⟨first, i, rest, hsplit, ht, ?_⟩
  rw [Store.owner?, List.findSome?_map, List.findSome?_eq_none_iff]
  exact hnone

theorem owner?_of_free {t : Transform} {first mid : List (Nat × Operation)} {op : Operation}
    (h : Store.owner? t ((first ++ (i, op) :: mid).map Prod.snd) username = none) :
    Store.owner? t (first.map Prod.snd) username = none ∧
      Store.accepted? t username op = none := by
  rw [Store.owner?, List.findSome?_eq_none_iff] at h
  constructor
  · rw [Store.owner?, List.findSome?_eq_none_iff]
    intro x hx
    exact h x (by simp at hx ⊢; exact .inl hx)
  · exact h op (by simp)

theorem owner?_of_place {t : Transform} {first mid : List (Nat × Operation)}
    (ht : (t secret).isSome) (h : Store.owner? t (first.map Prod.snd) username = none) :
    Store.owner? t ((first ++ (i, .register username secret) :: mid).map Prod.snd) username =
      some secret := by
  rw [List.map_append, Store.owner?_append, h, Option.none_or, List.map_cons, Store.owner?,
    List.findSome?_cons, Store.accepted?_eq_some.2 ⟨rfl, ht⟩]

theorem wins_of_owner (h : Linearizes s (work pairs) schedule order)
    (hs : s.users[username]? = none)
    (ho : Store.owner? s.transform (order.map Prod.snd) username = some secret) :
    ∃ i, Wins s pairs schedule username i secret := by
  obtain ⟨first, i, rest, hsplit, ht, hnone⟩ := exists_owner_place ho
  obtain ⟨credential, hc⟩ := Option.isSome_iff_exists.1 ht
  obtain ⟨u, p, hop, hp⟩ := mem_order h
    (show (i, Operation.register username secret) ∈ order by simp [hsplit])
  cases hop
  have hstore : (finish s pairs schedule).store = serialStore s order := h.store
  have hstored : (finish s pairs schedule).store.users[username]? = s.transform secret := by
    rw [hstore, serialStore, Store.users_after, hs, ho]
    rfl
  have htransform : (finish s pairs schedule).store.transform = s.transform := by
    rw [hstore, serialStore, Store.after_transform]
  refine ⟨i, hp, ht, ?_, ?_, hstored, ?_⟩
  · rw [call_of_free h hp hsplit hs hnone, hc]
    rfl
  · intro j own hji hpj
    obtain ⟨firstj, restj, hsplitj⟩ := exists_place h hpj
    have hne : (i, Operation.register username secret) ≠ (j, .register username own) :=
      fun he => hji (congrArg Prod.fst he).symm
    obtain ⟨mid, rfl⟩ | ⟨mid, rfl⟩ := position_cases (hsplit.symm.trans hsplitj) hne
    · exact .inl (call_of_owner h hpj hsplitj hs (owner?_of_place ht hnone))
    · obtain ⟨hfree, hrefused⟩ := owner?_of_free hnone
      have hown : s.transform own = none := by
        simpa [Store.accepted?] using hrefused
      refine .inr ⟨hown, ?_, ?_⟩
      · rw [call_of_free h hpj hsplitj hs hfree, hown]
        rfl
      · exact ranBefore_of_order h hp hsplit (List.mem_append_right _ List.mem_cons_self)
  · simp [Store.authenticate, hstored, htransform, hc]

end Winners

def callsFor (username : String) (cs : List Contender) : List Contender :=
  cs.filter (·.username == username)

theorem countP_eq_one {α : Type} {p : α → Bool} {l : List α} {i : Nat} {a : α}
    (hi : l[i]? = some a) (ha : p a = true)
    (others : ∀ j b, j ≠ i → l[j]? = some b → p b = false) : l.countP p = 1 := by
  induction l generalizing i with
  | nil => cases hi
  | cons x l ih =>
    cases i with
    | zero =>
      cases hi
      have hnone : l.countP p = 0 := by
        rw [List.countP_eq_zero]
        intro b hb hpb
        obtain ⟨j, hj⟩ := List.mem_iff_getElem?.1 hb
        rw [others (j + 1) b (Nat.succ_ne_zero j) hj] at hpb
        cases hpb
      rw [List.countP_cons_of_pos ha, hnone]
    | succ i =>
      have hx : ¬ p x = true := by
        rw [others 0 x (Nat.succ_ne_zero i).symm rfl]
        exact Bool.false_ne_true
      rw [List.countP_cons_of_neg hx]
      exact ih hi fun j b hj => others (j + 1) b (fun h => hj (Nat.succ.inj h))

section Counts
variable {s : Store} {pairs : List (String × String)} {schedule : List Nat}
  {order : List (Nat × Operation)} {username : String}

theorem pair_of_contender {c : State} {i : Nat} {x : Contender}
    (hx : (contenders pairs c)[i]? = some x) : pairs[i]? = some (x.username, x.secret) := by
  rw [contenders, List.getElem?_zipWith] at hx
  cases hp : pairs[i]? with
  | none => simp [hp] at hx
  | some p =>
    cases ht : c.threads[i]? with
    | none => simp [hp, ht] at hx
    | some t =>
      simp only [hp, ht, Option.some.injEq] at hx
      rw [← hx]

theorem length_callsFor {c : State} (hc : c.threads.length = pairs.length) :
    (callsFor username (contenders pairs c)).length =
      (pairs.filter (·.1 == username)).length := by
  rw [callsFor, ← List.countP_eq_length_filter, ← List.countP_eq_length_filter]
  obtain ⟨store, lock, threads, events⟩ := c
  simp only [contenders] at hc ⊢
  induction pairs generalizing threads with
  | nil => simp
  | cons p pairs ih =>
    cases threads with
    | nil => cases hc
    | cons t threads =>
      rw [List.zipWith_cons_cons, List.countP_cons, List.countP_cons,
        ih threads (Nat.succ.inj hc)]

theorem contender_verdict (h : Linearizes s (work pairs) schedule order) {x : Contender}
    (hx : x ∈ contenders pairs (finish s pairs schedule)) :
    x.answer = some (.registered ⟨true, x.username⟩) ∨
    x.answer = some (.refused (.duplicateUser x.username)) ∨ x.answer = none := by
  obtain ⟨i, hi⟩ := List.mem_iff_getElem?.1 hx
  have hp := pair_of_contender hi
  obtain ⟨first, rest, ho⟩ := exists_place h hp
  rw [contender_at_place h hp ho, Option.some.injEq] at hi
  have ha : x.answer = _ := (congrArg Contender.answer hi).symm
  rw [ha, Store.register_answer]
  cases (serialStore s first).users[x.username]? with
  | some credential => exact .inr (.inl rfl)
  | none =>
    cases (serialStore s first).transform x.secret with
    | none => exact .inr (.inr rfl)
    | some credential => exact .inl rfl

theorem count_verdicts {cs : List Contender}
    (h : ∀ x ∈ cs, x.answer = some (.registered ⟨true, x.username⟩) ∨
      x.answer = some (.refused (.duplicateUser x.username)) ∨ x.answer = none) :
    cs.countP Contender.won + cs.countP Contender.lost + cs.countP Contender.broke =
      cs.length := by
  induction cs with
  | nil => rfl
  | cons x cs ih =>
    have hrest := ih fun y hy => h y (List.mem_cons_of_mem _ hy)
    obtain ha | ha | ha := h x List.mem_cons_self <;>
      simp [Contender.won, Contender.lost, Contender.broke, ha] <;> omega

theorem Wins.count {i : Nat} {secret : String} (h : Wins s pairs schedule username i secret) :
    (callsFor username (contenders pairs (finish s pairs schedule))).countP Contender.won = 1 := by
  rw [callsFor, List.countP_filter]
  refine countP_eq_one h.registered (by simp [Contender.won]) fun j x hj hx => ?_
  by_cases hu : x.username = username
  · obtain hlost | ⟨-, hbroke, -⟩ := h.others j x.secret hj (hu ▸ pair_of_contender hx)
    · rw [hlost, Option.some.injEq] at hx
      have ha : x.answer = _ := (congrArg Contender.answer hx).symm
      simp [Contender.won, ha]
    · rw [hbroke, Option.some.injEq] at hx
      have ha : x.answer = _ := (congrArg Contender.answer hx).symm
      simp [Contender.won, ha]
  · simp [hu]

end Counts

/-- What a race comes to for a name. -/
structure Settles (s : Store) (pairs : List (String × String)) (schedule : List Nat)
    (username : String) (calls : List Contender) : Prop where
  length : calls.length = (pairs.filter (·.1 == username)).length
  sum : calls.countP Contender.won + calls.countP Contender.lost + calls.countP Contender.broke =
    calls.length
  taken : s.users.contains username = true →
    (∀ x ∈ calls, x.answer = some (.refused (.duplicateUser username))) ∧
    (finish s pairs schedule).store.users[username]? = s.users[username]?
  won : s.users.contains username = false →
    (∃ secret, (username, secret) ∈ pairs ∧ (s.transform secret).isSome) →
    calls.countP Contender.won = 1 ∧ ∃ i secret, Wins s pairs schedule username i secret
  free : s.users.contains username = false →
    (∀ secret, (username, secret) ∈ pairs → s.transform secret = none) →
    (∀ x ∈ calls, x.answer = none) ∧
    (finish s pairs schedule).store.users.contains username = false

section Races
variable {s : Store} {pairs : List (String × String)} {schedule : List Nat}
  {order : List (Nat × Operation)} {username : String}

theorem contains_eq_false (users : Users) (username : String) :
    users.contains username = false ↔ users[username]? = none := by
  rw [Std.ExtTreeMap.contains_eq_isSome_getElem?, Option.isSome_eq_false_iff,
    Option.isNone_iff_eq_none]

theorem exists_owner (h : Linearizes s (work pairs) schedule order) {secret : String}
    (hp : (username, secret) ∈ pairs) (ht : (s.transform secret).isSome) :
    ∃ winning, Store.owner? s.transform (order.map Prod.snd) username = some winning := by
  obtain ⟨i, hi⟩ := List.mem_iff_getElem?.1 hp
  obtain ⟨first, rest, ho⟩ := exists_place h hi
  rw [← Option.isSome_iff_exists, Store.owner?, List.findSome?_isSome_iff]
  refine ⟨.register username secret, ?_, ?_⟩
  · simp [ho]
  · rw [Store.accepted?_eq_some.2 ⟨rfl, ht⟩]
    rfl

theorem owner?_eq_none (h : Linearizes s (work pairs) schedule order)
    (hp : ∀ secret, (username, secret) ∈ pairs → s.transform secret = none) :
    Store.owner? s.transform (order.map Prod.snd) username = none := by
  cases ho : Store.owner? s.transform (order.map Prod.snd) username with
  | none => rfl
  | some secret =>
    obtain ⟨first, i, rest, hsplit, ht, -⟩ := exists_owner_place ho
    obtain ⟨u, p, hop, hi⟩ := mem_order h
      (show (i, Operation.register username secret) ∈ order by simp [hsplit])
    cases hop
    rw [hp secret (List.mem_of_getElem? hi)] at ht
    cases ht

theorem users_finish (h : Linearizes s (work pairs) schedule order) :
    (finish s pairs schedule).store.users[username]? = s.users[username]?.or
      ((Store.owner? s.transform (order.map Prod.snd) username).bind s.transform) := by
  have hstore : (finish s pairs schedule).store = serialStore s order := h.store
  rw [hstore, serialStore, Store.users_after]

theorem settles (h : Linearizes s (work pairs) schedule order) :
    Settles s pairs schedule username
      (callsFor username (contenders pairs (finish s pairs schedule))) := by
  -- a call for the name is a pair with the name
  have hcall : ∀ x ∈ callsFor username (contenders pairs (finish s pairs schedule)),
      ∃ i : Nat, (contenders pairs (finish s pairs schedule))[i]? = some x ∧
        pairs[i]? = some (username, x.secret) := by
    intro x hx
    obtain ⟨hmem, hu⟩ := List.mem_filter.1 hx
    obtain ⟨i, hi⟩ := List.mem_iff_getElem?.1 hmem
    exact ⟨i, hi, (pair_of_contender hi).trans (by rw [eq_of_beq hu])⟩
  refine ⟨length_callsFor (finish_threads_length s pairs schedule), ?_, ?_, ?_, ?_⟩
  · exact count_verdicts fun x hx => contender_verdict h (List.mem_filter.1 hx).1
  · intro htaken
    rw [Std.ExtTreeMap.contains_eq_isSome_getElem?, Option.isSome_iff_exists] at htaken
    obtain ⟨credential, hs⟩ := htaken
    refine ⟨fun x hx => ?_, by rw [users_finish h, hs, Option.some_or]⟩
    obtain ⟨i, hi, hp⟩ := hcall x hx
    rw [call_of_taken h hp hs, Option.some.injEq] at hi
    rw [← hi]
  · rintro hfree ⟨secret, hp, ht⟩
    obtain ⟨winning, ho⟩ := exists_owner h hp ht
    obtain ⟨i, hw⟩ := wins_of_owner h ((contains_eq_false _ _).1 hfree) ho
    exact ⟨hw.count, i, winning, hw⟩
  · intro hfree hnone
    have hs := (contains_eq_false _ _).1 hfree
    have ho := owner?_eq_none h hnone
    refine ⟨fun x hx => ?_, ?_⟩
    · obtain ⟨i, hi, hp⟩ := hcall x hx
      obtain ⟨first, rest, hsplit⟩ := exists_place h hp
      have hown := (owner?_of_free (hsplit ▸ ho)).1
      rw [call_of_free h hp hsplit hs hown, hnone x.secret (List.mem_of_getElem? hp),
        Option.some.injEq] at hi
      rw [← hi]
      rfl
    · rw [contains_eq_false, users_finish h, hs, ho]
      rfl

theorem users_of_absent (h : Linearizes s (work pairs) schedule order)
    (hu : username ∉ pairs.map Prod.fst) :
    (finish s pairs schedule).store.users[username]? = s.users[username]? := by
  have hnone : Store.owner? s.transform (order.map Prod.snd) username = none := by
    refine owner?_eq_none h fun secret hp => ?_
    exact absurd (List.mem_map_of_mem hp) hu
  rw [users_finish h, hnone, Option.bind_none, Option.or_none]

end Races

/-- However the calls of a race are interleaved, each of its names is settled, and a name that is
not among them keeps what it had. -/
theorem names_settled (s : Store) (pairs : List (String × String)) (schedule : List Nat)
    (hd : (finish s pairs schedule).done = true) :
    (∀ username ∈ pairs.map Prod.fst, Settles s pairs schedule username
      (callsFor username (contenders pairs (finish s pairs schedule)))) ∧
    ∀ username, username ∉ pairs.map Prod.fst →
      (finish s pairs schedule).store.users[username]? = s.users[username]? := by
  obtain ⟨order, hr⟩ := exists_recounts s (work pairs) schedule
  have h := hr.linearizes hd
  exact ⟨fun _ _ => settles h, fun _ hu => users_of_absent h hu⟩

theorem names_settled_contended :
    let s := (Store.ofTransform (.refusing "panic" "~")).after [.register "bob" "pw"]
    let pairs := [("ann", "panic!"), ("bob", "x"), ("ann", "pw"), ("eve", "panic"), ("ann", "late")]
    let schedule := (List.replicate 35 [3, 0, 4, 1, 2]).flatten
    (finish s pairs schedule).done = true ∧
    (∀ username ∈ pairs.map Prod.fst, Settles s pairs schedule username
      (callsFor username (contenders pairs (finish s pairs schedule)))) ∧
    ∀ username, username ∉ pairs.map Prod.fst →
      (finish s pairs schedule).store.users[username]? = s.users[username]? :=
  ⟨by decide +kernel, names_settled _ _ _ (by decide +kernel)⟩

end AccountRegistry.Race
