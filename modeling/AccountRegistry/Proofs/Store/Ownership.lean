import Mathlib.Data.List.Induction
import AccountRegistry.Store.Operation

set_option autoImplicit false

/-!
# Ownership of names

A name belongs to the first registration of it whose secret the transform takes.
The owners alone say what every operation answers: a name that has one stays with
it, a registration that broke off leaves no trace in the answers, and nothing but
a registration changes a store at all.
-/
namespace AccountRegistry.Store

theorem after_append (s : Store) (xs ys : List Operation) :
    s.after (xs ++ ys) = (s.after xs).after ys :=
  List.foldl_append

theorem after_concat (s : Store) (xs : List Operation) (op : Operation) :
    s.after (xs ++ [op]) = ((s.after xs).perform op).store :=
  after_append s xs [op]

theorem performAll_append (s : Store) (xs ys : List Operation) :
    s.performAll (xs ++ ys) = s.performAll xs ++ (s.after xs).performAll ys := by
  induction xs generalizing s with
  | nil => rfl
  | cons op xs ih => exact congrArg (s.perform op :: ·) (ih _)

theorem length_performAll (s : Store) (ops : List Operation) :
    (s.performAll ops).length = ops.length := by
  induction ops generalizing s with
  | nil => rfl
  | cons op ops ih => exact congrArg (· + 1) (ih _)

theorem performAll_get (s : Store) (ops : List Operation) (k : Nat) (op : Operation)
    (h : ops[k]? = some op) :
    (s.performAll ops)[k]? = some ((s.after (ops.take k)).perform op) := by
  obtain ⟨hk, rfl⟩ := List.getElem?_eq_some_iff.1 h
  have hlen : (s.performAll (ops.take k)).length = k := by
    rw [length_performAll, List.length_take, Nat.min_eq_left (Nat.le_of_lt hk)]
  conv_lhs => rw [← List.take_append_drop k ops, performAll_append]
  rw [List.getElem?_append_right (by omega), hlen, Nat.sub_self, List.drop_eq_getElem_cons hk]
  rfl

theorem perform_transform (s : Store) (op : Operation) :
    (s.perform op).store.transform = s.transform := by
  cases op with
  | register u p =>
    simp only [perform, register, Outcome.map]
    split
    · rfl
    · split <;> rfl
  | authenticate u p =>
    simp only [perform, authenticate, Outcome.map]
    split
    · rfl
    · split <;> rfl
  | _ => rfl

theorem perform_store_of_read (s : Store) (op : Operation) (h : op.access = .read) :
    (s.perform op).store = s := by
  cases op with
  | register u p => cases h
  | authenticate u p =>
    simp only [perform, authenticate, Outcome.map]
    split
    · rfl
    · split <;> rfl
  | _ => rfl

theorem after_transform (s : Store) (ops : List Operation) :
    (s.after ops).transform = s.transform := by
  induction ops using List.reverseRecOn with
  | nil => rfl
  | append_singleton ops op ih => rw [after_concat, perform_transform, ih]

def accepted? (t : Transform) (username : String) : Operation → Option String
  | .register u secret => if u = username ∧ (t secret).isSome then some secret else none
  | _ => none

/-- The secret of the first registration of a name whose secret the transform takes. -/
def owner? (t : Transform) (history : List Operation) (username : String) : Option String :=
  history.findSome? (accepted? t username)

theorem accepted?_eq_some {t : Transform} {username secret : String} {op : Operation} :
    accepted? t username op = some secret ↔
      op = .register username secret ∧ (t secret).isSome := by
  cases op with
  | register u p =>
    simp only [accepted?, Option.ite_none_right_eq_some, Option.some.injEq,
      Operation.register.injEq]
    constructor
    · rintro ⟨⟨rfl, hp⟩, rfl⟩
      exact ⟨⟨rfl, rfl⟩, hp⟩
    · rintro ⟨⟨rfl, rfl⟩, hp⟩
      exact ⟨⟨rfl, hp⟩, rfl⟩
  | _ => simp [accepted?]

theorem owner?_append (t : Transform) (xs ys : List Operation) (username : String) :
    owner? t (xs ++ ys) username = (owner? t xs username).or (owner? t ys username) :=
  List.findSome?_append

theorem owner?_isSome {t : Transform} {history : List Operation} {username secret : String}
    (h : owner? t history username = some secret) : (t secret).isSome := by
  obtain ⟨op, -, hop⟩ := List.exists_of_findSome?_eq_some h
  exact (accepted?_eq_some.1 hop).2

theorem users_insert (users : Users) (u v credential : String) :
    (users.insert u credential)[v]? = if u = v then some credential else users[v]? := by
  rw [Std.ExtTreeMap.getElem?_insert]
  simp only [Std.LawfulEqCmp.compare_eq_iff_eq]

theorem users_perform (s : Store) (op : Operation) (username : String) :
    (s.perform op).store.users[username]? =
      s.users[username]?.or ((accepted? s.transform username op).bind s.transform) := by
  cases op with
  | register u p =>
    simp only [perform, register, Outcome.map, Std.ExtTreeMap.contains_eq_isSome_getElem?]
    by_cases hu : u = username
    · subst hu
      cases hs : s.users[u]? with
      | some c => simp [hs]
      | none =>
        cases ht : s.transform p with
        | none => simp [accepted?, ht, hs]
        | some credential => simp [accepted?, ht]
    · have hn : accepted? s.transform username (.register u p) = none := if_neg fun h => hu h.1
      rw [hn, Option.bind_none, Option.or_none]
      split
      · rfl
      · split
        · rfl
        · exact (users_insert s.users u username _).trans (if_neg hu)
  | _ =>
    rw [perform_store_of_read]
    · simp [accepted?]
    · rfl

/-- A store holds what it held before, and the credentials of the owners of new names. -/
theorem users_after (s : Store) (ops : List Operation) (username : String) :
    (s.after ops).users[username]? =
      s.users[username]?.or ((owner? s.transform ops username).bind s.transform) := by
  induction ops using List.reverseRecOn with
  | nil => simp [after, owner?]
  | append_singleton ops op ih =>
    rw [after_concat, users_perform, ih, after_transform, owner?_append, Option.or_assoc]
    congr 1
    cases h : owner? s.transform ops username with
    | none => simp [owner?]
    | some secret =>
      obtain ⟨credential, hc⟩ := Option.isSome_iff_exists.1 (owner?_isSome h)
      simp [hc]

theorem users_ofTransform (t : Transform) (history : List Operation) (username : String) :
    ((ofTransform t).after history).users[username]? =
      (owner? t history username).bind t := by
  rw [users_after]
  simp [ofTransform]

theorem users_isSome_ofTransform (t : Transform) (history : List Operation) (username : String) :
    (((ofTransform t).after history).users[username]?).isSome =
      (owner? t history username).isSome := by
  rw [users_ofTransform]
  cases h : owner? t history username with
  | none => rfl
  | some secret => exact owner?_isSome h

theorem users_after_of_some {s : Store} {username credential : String} (ops : List Operation)
    (h : s.users[username]? = some credential) :
    (s.after ops).users[username]? = some credential := by
  rw [users_after, h, Option.some_or]

theorem take_eq_append (ops : List Operation) {j k : Nat} (hjk : j ≤ k) :
    ops.take k = ops.take j ++ (ops.take k).drop j := by
  conv_lhs => rw [← List.take_append_drop j (ops.take k), List.take_take, Nat.min_eq_left hjk]

theorem owner?_take {t : Transform} {ops : List Operation} {username secret : String} {j k : Nat}
    (hjk : j ≤ k) (h : owner? t (ops.take j) username = some secret) :
    owner? t (ops.take k) username = some secret := by
  rw [take_eq_append ops hjk, owner?_append, h, Option.some_or]

theorem register_answer (s : Store) (u p : String) :
    (s.perform (.register u p)).answer = match s.users[u]? with
      | some _ => some (.refused (.duplicateUser u))
      | none => (s.transform p).map fun _ => .registered ⟨true, u⟩ := by
  simp only [perform, register, Outcome.map, Std.ExtTreeMap.contains_eq_isSome_getElem?]
  cases s.users[u]? with
  | some credential => rfl
  | none => cases s.transform p <;> rfl

def Owned (t : Transform) (history : List Operation) (names : List String) : Prop :=
  names.Pairwise (· < ·) ∧ ∀ username, username ∈ names ↔ (owner? t history username).isSome

/-- The answer that the owners of a history fix for an operation; none if it breaks off. -/
def FixedBy (t : Transform) (history : List Operation) : Operation → Option Answer → Prop
  | .register u p, answer => answer = match owner? t history u with
    | some _ => some (.refused (.duplicateUser u))
    | none => (t p).map fun _ => .registered ⟨true, u⟩
  | .authenticate u p, answer => answer = match owner? t history u with
    | none => some (.verdict false)
    | some secret => (t p).map fun credential => .verdict (decide (t secret = some credential))
  | .isRegistered u, answer => answer = some (.verdict (owner? t history u).isSome)
  | .snapshot, answer => ∃ users : Users, answer = some (.copy users) ∧
      ∀ u, users[u]? = (owner? t history u).bind t
  | .usernames, answer => ∃ names, Owned t history names ∧ answer = some (.names names)
  | .size, answer => ∃ names, Owned t history names ∧ answer = some (.count names.length)
  | .isEmpty, answer => ∃ names, Owned t history names ∧ answer = some (.verdict names.isEmpty)
  | .description, answer => ∃ names, Owned t history names ∧
      answer = some (.text (descriptionOf names.length))

theorem ascending_keys (users : Users) : users.keys.Pairwise (· < ·) := by
  refine Std.ExtTreeMap.ordered_keys.imp fun {a b} h => ?_
  exact compareOfLessAndEq_eq_lt.1 h

theorem owned_keys (t : Transform) (history : List Operation) :
    Owned t history ((ofTransform t).after history).users.keys := by
  constructor
  · exact ascending_keys _
  · intro username
    rw [Std.ExtTreeMap.mem_keys, Std.ExtTreeMap.mem_iff_isSome_getElem?, users_isSome_ofTransform]

theorem answer_fixedBy (t : Transform) (history : List Operation) (op : Operation) :
    FixedBy t history op (((ofTransform t).after history).perform op).answer := by
  have ht : ((ofTransform t).after history).transform = t := after_transform _ _
  have hu := users_ofTransform t history
  have hk := owned_keys t history
  generalize (ofTransform t).after history = s at ht hu hk
  cases op with
  | register u p =>
    simp only [FixedBy, register_answer, hu, ht]
    cases ho : owner? t history u with
    | none => rfl
    | some secret =>
      obtain ⟨credential, hc⟩ := Option.isSome_iff_exists.1 (owner?_isSome ho)
      simp [hc]
  | authenticate u p =>
    simp only [FixedBy, perform, authenticate, Outcome.map, hu, ht]
    cases ho : owner? t history u with
    | none => rfl
    | some secret =>
      obtain ⟨credential, hc⟩ := Option.isSome_iff_exists.1 (owner?_isSome ho)
      cases hp : t p with
      | none => simp [hc]
      | some own => simp [hc]; rfl
  | isRegistered u =>
    have h : s.users.contains u = (owner? t history u).isSome := by
      rw [Std.ExtTreeMap.contains_eq_isSome_getElem?, hu, ← users_ofTransform,
        users_isSome_ofTransform]
    exact congrArg (fun b => some (Answer.verdict b)) h
  | snapshot => exact ⟨s.users, rfl, hu⟩
  | usernames => exact ⟨_, hk, rfl⟩
  | size =>
    refine ⟨_, hk, ?_⟩
    rw [Std.ExtTreeMap.length_keys]
    rfl
  | isEmpty =>
    refine ⟨_, hk, ?_⟩
    rw [Std.ExtTreeMap.isEmpty_keys]
    rfl
  | description =>
    refine ⟨_, hk, ?_⟩
    rw [Std.ExtTreeMap.length_keys]
    rfl

def RegisteredAt (s : Store) (ops : List Operation) (k : Nat) (username : String) : Prop :=
  ∃ secret o, ops[k]? = some (.register username secret) ∧ (s.performAll ops)[k]? = some o ∧
    o.answer = some (.registered ⟨true, username⟩)

theorem owner?_of_registeredAt {t : Transform} {ops : List Operation} {k : Nat} {username : String}
    (h : RegisteredAt (ofTransform t) ops k username) :
    owner? t (ops.take k) username = none ∧ (owner? t (ops.take (k + 1)) username).isSome := by
  obtain ⟨secret, o, hop, ho, ha⟩ := h
  rw [performAll_get _ _ _ _ hop, Option.some.injEq] at ho
  have hf := answer_fixedBy t (ops.take k) (.register username secret)
  rw [ho, ha] at hf
  have hnone : owner? t (ops.take k) username = none := by
    cases hw : owner? t (ops.take k) username with
    | none => rfl
    | some q => simp [FixedBy, hw] at hf
  have hsome : (t secret).isSome := by
    cases hs : t secret with
    | none => simp [FixedBy, hnone, hs] at hf
    | some credential => rfl
  refine ⟨hnone, ?_⟩
  rw [List.take_add_one, hop, owner?_append, hnone]
  simp [owner?, accepted?, hsome]

theorem registeredAt_unique {t : Transform} {ops : List Operation} {j k : Nat} {username : String}
    (hj : RegisteredAt (ofTransform t) ops j username)
    (hk : RegisteredAt (ofTransform t) ops k username) : ¬ j < k := by
  intro hlt
  obtain ⟨secret, hs⟩ := Option.isSome_iff_exists.1 (owner?_of_registeredAt hj).2
  have hnone := (owner?_of_registeredAt hk).1
  rw [owner?_take hlt hs] at hnone
  cases hnone

/-- The registrations before an operation fix its answer. A name is registered at most once, and
what a store holds for it stays from then on. -/
theorem answers_fixed_by_registrations (t : Transform) (ops : List Operation) :
    (∀ k op, ops[k]? = some op → ∃ o, ((ofTransform t).performAll ops)[k]? = some o ∧
      FixedBy t (ops.take k) op o.answer) ∧
    (∀ username j k, RegisteredAt (ofTransform t) ops j username →
      RegisteredAt (ofTransform t) ops k username → j = k) ∧
    (∀ (username credential : String) (j k : Nat), j ≤ k →
      ((ofTransform t).after (ops.take j)).users[username]? = some credential →
      ((ofTransform t).after (ops.take k)).users[username]? = some credential) := by
  refine ⟨?_, ?_, ?_⟩
  · intro k op hop
    exact ⟨_, performAll_get _ _ _ _ hop, answer_fixedBy t _ op⟩
  · intro username j k hj hk
    have h₁ := registeredAt_unique hj hk
    have h₂ := registeredAt_unique hk hj
    omega
  · intro username credential j k hjk h
    rw [take_eq_append ops hjk, after_append]
    exact users_after_of_some _ h

/-- The first secret breaks off and leaves the name free; the third comes too late. -/
example : owner? (.refusing "panic" "~") [.register "ann" "panic!", .register "ann" "pw",
    .register "ann" "late"] "ann" = some "pw" := by decide

end AccountRegistry.Store
