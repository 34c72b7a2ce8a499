import AccountRegistry.Proofs.Store.Ownership
import AccountRegistry.Proofs.Store.Transcript

set_option autoImplicit false

/-!
# Failing and recovering

An operation that fails leaves the users as they were. A store is poisoned by a
registration that breaks off, by nothing else, and for good. From then on it
works as if nothing had happened: all that a poisoned store shows more than
another with the same users is one warning before each access.
-/
namespace AccountRegistry.Store
open AccountRegistry.Log (Record)

section Failing
variable (s : Store) (op : Operation)

theorem users_of_unregistered (h : ∀ r, (s.perform op).answer ≠ some (.registered r)) :
    (s.perform op).store.users = s.users := by
  have hp := s.performs op
  generalize s.perform op = o at h hp ⊢
  cases hp with
  | accepts free derives => exact absurd rfl (h _)
  | _ => rfl

theorem poisoned_perform : (s.perform op).store.poisoned = true ↔ s.poisoned = true ∨
    ∃ u p, op = .register u p ∧ s.users[u]? = none ∧ s.transform p = none := by
  have hp := s.performs op
  generalize s.perform op = o at hp ⊢
  cases hp with
  | breaksWriting free breaks => exact ⟨fun _ => .inr ⟨_, _, rfl, free, breaks⟩, fun _ => rfl⟩
  | refuses taken =>
    refine (or_iff_left ?_).symm
    rintro ⟨u, p, hop, free, -⟩
    cases hop
    cases free.symm.trans taken
  | accepts free derives =>
    refine (or_iff_left ?_).symm
    rintro ⟨u, p, hop, -, breaks⟩
    cases hop
    cases breaks.symm.trans derives
  | looks sees =>
    refine (or_iff_left ?_).symm
    rintro ⟨u, p, rfl, -⟩
    cases sees
  | _ =>
    refine (or_iff_left ?_).symm
    rintro ⟨u, p, hop, -⟩
    cases hop

structure FailsAtomically : Prop where
  refused : ∀ u, (s.perform op).answer = some (.refused (.duplicateUser u)) →
    (s.perform op).store.users = s.users
  broken : (s.perform op).answer = none → (s.perform op).store.users = s.users
  poisoned : (s.perform op).store.poisoned = true ↔ s.poisoned = true ∨
    ∃ u p, op = .register u p ∧ s.users[u]? = none ∧ s.transform p = none

theorem failsAtomically : FailsAtomically s op where
  refused u h := s.users_of_unregistered op fun r hr => by rw [h] at hr; cases hr
  broken h := s.users_of_unregistered op fun r hr => by rw [h] at hr; cases hr
  poisoned := s.poisoned_perform op

end Failing

/-- A run poisons a store if one of its registrations meets a free name with a secret that breaks
off. -/
theorem poisoned_after (s : Store) (ops : List Operation) : (s.after ops).poisoned = true ↔
    s.poisoned = true ∨ ∃ first u p rest, ops = first ++ .register u p :: rest ∧
      (s.after first).users[u]? = none ∧ s.transform p = none := by
  induction ops using List.reverseRecOn with
  | nil => simp [after]
  | append_singleton ops op ih =>
    rw [after_concat, poisoned_perform, ih, after_transform, or_assoc]
    refine or_congr_right ⟨?_, ?_⟩
    · rintro (⟨first, u, p, rest, rfl, hfree, hbreaks⟩ | ⟨u, p, rfl, hfree, hbreaks⟩)
      · exact ⟨first, u, p, rest ++ [op], by simp, hfree, hbreaks⟩
      · exact ⟨ops, u, p, [], rfl, hfree, hbreaks⟩
    · rintro ⟨first, u, p, rest, hops, hfree, hbreaks⟩
      -- the registration is the last operation, or was there before it
      obtain rfl | ⟨rest, last, rfl⟩ := List.eq_nil_or_concat rest
      · obtain ⟨rfl, hlast⟩ := List.append_inj' hops rfl
        exact .inr ⟨u, p, (List.cons.inj hlast).1, hfree, hbreaks⟩
      · rw [List.concat_eq_append, ← List.cons_append, ← List.append_assoc] at hops
        exact .inl ⟨first, u, p, rest, (List.append_inj' hops rfl).1, hfree, hbreaks⟩

/-- Two stores that may differ in being poisoned and in nothing else. -/
structure SameContent (s s' : Store) : Prop where
  transform : s.transform = s'.transform
  users : s.users = s'.users

theorem SameContent.perform {s s' : Store} (h : SameContent s s') (op : Operation) :
    (s.perform op).answer = (s'.perform op).answer ∧
      SameContent (s.perform op).store (s'.perform op).store := by
  have hp := s.performs op
  generalize s.perform op = o at hp ⊢
  cases hp with
  | refuses taken =>
    rw [Store.perform, register_of_taken (h.users ▸ taken)]
    exact ⟨rfl, h⟩
  | breaksWriting free breaks =>
    rw [Store.perform, register_of_broken (h.users ▸ free) (h.transform ▸ breaks)]
    exact ⟨rfl, h.transform, h.users⟩
  | @accepts u p credential free derives =>
    have husers : s.users.insert u credential = s'.users.insert u credential := by rw [h.users]
    rw [Store.perform, register_of_free (h.users ▸ free) (h.transform ▸ derives)]
    exact ⟨rfl, h.transform, husers⟩
  | misses unknown =>
    rw [Store.perform, authenticate_of_unknown (h.users ▸ unknown)]
    exact ⟨rfl, h⟩
  | breaksReading known breaks =>
    rw [Store.perform, authenticate_of_broken (h.users ▸ known) (h.transform ▸ breaks)]
    exact ⟨rfl, h⟩
  | compares known derives =>
    rw [Store.perform, authenticate_of_known (h.users ▸ known) (h.transform ▸ derives)]
    exact ⟨rfl, h⟩
  | looks sees =>
    rw [perform_of_look (h.users ▸ sees)]
    exact ⟨rfl, h⟩

def warning (access : Access) : Record :=
  ⟨.warn, "user_registry::auth::store",
    "Credential store lock was poisoned, recovering for " ++ access.verb⟩

def unwarned (records : List Record) : List Record := records.filter (·.level ≠ .warn)

theorem unwarned_append (xs ys : List Record) : unwarned (xs ++ ys) = unwarned xs ++ unwarned ys :=
  List.filter_append ..

theorem unwarned_recovery (s : Store) (access : Access) :
    unwarned ((s.recovery access).map Event.record) = [] := by
  unfold recovery
  split <;> rfl

theorem unwarned_toldOf (op : Operation) (answer : Option Answer) :
    unwarned (toldOf op answer) = toldOf op answer := by
  refine List.filter_eq_self.2 fun r hr => ?_
  rw [level_toldOf hr]
  rfl

theorem unwarned_perform (s : Store) (op : Operation) :
    unwarned (s.perform op).records = toldOf op (s.perform op).answer := by
  rw [records_perform, unwarned_append, unwarned_recovery, List.nil_append, unwarned_toldOf]

structure Transparent (poisoned other : Operation × Outcome Answer) : Prop where
  operation : poisoned.1 = other.1
  answer : poisoned.2.answer = other.2.answer
  users : poisoned.2.store.users = other.2.store.users
  warned : ∃ rest, poisoned.2.records = warning poisoned.1.access :: rest ∧
    ∀ r ∈ rest, r.level ≠ .warn
  records : unwarned poisoned.2.records = unwarned other.2.records

theorem SameContent.transparent {s s' : Store} (h : SameContent s s') (hs : s.poisoned = true)
    (op : Operation) : Transparent (op, s.perform op) (op, s'.perform op) where
  operation := rfl
  answer := (h.perform op).1
  users := (h.perform op).2.users
  warned := by
    refine ⟨toldOf op (s.perform op).answer, ?_, fun r hr => ?_⟩
    · rw [records_perform, recovery, if_pos hs]
      rfl
    · rw [level_toldOf hr]
      decide
  records := by rw [unwarned_perform, unwarned_perform, (h.perform op).1]

theorem transparent_run {s s' : Store} (h : SameContent s s') (hs : s.poisoned = true)
    (ops : List Operation) : List.Forall₂ Transparent (s.transcript ops) (s'.transcript ops) := by
  -- the other store may be poisoned on the way, so nothing is asked of it
  refine transcripts_correspond (R := fun s s' => SameContent s s' ∧ s.poisoned = true) (A := Eq)
    ?_ ⟨h, hs⟩ (List.forall₂_refl ops)
  rintro s s' op _ ⟨h, hs⟩ rfl
  exact ⟨h.transparent hs op, (h.perform op).2, (s.poisoned_perform op).2 (.inl hs)⟩

theorem unwarned_logOf {xs ys : List (Operation × Outcome Answer)}
    (h : List.Forall₂ Transparent xs ys) : unwarned (logOf xs) = unwarned (logOf ys) := by
  rw [logOf, logOf, unwarned, unwarned, List.filter_flatMap, List.filter_flatMap]
  exact flatMap_eq_of_forall₂ (h.imp fun _ _ hx => hx.records)

/-- An operation that fails leaves the users alone. Of two runs from the same users, one of them
from a poisoned store, all steps give the same but for the warnings of the poisoned one. -/
theorem poison_shows_in_warnings_only :
    (∀ (s : Store) (op : Operation), FailsAtomically s op) ∧
    ∀ (t : Transform) (users : Users) (ops : List Operation),
      List.Forall₂ Transparent ((Store.mk t users true).transcript ops)
        ((Store.mk t users false).transcript ops) ∧
      unwarned (logOf ((Store.mk t users true).transcript ops)) =
        unwarned (logOf ((Store.mk t users false).transcript ops)) := by
  refine ⟨failsAtomically, fun t users ops => ?_⟩
  have hcontent : SameContent ⟨t, users, true⟩ ⟨t, users, false⟩ := ⟨rfl, rfl⟩
  have hsteps := transparent_run hcontent rfl ops
  exact ⟨hsteps, unwarned_logOf hsteps⟩

end AccountRegistry.Store
