import Mathlib.Data.List.Forall2
import AccountRegistry.Store.Concurrent

set_option autoImplicit false

/-!
# Transcripts

What an operation can come to, said once, and the transcript of a run: its
operations, each with its outcome. Two runs whose steps correspond have
transcripts that correspond.
-/
namespace AccountRegistry
open AccountRegistry.Log (Record)

def Outcome.records {α : Type} (o : Outcome α) : List Record := o.events.map Event.record

namespace Store

def look? (users : Users) : Operation → Option Answer
  | .register _ _ | .authenticate _ _ => none
  | .isRegistered username => some (.verdict (users.contains username))
  | .usernames => some (.names users.keys)
  | .size => some (.count users.size)
  | .isEmpty => some (.verdict users.isEmpty)
  | .snapshot => some (.copy users)
  | .description => some (.text (descriptionOf users.size))

section Ways
variable {s : Store} {username secret stored credential : String}

theorem register_of_taken (h : s.users[username]? = some stored) :
    s.register username secret =
      ⟨some (.error (.duplicateUser username)), s.recovery .write ++ [.rejected username], s⟩ := by
  simp [register, Std.ExtTreeMap.contains_eq_isSome_getElem?, h]

theorem register_of_broken (h : s.users[username]? = none) (ht : s.transform secret = none) :
    s.register username secret = ⟨none, s.recovery .write, { s with poisoned := true }⟩ := by
  simp [register, Std.ExtTreeMap.contains_eq_isSome_getElem?, h, ht]

theorem register_of_free (h : s.users[username]? = none)
    (ht : s.transform secret = some credential) :
    s.register username secret = ⟨some (.ok (.of username)),
      s.recovery .write ++ [.registered username],
      { s with users := s.users.insert username credential }⟩ := by
  simp [register, Std.ExtTreeMap.contains_eq_isSome_getElem?, h, ht]

theorem authenticate_of_unknown (h : s.users[username]? = none) :
    s.authenticate username secret =
      ⟨some false, s.recovery .read ++ [.authenticated username false], s⟩ := by
  simp [authenticate, h]

theorem authenticate_of_broken (h : s.users[username]? = some stored)
    (ht : s.transform secret = none) :
    s.authenticate username secret = ⟨none, s.recovery .read, s⟩ := by
  simp [authenticate, h, ht]

theorem authenticate_of_known (h : s.users[username]? = some stored)
    (ht : s.transform secret = some credential) :
    s.authenticate username secret = ⟨some (stored == credential),
      s.recovery .read ++ [.authenticated username (stored == credential)], s⟩ := by
  simp [authenticate, h, ht]

theorem perform_of_look {op : Operation} {answer : Answer} (h : look? s.users op = some answer) :
    s.perform op = ⟨some answer, s.recovery .read, s⟩ := by
  cases op with
  | register u p => cases h
  | authenticate u p => cases h
  | _ => cases h; rfl

end Ways

/-- All that performing an operation can come to. -/
inductive Performs (s : Store) : Operation → Outcome Answer → Prop
  | refuses {u p stored : String} (taken : s.users[u]? = some stored) :
    Performs s (.register u p)
      ⟨some (.refused (.duplicateUser u)), s.recovery .write ++ [.rejected u], s⟩
  | breaksWriting {u p : String} (free : s.users[u]? = none) (breaks : s.transform p = none) :
    Performs s (.register u p) ⟨none, s.recovery .write, { s with poisoned := true }⟩
  | accepts {u p credential : String} (free : s.users[u]? = none)
      (derives : s.transform p = some credential) :
    Performs s (.register u p) ⟨some (.registered (.of u)), s.recovery .write ++ [.registered u],
      { s with users := s.users.insert u credential }⟩
  | misses {u p : String} (unknown : s.users[u]? = none) :
    Performs s (.authenticate u p)
      ⟨some (.verdict false), s.recovery .read ++ [.authenticated u false], s⟩
  | breaksReading {u p stored : String} (known : s.users[u]? = some stored)
      (breaks : s.transform p = none) :
    Performs s (.authenticate u p) ⟨none, s.recovery .read, s⟩
  | compares {u p stored credential : String} (known : s.users[u]? = some stored)
      (derives : s.transform p = some credential) :
    Performs s (.authenticate u p) ⟨some (.verdict (stored == credential)),
      s.recovery .read ++ [.authenticated u (stored == credential)], s⟩
  | looks {op : Operation} {answer : Answer} (sees : look? s.users op = some answer) :
    Performs s op ⟨some answer, s.recovery .read, s⟩

theorem performs (s : Store) (op : Operation) : Performs s op (s.perform op) := by
  cases op with
  | register u p =>
    cases hu : s.users[u]? with
    | some stored =>
      rw [perform, register_of_taken hu]
      exact .refuses hu
    | none =>
      cases hp : s.transform p with
      | none =>
        rw [perform, register_of_broken hu hp]
        exact .breaksWriting hu hp
      | some credential =>
        rw [perform, register_of_free hu hp]
        exact .accepts hu hp
  | authenticate u p =>
    cases hu : s.users[u]? with
    | none =>
      rw [perform, authenticate_of_unknown hu]
      exact .misses hu
    | some stored =>
      cases hp : s.transform p with
      | none =>
        rw [perform, authenticate_of_broken hu hp]
        exact .breaksReading hu hp
      | some credential =>
        rw [perform, authenticate_of_known hu hp]
        exact .compares hu hp
  | _ => exact .looks rfl

theorem access_of_look {users : Users} {op : Operation} {answer : Answer}
    (h : look? users op = some answer) : op.access = .read := by
  cases op with
  | register u p => cases h
  | _ => rfl

theorem telling_of_look {users : Users} {op : Operation} {answer : Answer}
    (h : look? users op = some answer) (a : Answer) : Concurrent.telling op a = [] := by
  cases op with
  | register u p => cases h
  | authenticate u p => cases h
  | _ => rfl

/-- What an operation tells is fixed by its answer and by whether the store was poisoned. -/
theorem events_perform (s : Store) (op : Operation) :
    (s.perform op).events = s.recovery op.access ++
      (s.perform op).answer.elim [] (Concurrent.telling op) := by
  have h := s.performs op
  generalize s.perform op = o at h
  cases h with
  | looks sees =>
    rw [access_of_look sees, Option.elim_some, telling_of_look sees, List.append_nil]
  | breaksWriting free breaks => exact (List.append_nil _).symm
  | breaksReading known breaks => exact (List.append_nil _).symm
  | _ => rfl

def toldOf (op : Operation) (answer : Option Answer) : List Record :=
  (answer.elim [] (Concurrent.telling op)).map Event.record

theorem records_perform (s : Store) (op : Operation) :
    (s.perform op).records =
      (s.recovery op.access).map Event.record ++ toldOf op (s.perform op).answer := by
  rw [Outcome.records, events_perform, List.map_append, toldOf]

theorem level_toldOf {op : Operation} {answer : Option Answer} {r : Record}
    (h : r ∈ toldOf op answer) : r.level = .debug := by
  obtain ⟨e, he, rfl⟩ := List.mem_map.1 h
  cases answer with
  | none => cases he
  | some a =>
    rw [Option.elim_some] at he
    unfold Concurrent.telling at he
    split at he
    · rw [List.mem_singleton.1 he]; rfl
    · rw [List.mem_singleton.1 he]; rfl
    · rw [List.mem_singleton.1 he]; rfl
    · cases he

def transcript (s : Store) (ops : List Operation) : List (Operation × Outcome Answer) :=
  ops.zip (s.performAll ops)

theorem transcript_cons (s : Store) (op : Operation) (ops : List Operation) :
    s.transcript (op :: ops) = (op, s.perform op) :: (s.perform op).store.transcript ops := rfl

def logOf (steps : List (Operation × Outcome Answer)) : List Record :=
  steps.flatMap fun x => x.2.records

theorem flatMap_eq_of_forall₂ {α β : Type} {f g : α → List β} {xs ys : List α}
    (h : List.Forall₂ (fun x y => f x = g y) xs ys) : xs.flatMap f = ys.flatMap g := by
  induction h with
  | nil => rfl
  | cons hx _ ih => rw [List.flatMap_cons, List.flatMap_cons, hx, ih]

theorem mem_transcript {s : Store} {ops : List Operation} {op : Operation} {o : Outcome Answer} :
    (op, o) ∈ s.transcript ops ↔
      ∃ before later, ops = before ++ op :: later ∧ o = (s.after before).perform op := by
  induction ops generalizing s with
  | nil => simp [transcript, performAll]
  | cons op' ops ih =>
    rw [transcript_cons, List.mem_cons, ih]
    constructor
    · rintro (h | ⟨before, later, rfl, rfl⟩)
      · cases h
        exact ⟨[], ops, rfl, rfl⟩
      · exact ⟨op' :: before, later, rfl, rfl⟩
    · rintro ⟨before, later, hsplit, rfl⟩
      cases before with
      | nil =>
        cases hsplit
        exact .inl rfl
      | cons op'' before =>
        cases hsplit
        exact .inr ⟨before, later, rfl, rfl⟩

section Correspondence
variable {R : Store → Store → Prop} {A : Operation → Operation → Prop}
  {P : Operation × Outcome Answer → Operation × Outcome Answer → Prop}

/-- If corresponding operations take corresponding stores to corresponding stores, whatever
they show on the way is shown by the whole runs step by step. -/
theorem transcripts_correspond
    (step : ∀ s s' op op', R s s' → A op op' →
      P (op, s.perform op) (op', s'.perform op') ∧ R (s.perform op).store (s'.perform op').store)
    {s s' : Store} {ops ops' : List Operation} (hs : R s s') (hops : List.Forall₂ A ops ops') :
    List.Forall₂ P (s.transcript ops) (s'.transcript ops') := by
  induction hops generalizing s s' with
  | nil => exact .nil
  | cons hop _ ih =>
    obtain ⟨hp, hr⟩ := step _ _ _ _ hs hop
    exact .cons hp (ih hr)

end Correspondence

end Store
end AccountRegistry
