import Mathlib.Data.List.Sort
import AccountRegistry.Proofs.Store.Ownership
import AccountRegistry.Proofs.Store.Recovery

set_option autoImplicit false

/-!
# Secrets stay hidden

Two runs that differ in secrets alone keep stores with the same names and
otherwise unrelated credentials. As long as the transform takes every secret,
such stores answer and tell the same, but for copies of the users and for the
verdicts of authentications.
-/
namespace AccountRegistry

def Operation.secret? : Operation → Option String
  | .register _ secret | .authenticate _ secret => some secret
  | _ => none

/-- The same operation, perhaps with another secret. -/
inductive Operation.Alike : Operation → Operation → Prop
  | register (u p q : String) : Alike (.register u p) (.register u q)
  | authenticate (u p q : String) : Alike (.authenticate u p) (.authenticate u q)
  | looking {op : Operation} (h : op.secret? = none) : Alike op op

theorem Operation.alike_refl (op : Operation) : Operation.Alike op op := by
  cases op with
  | register u p => exact .register u p p
  | authenticate u p => exact .authenticate u p p
  | _ => exact .looking rfl

namespace Store

theorem keys_eq_of_mem {users users' : Users} (h : ∀ u, u ∈ users ↔ u ∈ users') :
    users.keys = users'.keys := by
  have hperm : users.keys.Perm users'.keys := by
    rw [List.perm_ext_iff_of_nodup Std.ExtTreeMap.nodup_keys Std.ExtTreeMap.nodup_keys]
    intro u
    rw [Std.ExtTreeMap.mem_keys, Std.ExtTreeMap.mem_keys, h]
  -- both lists ascend, so they are in one order
  refine hperm.eq_of_pairwise ?_ Std.ExtTreeMap.ordered_keys Std.ExtTreeMap.ordered_keys
  intro a b _ _ hab hba
  exact absurd hba (Std.OrientedCmp.not_lt_of_lt hab)

theorem exists_look (users : Users) {op : Operation} (h : op.secret? = none) :
    ∃ answer, look? users op = some answer := by
  cases op with
  | register u p => cases h
  | authenticate u p => cases h
  | _ => exact ⟨_, rfl⟩

theorem look?_eq_of_keys {users users' : Users} (h : users.keys = users'.keys) {op : Operation}
    (hop : op ≠ .snapshot) : look? users op = look? users' op := by
  have hmem : ∀ u, users.contains u = users'.contains u := fun u => by
    rw [Bool.eq_iff_iff, Std.ExtTreeMap.contains_iff_mem, Std.ExtTreeMap.contains_iff_mem,
      ← Std.ExtTreeMap.mem_keys, ← Std.ExtTreeMap.mem_keys, h]
  have hsize : users.size = users'.size := by
    rw [← Std.ExtTreeMap.length_keys, ← Std.ExtTreeMap.length_keys, h]
  have hempty : users.isEmpty = users'.isEmpty := by
    rw [← Std.ExtTreeMap.isEmpty_keys, ← Std.ExtTreeMap.isEmpty_keys, h]
  cases op with
  | snapshot => exact absurd rfl hop
  | register u p => rfl
  | authenticate u p => rfl
  | isRegistered u => exact congrArg (fun b => some (Answer.verdict b)) (hmem u)
  | usernames => exact congrArg (fun names => some (Answer.names names)) h
  | size => exact congrArg (fun n => some (Answer.count n)) hsize
  | isEmpty => exact congrArg (fun b => some (Answer.verdict b)) hempty
  | description => exact congrArg (fun n => some (Answer.text (descriptionOf n))) hsize

/-- A store in which no operation breaks off and none ever did. -/
structure Steady (s : Store) : Prop where
  derives : ∀ p, (s.transform p).isSome
  unpoisoned : s.poisoned = false

namespace Steady
variable {s : Store}

theorem perform (h : s.Steady) (op : Operation) : (s.perform op).store.Steady where
  derives := by
    rw [perform_transform]
    exact h.derives
  unpoisoned := by
    rw [← Bool.not_eq_true, poisoned_perform, h.unpoisoned]
    rintro (hp | ⟨u, p, -, -, hp⟩)
    · cases hp
    · have hsome := h.derives p
      rw [hp] at hsome
      cases hsome

theorem records (h : s.Steady) (op : Operation) :
    (s.perform op).records = toldOf op (s.perform op).answer := by
  rw [records_perform, recovery, h.unpoisoned]
  rfl

theorem register_answer (h : s.Steady) (u p : String) :
    (s.perform (.register u p)).answer =
      if u ∈ s.users then some (.refused (.duplicateUser u))
      else some (.registered ⟨true, u⟩) := by
  obtain ⟨credential, hp⟩ := Option.isSome_iff_exists.1 (h.derives p)
  rw [Store.register_answer, hp]
  by_cases hu : u ∈ s.users
  · obtain ⟨stored, hs⟩ := Option.isSome_iff_exists.1 (Std.ExtTreeMap.mem_iff_isSome_getElem?.1 hu)
    rw [hs, if_pos hu]
  · rw [Std.ExtTreeMap.getElem?_eq_none hu, if_neg hu]
    rfl

theorem exists_verdict (h : s.Steady) (u p : String) :
    ∃ b, (s.perform (.authenticate u p)).answer = some (.verdict b) := by
  obtain ⟨credential, hp⟩ := Option.isSome_iff_exists.1 (h.derives p)
  cases hs : s.users[u]? with
  | none => exact ⟨false, by rw [Store.perform, authenticate_of_unknown hs]; rfl⟩
  | some stored => exact ⟨_, by rw [Store.perform, authenticate_of_known hs hp]; rfl⟩

theorem mem_perform (h : s.Steady) (op : Operation) (u : String) :
    u ∈ (s.perform op).store.users ↔ u ∈ s.users ∨ ∃ p, op = .register u p := by
  rw [Std.ExtTreeMap.mem_iff_isSome_getElem?, Std.ExtTreeMap.mem_iff_isSome_getElem?,
    users_perform, Option.isSome_or, Bool.or_eq_true]
  refine or_congr_right ?_
  constructor
  · intro hsome
    cases ha : accepted? s.transform u op with
    | none => rw [ha] at hsome; cases hsome
    | some p => exact ⟨p, (accepted?_eq_some.1 ha).1⟩
  · rintro ⟨p, rfl⟩
    rw [accepted?_eq_some.2 ⟨rfl, h.derives p⟩]
    exact h.derives p

end Steady

/-- Two stores that show the same where they show no credentials. -/
structure SameNames (s s' : Store) : Prop where
  left : s.Steady
  right : s'.Steady
  names : ∀ u, u ∈ s.users ↔ u ∈ s'.users

/-- Two steps that nothing tells apart but copies of the users and verdicts on secrets. -/
structure Indistinguishable (x y : Operation × Outcome Answer) : Prop where
  answer : x.1 ≠ .snapshot → (∀ u p, x.1 ≠ .authenticate u p) → x.2.answer = y.2.answer
  records : (∀ u p, x.1 ≠ .authenticate u p) → x.2.records = y.2.records
  verdict : ∀ u p, x.1 = .authenticate u p → ∃ a b,
    x.2.answer = some (.verdict a) ∧ x.2.records = [(Event.authenticated u a).record] ∧
    y.2.answer = some (.verdict b) ∧ y.2.records = [(Event.authenticated u b).record]
  copy : x.1 = .snapshot → ∃ users users' : Users, x.2.answer = some (.copy users) ∧
    y.2.answer = some (.copy users') ∧ users.keys = users'.keys

theorem toldOf_alike {op op' : Operation} (h : Operation.Alike op op') (answer : Option Answer) :
    toldOf op answer = toldOf op' answer := by
  cases h with
  | looking h => rfl
  | register u p q =>
    cases answer with
    | none => rfl
    | some a => cases a <;> rfl
  | authenticate u p q =>
    cases answer with
    | none => rfl
    | some a => cases a <;> rfl

section Steps
variable {s s' : Store} {op op' : Operation}

theorem SameNames.perform (h : SameNames s s') (hop : Operation.Alike op op') :
    SameNames (s.perform op).store (s'.perform op').store := by
  refine ⟨h.left.perform op, h.right.perform op', fun u => ?_⟩
  rw [h.left.mem_perform, h.right.mem_perform, h.names]
  cases hop with
  | register v p q => simp
  | authenticate v p q => simp
  | looking hsecret => rfl

theorem SameNames.answer (h : SameNames s s') (hop : Operation.Alike op op')
    (hcopy : op ≠ .snapshot) (hverdict : ∀ u p, op ≠ .authenticate u p) :
    (s.perform op).answer = (s'.perform op').answer := by
  cases hop with
  | register u p q =>
    rw [h.left.register_answer, h.right.register_answer, if_congr (h.names u) rfl rfl]
  | authenticate u p q => exact absurd rfl (hverdict u p)
  | looking hsecret =>
    have hlook := look?_eq_of_keys (keys_eq_of_mem h.names) hcopy
    obtain ⟨answer, hsees⟩ := exists_look s.users hsecret
    rw [perform_of_look hsees, perform_of_look (hlook ▸ hsees)]

theorem SameNames.indistinguishable (h : SameNames s s') (hop : Operation.Alike op op') :
    Indistinguishable (op, s.perform op) (op', s'.perform op') where
  answer := h.answer hop
  records := by
    intro hverdict
    rw [h.left.records, h.right.records, toldOf_alike hop]
    by_cases hcopy : op = .snapshot
    · subst hcopy
      cases hop
      rfl
    · rw [h.answer hop hcopy hverdict]
  verdict := by
    rintro u p rfl
    cases hop with
    | authenticate _ _ q =>
      obtain ⟨a, ha⟩ := h.left.exists_verdict u p
      obtain ⟨b, hb⟩ := h.right.exists_verdict u q
      refine ⟨a, b, ha, ?_, hb, ?_⟩
      · rw [h.left.records, ha]
        rfl
      · rw [h.right.records, hb]
        rfl
    | looking hsecret => cases hsecret
  copy := by
    rintro rfl
    cases hop
    exact ⟨_, _, rfl, rfl, keys_eq_of_mem h.names⟩

end Steps

def SameVerdict (x y : Operation × Outcome Answer) : Prop :=
  ∀ u p, x.1 = .authenticate u p → x.2.answer = y.2.answer

theorem Indistinguishable.records_eq {x y : Operation × Outcome Answer}
    (h : Indistinguishable x y) (hverdict : SameVerdict x y) : x.2.records = y.2.records := by
  by_cases hop : ∃ u p, x.1 = .authenticate u p
  · obtain ⟨u, p, hop⟩ := hop
    obtain ⟨a, b, ha, hra, hb, hrb⟩ := h.verdict u p hop
    have hab := hverdict u p hop
    rw [ha, hb, Option.some.injEq, Answer.verdict.injEq] at hab
    rw [hra, hrb, hab]
  · exact h.records fun u p hx => hop ⟨u, p, hx⟩

theorem sameNames_ofTransform {t : Transform} (ht : ∀ p, (t p).isSome) :
    SameNames (ofTransform t) (ofTransform t) :=
  ⟨⟨ht, rfl⟩, ⟨ht, rfl⟩, fun _ => Iff.rfl⟩

/-- Runs that differ in secrets show the same but for copies of the users and for verdicts; where
the verdicts agree, so do the whole logs. -/
theorem secrets_hidden {t : Transform} (ht : ∀ p, (t p).isSome) {xs ys : List Operation}
    (h : List.Forall₂ Operation.Alike xs ys) :
    List.Forall₂ Indistinguishable ((ofTransform t).transcript xs)
      ((ofTransform t).transcript ys) ∧
    (List.Forall₂ SameVerdict ((ofTransform t).transcript xs) ((ofTransform t).transcript ys) →
      logOf ((ofTransform t).transcript xs) = logOf ((ofTransform t).transcript ys)) := by
  have hsteps : List.Forall₂ Indistinguishable ((ofTransform t).transcript xs)
      ((ofTransform t).transcript ys) :=
    transcripts_correspond (fun _ _ _ _ hs hop => ⟨hs.indistinguishable hop, hs.perform hop⟩)
      (sameNames_ofTransform ht) h
  exact ⟨hsteps, fun hverdicts =>
    flatMap_eq_of_forall₂ (List.Forall₂.mp (fun _ _ hx hv => hx.records_eq hv) hsteps hverdicts)⟩

theorem secrets_hidden_suffixed :
    let s := ofTransform (.suffix ⟨"#"⟩)
    let xs := [.register "ann" "pw", .register "ann" "x", .authenticate "ann" "pw",
      .authenticate "ann" "", .snapshot]
    let ys := [.register "ann" "other", .register "ann" "", .authenticate "ann" "other",
      .authenticate "ann" "pw", .snapshot]
    (∀ p, (s.transform p).isSome) ∧ List.Forall₂ Operation.Alike xs ys ∧
    List.Forall₂ Indistinguishable (s.transcript xs) (s.transcript ys) ∧
    logOf (s.transcript xs) = logOf (s.transcript ys) := by
  have halike : List.Forall₂ Operation.Alike
      [.register "ann" "pw", .register "ann" "x", .authenticate "ann" "pw",
        .authenticate "ann" "", .snapshot]
      [.register "ann" "other", .register "ann" "", .authenticate "ann" "other",
        .authenticate "ann" "pw", .snapshot] :=
    .cons (.register ..) <| .cons (.register ..) <| .cons (.authenticate ..) <|
      .cons (.authenticate ..) <| .cons (.looking rfl) .nil
  obtain ⟨hsteps, hlogs⟩ := secrets_hidden (t := .suffix ⟨"#"⟩) (fun _ => rfl) halike
  refine ⟨fun _ => rfl, halike, hsteps, hlogs ?_⟩
  exact .cons (fun _ _ h => nomatch h) <| .cons (fun _ _ h => nomatch h) <|
    .cons (fun _ _ _ => Eq.trans (b := some (.verdict true)) rfl rfl) <|
    .cons (fun _ _ _ => Eq.trans (b := some (.verdict false)) rfl rfl) <|
    .cons (fun _ _ h => nomatch h) .nil

end Store
end AccountRegistry
