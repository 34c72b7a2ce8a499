import AccountRegistry.Proofs.Store.Authentication
import AccountRegistry.Proofs.Store.Secrecy

set_option autoImplicit false

/-!
# Interchangeable transforms

A transform that takes every secret, and no two of them to one credential, shows
in copies of the users and nowhere else. Runs of the same operations under two
such transforms give the same answers and records, since a secret is compared
with the secret of the owner whichever way both are written down.
-/
namespace AccountRegistry.Store

theorem reversing_faithful : Transform.reversing.Faithful where
  derives _ := rfl
  injective p q h := by
    simpa only [Transform.reversing, Option.some.injEq, String.ofList_inj, List.reverse_inj,
      String.toList_inj] using h

section Derivations
variable {t t' : Transform}

theorem owner?_eq_of_derives (ht : ∀ p, (t p).isSome) (ht' : ∀ p, (t' p).isSome)
    (history : List Operation) (username : String) :
    owner? t history username = owner? t' history username := by
  have haccepted : accepted? t username = accepted? t' username := by
    funext op
    cases op with
    | register u p => simp only [accepted?, ht, ht']
    | _ => rfl
  rw [owner?, haccepted]
  rfl

theorem sameNames_after (ht : ∀ p, (t p).isSome) (ht' : ∀ p, (t' p).isSome)
    (history : List Operation) :
    SameNames ((ofTransform t).after history) ((ofTransform t').after history) := by
  induction history using List.reverseRecOn with
  | nil => exact ⟨⟨ht, rfl⟩, ⟨ht', rfl⟩, fun _ => Iff.rfl⟩
  | append_singleton history op ih =>
    rw [after_concat, after_concat]
    exact ih.perform op.alike_refl

/-- One operation under two transforms, with the same answer and records; only a copy of the users
may differ. -/
structure SameButCopies (x y : Operation × Outcome Answer) : Prop where
  operation : x.1 = y.1
  answer : x.1 ≠ .snapshot → x.2.answer = y.2.answer
  records : x.2.records = y.2.records

theorem sameButCopies_perform (ht : t.Faithful) (ht' : t'.Faithful) (history : List Operation)
    (op : Operation) : SameButCopies (op, ((ofTransform t).after history).perform op)
      (op, ((ofTransform t').after history).perform op) := by
  have hnames := sameNames_after ht.derives ht'.derives history
  have hanswer : op ≠ .snapshot → (((ofTransform t).after history).perform op).answer =
      (((ofTransform t').after history).perform op).answer := by
    intro hcopy
    by_cases hverdict : ∃ u p, op = .authenticate u p
    · obtain ⟨u, p, rfl⟩ := hverdict
      rw [authenticate_answer ht, authenticate_answer ht',
        owner?_eq_of_derives ht.derives ht'.derives]
    · exact hnames.answer op.alike_refl hcopy fun u p hop => hverdict ⟨u, p, hop⟩
  refine ⟨rfl, hanswer, ?_⟩
  rw [hnames.left.records, hnames.right.records]
  by_cases hcopy : op = .snapshot
  · subst hcopy
    rfl
  · rw [hanswer hcopy]

/-- The copies of the users that two transforms leave after the same history have the same names,
each with the credentials of one secret. -/
def CopiesCorrespond (t t' : Transform) (history : List Operation) : Prop :=
  ∃ users users' : Users,
    (((ofTransform t).after history).perform .snapshot).answer = some (.copy users) ∧
    (((ofTransform t').after history).perform .snapshot).answer = some (.copy users') ∧
    users.keys = users'.keys ∧ ∀ username ∈ users.keys, ∃ secret,
      (∀ p, RegisteredWith (ofTransform t) history username p ↔ p = secret) ∧
      (∀ p, RegisteredWith (ofTransform t') history username p ↔ p = secret) ∧
      users[username]? = t secret ∧ users'[username]? = t' secret

theorem copiesCorrespond (ht : ∀ p, (t p).isSome) (ht' : ∀ p, (t' p).isSome)
    (history : List Operation) : CopiesCorrespond t t' history := by
  refine ⟨_, _, rfl, rfl, keys_eq_of_mem (sameNames_after ht ht' history).names,
    fun username hu => ?_⟩
  obtain ⟨secret, howner⟩ :=
    Option.isSome_iff_exists.1 (((owned_keys t history).2 username).1 hu)
  have howner' : owner? t' history username = some secret :=
    (owner?_eq_of_derives ht ht' history username).symm.trans howner
  refine ⟨secret, fun p => ?_, fun p => ?_, ?_, ?_⟩
  · rw [registeredWith_iff, howner, Option.some.injEq, eq_comm]
  · rw [registeredWith_iff, howner', Option.some.injEq, eq_comm]
  · exact (users_ofTransform t history username).trans (by rw [howner]; rfl)
  · exact (users_ofTransform t' history username).trans (by rw [howner']; rfl)

theorem sameButCopies_run (ht : t.Faithful) (ht' : t'.Faithful) (ops : List Operation) :
    List.Forall₂ SameButCopies ((ofTransform t).transcript ops)
      ((ofTransform t').transcript ops) := by
  -- the stores correspond by their common history
  let R (s s' : Store) : Prop := ∃ history,
    s = (ofTransform t).after history ∧ s' = (ofTransform t').after history
  refine transcripts_correspond (R := R) (A := Eq) ?_ ⟨[], rfl, rfl⟩ (List.forall₂_refl ops)
  rintro _ _ op _ ⟨history, rfl, rfl⟩ rfl
  exact ⟨sameButCopies_perform ht ht' history op, history ++ [op],
    (after_concat _ history op).symm, (after_concat _ history op).symm⟩

end Derivations

/-- Faithful transforms, among them all suffixes and reversing, cannot be told apart but by copies
of the users, and those have the credentials of the same secrets. So a configuration shows its
suffix in copies only. -/
theorem transforms_show_in_copies_only :
    (∀ t : SuffixTransform, (Transform.suffix t).Faithful) ∧ Transform.reversing.Faithful ∧
    (∀ t t' : Transform, t.Faithful → t'.Faithful → ∀ ops : List Operation,
      List.Forall₂ SameButCopies ((ofTransform t).transcript ops)
        ((ofTransform t').transcript ops) ∧
      ∀ k, CopiesCorrespond t t' (ops.take k)) ∧
    ∀ (c c' : Config) (ops : List Operation),
      List.Forall₂ SameButCopies ((ofConfig c).transcript ops) ((ofConfig c').transcript ops) := by
  refine ⟨suffix_faithful, reversing_faithful, fun t t' ht ht' ops => ⟨?_, fun k => ?_⟩,
    fun c c' ops => ?_⟩
  · exact sameButCopies_run ht ht' ops
  · exact copiesCorrespond ht.derives ht'.derives _
  · exact sameButCopies_run (suffix_faithful _) (suffix_faithful _) ops

theorem transforms_show_in_copies_only_reversed :
    let t := Transform.suffix ⟨""⟩
    let ops := [.register "ann" "pw", .register "bob" "otto", .authenticate "ann" "wp",
      .register "ann" "wp", .authenticate "bob" "otto", .snapshot, .description]
    t.Faithful ∧ Transform.reversing.Faithful ∧
      List.Forall₂ SameButCopies ((ofTransform t).transcript ops)
        ((ofTransform .reversing).transcript ops) ∧
      ∀ k, CopiesCorrespond t .reversing (ops.take k) := by
  obtain ⟨hsuffix, hreversing, hrun, -⟩ := transforms_show_in_copies_only
  exact ⟨hsuffix _, hreversing, hrun _ _ (hsuffix _) hreversing _⟩

end AccountRegistry.Store
