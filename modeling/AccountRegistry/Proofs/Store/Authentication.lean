import AccountRegistry.Proofs.Config.Outcome
import AccountRegistry.Proofs.Store.Ownership
import AccountRegistry.Proofs.Store.Transcript

set_option autoImplicit false

/-!
# Exact authentication

Appending a suffix takes no two secrets to one credential. A store with such a
transform therefore authenticates a name with the secret it was registered with
and with no other; if the suffix is not empty, the credential itself is no way
in either.
-/
namespace AccountRegistry.Store

def RegisteredWith (s : Store) (ops : List Operation) (username secret : String) : Prop :=
  ∃ o, (.register username secret, o) ∈ s.transcript ops ∧
    o.answer = some (.registered ⟨true, username⟩)

section Secrets
variable {t : Transform} {ops : List Operation} {username secret : String}

theorem owner?_of_registeredWith (h : RegisteredWith (ofTransform t) ops username secret) :
    owner? t ops username = some secret := by
  obtain ⟨o, ho, ha⟩ := h
  obtain ⟨earlier, later, rfl, rfl⟩ := mem_transcript.1 ho
  have hfixed := answer_fixedBy t earlier (.register username secret)
  rw [ha] at hfixed
  -- of the three ways a registration can end, this answer leaves one
  cases howner : owner? t earlier username with
  | some p => simp [FixedBy, howner] at hfixed
  | none =>
    cases hsecret : t secret with
    | none => simp [FixedBy, howner, hsecret] at hfixed
    | some credential =>
      have hnow : accepted? t username (.register username secret) = some secret :=
        accepted?_eq_some.2 ⟨rfl, by rw [hsecret]; rfl⟩
      rw [owner?_append, howner, Option.none_or, owner?, List.findSome?_cons, hnow]

theorem registeredWith_of_owner? (h : owner? t ops username = some secret) :
    RegisteredWith (ofTransform t) ops username secret := by
  obtain ⟨earlier, op, later, rfl, hop, hnone⟩ := List.findSome?_eq_some_iff.1 h
  obtain ⟨rfl, hsecret⟩ := accepted?_eq_some.1 hop
  obtain ⟨credential, hcredential⟩ := Option.isSome_iff_exists.1 hsecret
  have howner : owner? t earlier username = none := List.findSome?_eq_none_iff.2 hnone
  have hfixed := answer_fixedBy t earlier (.register username secret)
  simp only [FixedBy, howner, hcredential, Option.map_some] at hfixed
  exact ⟨_, mem_transcript.2 ⟨earlier, later, rfl, rfl⟩, hfixed⟩

theorem registeredWith_iff :
    RegisteredWith (ofTransform t) ops username secret ↔ owner? t ops username = some secret :=
  ⟨owner?_of_registeredWith, registeredWith_of_owner?⟩

theorem owner?_isSome_of_isRegistered
    (h : (((ofTransform t).after ops).perform (.isRegistered username)).answer =
      some (.verdict true)) : ∃ secret, owner? t ops username = some secret := by
  have hfixed := answer_fixedBy t ops (.isRegistered username)
  rw [h] at hfixed
  simp only [FixedBy, Option.some.injEq, Answer.verdict.injEq] at hfixed
  exact Option.isSome_iff_exists.1 hfixed.symm

end Secrets

end Store

/-- The transform takes every secret and gives each a credential of its own. -/
structure Transform.Faithful (t : Transform) : Prop where
  derives : ∀ p, (t p).isSome
  injective : Function.Injective t

namespace Store

theorem authenticate_answer {t : Transform} (ht : t.Faithful) (ops : List Operation)
    (username p : String) :
    (((ofTransform t).after ops).perform (.authenticate username p)).answer =
      some (.verdict (decide (owner? t ops username = some p))) := by
  have hfixed := answer_fixedBy t ops (.authenticate username p)
  obtain ⟨credential, hp⟩ := Option.isSome_iff_exists.1 (ht.derives p)
  cases howner : owner? t ops username with
  | none => simpa [FixedBy, howner] using hfixed
  | some secret =>
    have hsame : t secret = some credential ↔ secret = p := by rw [← hp, ht.injective.eq_iff]
    simpa only [FixedBy, howner, hp, Option.map_some, hsame, Option.some.injEq] using hfixed

theorem suffix_faithful (t : SuffixTransform) : (Transform.suffix t).Faithful where
  derives _ := rfl
  injective p q h := by
    simpa only [Transform.suffix, SuffixTransform.derive, Option.some.injEq,
      String.append_left_inj] using h

theorem authenticates_exactly {t : SuffixTransform} {ops : List Operation}
    {username secret : String} (h : owner? (.suffix t) ops username = some secret) (p : String) :
    (((ofTransform (.suffix t)).after ops).perform (.authenticate username p)).answer =
      some (.verdict (decide (p = secret))) := by
  rw [authenticate_answer (suffix_faithful t), h]
  simp only [Option.some.injEq, eq_comm]

theorem append_ne_self {secret suffix : String} (h : suffix ≠ "") : secret ++ suffix ≠ secret := by
  intro he
  rw [← String.append_empty (s := secret), String.append_assoc, String.append_right_inj,
    String.empty_append] at he
  exact h he

/-- What a store with the suffix of a configuration makes of a name and its secret. -/
structure HoldsExactly (c : Config) (s : Store) (username secret : String) : Prop where
  authenticates : ∀ p, (s.perform (.authenticate username p)).answer =
    some (.verdict (decide (p = secret)))
  stored : ∃ users : Users, (s.perform .snapshot).answer = some (.copy users) ∧
    users[username]? = some (secret ++ c.credentialSuffix)
  marked : secret ++ c.credentialSuffix ≠ secret
  rejects : (s.perform (.authenticate username (secret ++ c.credentialSuffix))).answer =
    some (.verdict false)

theorem holdsExactly_of_owner? {c : Config} (hc : c.credentialSuffix ≠ "") {ops : List Operation}
    {username secret : String}
    (h : owner? (.suffix ⟨c.credentialSuffix⟩) ops username = some secret) :
    HoldsExactly c ((ofConfig c).after ops) username secret := by
  have hmarked : secret ++ c.credentialSuffix ≠ secret := append_ne_self hc
  refine ⟨authenticates_exactly h, ⟨_, rfl, ?_⟩, hmarked, ?_⟩
  · exact (users_ofTransform _ ops username).trans (by rw [h]; rfl)
  · exact (authenticates_exactly h _).trans (by rw [decide_eq_false hmarked])

/-- With any suffix a name is authenticated by the secret it was registered with and by nothing
else; with the suffix of a configuration that was read, not by its credential either. -/
theorem authentication_exact [Config.Parsers] :
    (∀ (t : SuffixTransform) (ops : List Operation) (username secret : String),
      RegisteredWith (ofTransform (.suffix t)) ops username secret → ∀ p,
        (((ofTransform (.suffix t)).after ops).perform (.authenticate username p)).answer =
          some (.verdict (decide (p = secret)))) ∧
    ∀ c : Config, c.IsRead → ∀ (ops : List Operation) (username : String),
      (((ofConfig c).after ops).perform (.isRegistered username)).answer = some (.verdict true) →
      ∃ secret, (∀ p, RegisteredWith (ofConfig c) ops username p ↔ p = secret) ∧
        HoldsExactly c ((ofConfig c).after ops) username secret := by
  constructor
  · intro t ops username secret h
    exact authenticates_exactly (owner?_of_registeredWith h)
  · intro c hc ops username h
    obtain ⟨secret, howner⟩ := owner?_isSome_of_isRegistered h
    refine ⟨secret, fun p => ?_, holdsExactly_of_owner? hc.suffix_ne_empty howner⟩
    rw [ofConfig, registeredWith_iff, howner, Option.some.injEq, eq_comm]

/-- A secret that ends in the suffix, and one that comes too late. -/
theorem authentication_exact_suffixed :
    let c : Config := ⟨"_v2", "alice", "password123"⟩
    let ops := [.authenticate "ann" "", .register "ann" "pw_v2", .register "ann" "pw"]
    c.IsRead ∧
    (((ofConfig c).after ops).perform (.isRegistered "ann")).answer = some (.verdict true) ∧
    ∃ secret, (∀ p, RegisteredWith (ofConfig c) ops "ann" p ↔ p = secret) ∧
      HoldsExactly c ((ofConfig c).after ops) "ann" secret := by
  have hread : Config.IsRead ⟨"_v2", "alice", "password123"⟩ :=
    .inr ⟨"credential_suffix = '_v2'", by decide +kernel⟩
  exact ⟨hread, rfl, authentication_exact.2 _ hread _ "ann" rfl⟩

end AccountRegistry.Store
