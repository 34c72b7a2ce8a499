import AccountRegistry.Proofs.Store.Authentication
import AccountRegistry.Proofs.Store.Secrecy
import AccountRegistry.Proofs.Text.ByteOrder

set_option autoImplicit false

/-!
# The list of user names

A store has one list of its names: ascending by their bytes, with nothing twice.
Whatever else looks at the users agrees with it, and nothing but the set of
names that were registered has a part in it.
-/
namespace AccountRegistry.Store
open AccountRegistry.Text

def notAfter (u v : String) : Bool := !decide (utf8 v < utf8 u)

/-- The answer that a store gives for its names, and what the other answers are by it. -/
structure Canonical (s : Store) (names : List String) : Prop where
  answer : (s.perform .usernames).answer = some (.names names)
  byBytes : names.Pairwise fun u v => utf8 u < utf8 v
  byCodePoints : names.Pairwise fun u v => codePoints u < codePoints v
  /-- The names are those of a copy, each once. Sorting them gives the list, whatever order they
  are found in. -/
  copy : ∃ users : Users, (s.perform .snapshot).answer = some (.copy users) ∧
    (∀ u, names.count u = if u ∈ users then 1 else 0) ∧
    ∀ found : List String, found.Nodup → (∀ u, u ∈ found ↔ u ∈ users) →
      found.mergeSort notAfter = names
  size : (s.perform .size).answer = some (.count names.length)
  isEmpty : (s.perform .isEmpty).answer = some (.verdict names.isEmpty)
  isRegistered : ∀ u, (s.perform (.isRegistered u)).answer = some (.verdict (decide (u ∈ names)))
  description : (s.perform .description).answer = some (.text
    ("CredentialStore \x7b users: " ++ Digits.decimal names.length ++ ", .. \x7d"))
  tallDescription : s.tallDescription.answer = some
    ("CredentialStore \x7b\n    users: " ++ Digits.decimal names.length ++ ",\n    ..\n\x7d")

theorem notAfter_iff {u v : String} : notAfter u v = true ↔ u ≤ v := by
  rw [notAfter, Bool.not_eq_true', decide_eq_false_iff_not, utf8_lt_iff, not_lt]

theorem mergeSort_eq_keys {users : Users} {found : List String} (hnodup : found.Nodup)
    (hmem : ∀ u, u ∈ found ↔ u ∈ users) : found.mergeSort notAfter = users.keys := by
  have hperm : (found.mergeSort notAfter).Perm users.keys := by
    refine (List.mergeSort_perm _ _).trans ?_
    rw [List.perm_ext_iff_of_nodup hnodup Std.ExtTreeMap.nodup_keys]
    intro u
    rw [hmem, Std.ExtTreeMap.mem_keys]
  have hsorted : (found.mergeSort notAfter).Pairwise fun u v => notAfter u v = true := by
    refine List.pairwise_mergeSort (fun u v w huv hvw => ?_) (fun u v => ?_) found
    · rw [notAfter_iff] at huv hvw ⊢
      exact huv.trans hvw
    · rw [Bool.or_eq_true, notAfter_iff, notAfter_iff]
      exact le_total u v
  refine hperm.eq_of_pairwise (fun u v _ _ huv hvu => ?_) hsorted
    ((ascending_keys users).imp fun h => notAfter_iff.2 (le_of_lt h))
  rw [notAfter_iff] at huv hvu
  exact le_antisymm huv hvu

theorem canonical (s : Store) : Canonical s s.users.keys where
  answer := rfl
  byBytes := (ascending_keys s.users).imp utf8_lt_iff.2
  byCodePoints := (ascending_keys s.users).imp codePoints_lt_iff.2
  copy := by
    refine ⟨s.users, rfl, fun u => ?_, fun found => mergeSort_eq_keys⟩
    rw [List.Nodup.count Std.ExtTreeMap.nodup_keys, if_congr Std.ExtTreeMap.mem_keys rfl rfl]
  size := by
    rw [Std.ExtTreeMap.length_keys]
    rfl
  isEmpty := by
    rw [Std.ExtTreeMap.isEmpty_keys]
    rfl
  isRegistered u := by
    have hcontains : s.users.contains u = decide (u ∈ s.users.keys) := by
      rw [Bool.eq_iff_iff, Std.ExtTreeMap.contains_iff_mem, decide_eq_true_iff,
        Std.ExtTreeMap.mem_keys]
    rw [← hcontains]
    rfl
  description := by
    rw [Std.ExtTreeMap.length_keys]
    rfl
  tallDescription := by
    rw [Std.ExtTreeMap.length_keys]
    rfl

theorem mem_users_iff_registered {t : Transform} {ops : List Operation} {u : String} :
    u ∈ ((ofTransform t).after ops).users ↔ ∃ p, RegisteredWith (ofTransform t) ops u p := by
  simp only [Std.ExtTreeMap.mem_iff_isSome_getElem?, users_isSome_ofTransform,
    Option.isSome_iff_exists, registeredWith_iff]

def SameRegistered (t t' : Transform) (ops ops' : List Operation) : Prop :=
  ∀ u, (∃ p, RegisteredWith (ofTransform t) ops u p) ↔ ∃ p, RegisteredWith (ofTransform t') ops' u p

theorem sameRegistered_iff {t t' : Transform} {ops ops' : List Operation} :
    SameRegistered t t' ops ops' ↔ (((ofTransform t).after ops).perform .usernames).answer =
      (((ofTransform t').after ops').perform .usernames).answer := by
  rw [(canonical _).answer, (canonical _).answer, Option.some.injEq, Answer.names.injEq]
  constructor
  · intro h
    refine keys_eq_of_mem fun u => ?_
    rw [mem_users_iff_registered, mem_users_iff_registered]
    exact h u
  · intro h u
    rw [← mem_users_iff_registered, ← mem_users_iff_registered, ← Std.ExtTreeMap.mem_keys, h,
      Std.ExtTreeMap.mem_keys]

/-- After every run a store has one list of its names. It ascends by bytes, which is to say by code
points, and is fixed by which names were registered. -/
theorem usernames_canonical :
    (∀ (t : Transform) (ops : List Operation),
      ∃ names, Canonical ((ofTransform t).after ops) names) ∧
    (∀ u v : String, utf8 u < utf8 v ↔ codePoints u < codePoints v) ∧
    ∀ (t t' : Transform) (ops ops' : List Operation), SameRegistered t t' ops ops' ↔
      (((ofTransform t).after ops).perform .usernames).answer =
        (((ofTransform t').after ops').perform .usernames).answer := by
  refine ⟨fun t ops => ⟨_, canonical _⟩, fun u v => ?_, fun t t' ops ops' => sameRegistered_iff⟩
  rw [utf8_lt_iff, codePoints_lt_iff]

/-- A name of four bytes stands after one of three, though the first of its two units of sixteen
bits is the lesser. -/
example : (((ofTransform (.suffix .default)).after [.register "😀" "", .register "" "",
    .register "\uffff" "", .register "\uffff" "x"]).perform .usernames).answer =
      some (.names ["", "\uffff", "😀"]) := by
  rfl

end AccountRegistry.Store
