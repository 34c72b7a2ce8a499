import Mathlib.Data.List.Nodup
import AccountRegistry.Settings.Tree

set_option autoImplicit false

/-!
# Entries of tables

The entries of a table have distinct keys, at any depth, in every value that a
settings file says. Their order is another matter: values that differ in nothing
else are reorderings of each other.
-/
namespace AccountRegistry.Settings

theorem nodup_of_added {keys keys' : List String} {key : String}
    (h : keys' = keys ∨ key ∉ keys ∧ keys' = keys ++ [key]) (hn : keys.Nodup) : keys'.Nodup := by
  obtain rfl | ⟨hnew, rfl⟩ := h
  · exact hn
  · rw [← List.concat_eq_append]
    exact hn.concat hnew

theorem lookup_of_mem {α : Type} {entries : List (String × α)} (hkeys : (entries.map Prod.fst).Nodup)
    {key : String} {a : α} (h : (key, a) ∈ entries) : entries.lookup key = some a := by
  obtain ⟨before, after, rfl⟩ := List.append_of_mem h
  refine List.lookup_eq_some_iff.2 ⟨before, after, rfl, fun e he => ?_⟩
  rw [List.map_append, List.map_cons, List.nodup_append] at hkeys
  have hne := hkeys.2.2 _ (List.mem_map_of_mem he) _ List.mem_cons_self
  exact bne_iff_ne.2 hne.symm

theorem latest_sublist (entries : List (String × Value)) : (latest entries).Sublist entries := by
  induction entries with
  | nil => exact .slnil
  | cons e rest ih =>
    rw [latest]
    split
    · exact ih.cons e
    · exact ih.cons_cons e

theorem latest_nodup (entries : List (String × Value)) :
    ((latest entries).map Prod.fst).Nodup := by
  induction entries with
  | nil => exact List.nodup_nil
  | cons e rest ih =>
    rw [latest]
    split
    · exact ih
    · next hnew =>
      rw [List.map_cons, List.nodup_cons]
      exact ⟨fun hmem => hnew (((latest_sublist rest).map Prod.fst).subset hmem), ih⟩

theorem latest_eq_self {entries : List (String × Value)}
    (hkeys : (entries.map Prod.fst).Nodup) : latest entries = entries := by
  induction entries with
  | nil => rfl
  | cons e rest ih =>
    rw [List.map_cons, List.nodup_cons] at hkeys
    rw [latest, if_neg hkeys.1, ih hkeys.2]

namespace Value

/-- No table in a value has two entries of one key. -/
inductive Distinct : Value → Prop where
  | null : Distinct .null
  | scalar (s : Scalar) : Distinct (.scalar s)
  | array {items : List Value} (h : ∀ v ∈ items, Distinct v) : Distinct (.array items)
  | table {entries : List (String × Value)} (hkeys : (entries.map Prod.fst).Nodup)
      (h : ∀ e ∈ entries, Distinct e.2) : Distinct (.table entries)

/-- The entries of a table may be permuted, wherever in a value the table is. -/
inductive Reorders : Value → Value → Prop where
  | refl (v : Value) : Reorders v v
  | trans {u v w : Value} (huv : Reorders u v) (hvw : Reorders v w) : Reorders u w
  | permuted {entries entries' : List (String × Value)} (h : entries.Perm entries') :
    Reorders (.table entries) (.table entries')
  | entry (before after : List (String × Value)) (key : String) {v w : Value}
      (h : Reorders v w) :
    Reorders (.table (before ++ (key, v) :: after)) (.table (before ++ (key, w) :: after))
  | item (before after : List Value) {v w : Value} (h : Reorders v w) :
    Reorders (.array (before ++ v :: after)) (.array (before ++ w :: after))

theorem Distinct.empty : Distinct (.table []) := .table List.nodup_nil (List.forall_mem_nil _)

theorem Distinct.keys {entries : List (String × Value)} (h : Distinct (.table entries)) :
    (entries.map Prod.fst).Nodup := by
  cases h with
  | table hkeys _ => exact hkeys

theorem Distinct.of_mem {entries : List (String × Value)} (h : Distinct (.table entries))
    {e : String × Value} (he : e ∈ entries) : e.2.Distinct := by
  cases h with
  | table _ hvalues => exact hvalues e he

theorem Distinct.of_mem_array {items : List Value} (h : Distinct (.array items)) {v : Value}
    (hv : v ∈ items) : v.Distinct := by
  cases h with
  | array hitems => exact hitems v hv

theorem forall_mem_replaced {α : Type} {P : α → Prop} {before after : List α} {a b : α}
    (h : ∀ x ∈ before ++ a :: after, P x) (hb : P b) : ∀ x ∈ before ++ b :: after, P x := by
  simp only [List.forall_mem_append, List.forall_mem_cons] at h ⊢
  exact ⟨h.1, hb, h.2.2⟩

theorem keys_replaced (before after : List (String × Value)) (key : String) (v w : Value) :
    (before ++ (key, v) :: after).map Prod.fst = (before ++ (key, w) :: after).map Prod.fst := by
  simp only [List.map_append, List.map_cons]

theorem Reorders.distinct {v w : Value} (h : Reorders v w) (hv : v.Distinct) : w.Distinct := by
  induction h with
  | refl v => exact hv
  | trans _ _ ihuv ihvw => exact ihvw (ihuv hv)
  | permuted hperm =>
    exact .table ((hperm.map Prod.fst).nodup hv.keys) fun e he => hv.of_mem (hperm.mem_iff.2 he)
  | entry before after key _ ih =>
    have hentry := ih (hv.of_mem (List.mem_append_right _ List.mem_cons_self))
    refine .table ?_ (forall_mem_replaced (fun e he => hv.of_mem he) hentry)
    rw [← keys_replaced before after key]
    exact hv.keys
  | item before after _ ih =>
    have hitem := ih (hv.of_mem_array (List.mem_append_right _ List.mem_cons_self))
    exact .array (forall_mem_replaced (fun v hmem => hv.of_mem_array hmem) hitem)

theorem Reorders.of_table {entries : List (String × Value)} {w : Value}
    (h : Reorders (.table entries) w) :
    ∃ entries', w = .table entries' ∧ (entries.map Prod.fst).Perm (entries'.map Prod.fst) := by
  generalize hv : Value.table entries = v at h
  induction h generalizing entries with
  | refl v => exact ⟨entries, hv.symm, .refl _⟩
  | trans _ _ ihuv ihvw =>
    obtain ⟨mid, hmid, hkeys⟩ := ihuv hv
    obtain ⟨entries', hw, hkeys'⟩ := ihvw hmid.symm
    exact ⟨entries', hw, hkeys.trans hkeys'⟩
  | permuted hperm =>
    cases hv
    exact ⟨_, rfl, hperm.map Prod.fst⟩
  | entry before after key =>
    cases hv
    exact ⟨_, rfl, .of_eq (keys_replaced before after key _ _)⟩
  | item => cases hv

theorem Distinct.of_sublist {entries entries' : List (String × Value)}
    (h : Distinct (.table entries)) (hsub : entries'.Sublist entries) :
    Distinct (.table entries') :=
  .table (h.keys.sublist (hsub.map _)) fun _ he => h.of_mem (hsub.subset he)

theorem Reorders.filter {entries entries' : List (String × Value)}
    (h : Reorders (.table entries) (.table entries')) (p : String → Bool) :
    Reorders (.table (entries.filter fun e => p e.1)) (.table (entries'.filter fun e => p e.1)) := by
  generalize hv : Value.table entries = v at h
  generalize hw : Value.table entries' = w at h
  induction h generalizing entries entries' with
  | refl v =>
    obtain rfl := Value.table.inj (hv.trans hw.symm)
    exact .refl _
  | trans huv _ ihuv ihvw =>
    subst hv
    obtain ⟨mid, rfl, -⟩ := huv.of_table
    exact (ihuv rfl rfl).trans (ihvw rfl hw)
  | permuted hperm =>
    cases hv
    cases hw
    exact .permuted (hperm.filter _)
  | entry before after key h =>
    cases hv
    cases hw
    simp only [List.filter_append, List.filter_cons]
    cases p key with
    | true => exact .entry _ _ key h
    | false => exact .refl _
  | item => cases hv

end Value
end AccountRegistry.Settings
