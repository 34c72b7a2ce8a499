import Mathlib.Data.List.Basic
import AccountRegistry.Settings.Tree

set_option autoImplicit false

/-!
# Layers of plain keys

A key is plain if it names a child of the root and leads no further. A layer of
plain keys, no two of them alike, changes each child by its own entry alone: a
table is merged into what is there, and any other value takes its place.
-/
namespace AccountRegistry.Settings
open AccountRegistry.Text

/-- A key that leads to a child of the root and no further. -/
def IsPlain (key : String) : Prop := (Path.ofKey key).steps = []

theorem steps?_eq_nil {cs : List Char} (h : Path.steps? cs = some []) : cs = [] := by
  cases cs with
  | nil => rfl
  | cons c cs =>
    rw [Path.steps?] at h
    split at h
    · cases h
    · cases hs : Path.steps? _ with
      | none => rw [hs] at h; cases h
      | some steps => rw [hs] at h; cases h

theorem parse?_plain {key : String} {path : Path} (h : Path.parse? key = some path)
    (hs : path.steps = []) : path = ⟨key, []⟩ := by
  simp only [Path.parse?, Path.ident?, Option.bind_eq_bind, Option.pure_def,
    Option.bind_eq_some_iff, Option.ite_none_left_eq_some, Option.some.injEq] at h
  obtain ⟨⟨leading, rest⟩, ⟨-, hident⟩, steps, hsteps, rfl⟩ := h
  obtain ⟨rfl, rfl⟩ := Prod.mk.inj hident
  obtain rfl : steps = [] := hs
  have hdrop : key.toList.dropWhile Path.isIdentChar = [] := steps?_eq_nil hsteps
  have hall := List.takeWhile_append_dropWhile (p := Path.isIdentChar) (l := key.toList)
  rw [hdrop, List.append_nil] at hall
  rw [hall, String.ofList_toList]

theorem IsPlain.ofKey {key : String} (h : IsPlain key) : Path.ofKey key = ⟨key, []⟩ := by
  unfold IsPlain at h
  unfold Path.ofKey at h ⊢
  cases hp : Path.parse? key with
  | none => rfl
  | some path =>
    rw [hp] at h
    exact parse?_plain hp h

namespace Tree

@[simp] theorem child?_setChild_self (name : String) (new : Tree) (old : Option Tree) :
    child? name (some (setChild name new old)) = some new := by
  simp [child?, setChild]

theorem child?_setChild_other {name other : String} (new : Tree) (old : Option Tree)
    (h : other ≠ name) : child? other (some (setChild name new old)) = child? other old := by
  simp [child?, setChild, h]

def isTable : Tree → Bool
  | .table _ => true
  | _ => false

theorem isTable_mergeEntries (origin : Option String) (entries : List (String × Value)) {t : Tree}
    (h : t.isTable = true) : (mergeEntries origin entries t).isTable = true := by
  induction entries generalizing t with
  | nil => simpa [mergeEntries] using h
  | cons e entries ih =>
    rw [mergeEntries]
    exact ih rfl

theorem merge_empty (origin : Option String) (old : Option Tree) :
    merge origin (.table []) old = old.getD empty := by
  simp [merge, mergeEntries]

theorem isTable_merge (origin : Option String) (e : String × Value)
    (entries : List (String × Value)) (old : Option Tree) :
    (merge origin (.table (e :: entries)) old).isTable = true := by
  rw [merge, mergeEntries]
  exact isTable_mergeEntries origin entries rfl

end Tree

theorem placeAt?_plain {key : String} (h : IsPlain key) (origin : Option String) (v : Value)
    (t : Tree) : t.placeAt? origin (Path.ofKey key) v =
      some (Tree.setChild key (Tree.merge origin v (Tree.child? key (some t))) (some t)) := by
  rw [h.ofKey]
  rfl

/-- What a layer of plain keys, all different, makes of each child. -/
theorem applies_plain (l : Layer) (hplain : ∀ e ∈ l.entries, IsPlain e.1)
    (hkeys : (l.entries.map Prod.fst).Nodup) (t : Tree) :
    ∃ t', l.applied? t = some t' ∧ ∀ name,
      Tree.child? name (some t') = match l.entries.lookup name with
        | none => Tree.child? name (some t)
        | some v => some (Tree.merge l.origin v (Tree.child? name (some t))) := by
  obtain ⟨origin, entries⟩ := l
  dsimp only at hplain hkeys ⊢
  induction entries generalizing t with
  | nil => exact ⟨t, rfl, fun _ => rfl⟩
  | cons e entries ih =>
    obtain ⟨key, v⟩ := e
    rw [List.map_cons, List.nodup_cons] at hkeys
    let t₁ := Tree.setChild key (Tree.merge origin v (Tree.child? key (some t))) (some t)
    obtain ⟨t', happly, hchild⟩ := ih t₁ (fun e he => hplain e (List.mem_cons_of_mem _ he)) hkeys.2
    refine ⟨t', ?_, fun name => ?_⟩
    · simp only [Layer.applied?, List.foldlM_cons,
        placeAt?_plain (hplain (key, v) List.mem_cons_self) origin v t, Option.bind_eq_bind,
        Option.bind_some]
      exact happly
    · rw [hchild name, List.lookup_cons]
      by_cases hname : name = key
      · subst hname
        have hnone : entries.lookup name = none := by
          rw [List.lookup_eq_none_iff]
          intro e he
          simp only [bne_iff_ne, ne_eq]
          rintro rfl
          exact hkeys.1 (List.mem_map.2 ⟨e, he, rfl⟩)
        simp [hnone, t₁]
      · have hne : (name == key) = false := by simpa using hname
        simp only [hne, t₁, Tree.child?_setChild_other _ _ hname]

end AccountRegistry.Settings
