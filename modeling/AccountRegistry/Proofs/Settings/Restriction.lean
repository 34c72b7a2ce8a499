import AccountRegistry.Proofs.Settings.Order

set_option autoImplicit false

/-!
# Some children of the root

Restricting a tree to children of some names commutes with giving a value to a
place below one of them, and undoes giving a value to any other place. So what
layers make of those children is made by the entries that lead through them, if
the others do not fail.
-/
namespace AccountRegistry.Settings

variable {names : List String}

namespace Tree

def restricted (names : List String) (t : Tree) : Tree :=
  .table fun name => if name ∈ names then child? name (some t) else none

@[simp] theorem restricted_empty : restricted names empty = empty := by
  simp [restricted, empty, child?]

theorem child?_restricted {name : String} (h : name ∈ names) (t : Tree) :
    child? name (some (restricted names t)) = child? name (some t) := by
  simp [restricted, child?, h]

theorem restricted_setChild_of_mem {name : String} (h : name ∈ names) (new t : Tree) :
    restricted names (setChild name new (some t)) =
      setChild name new (some (restricted names t)) := by
  simp only [restricted, setChild, table.injEq]
  funext n
  by_cases hn : n = name
  · simp [child?, hn, h]
  · simp [child?, hn]

theorem restricted_setChild_of_not_mem {name : String} (h : name ∉ names) (new t : Tree) :
    restricted names (setChild name new (some t)) = restricted names t := by
  simp only [restricted, table.injEq]
  funext n
  by_cases hn : n = name
  · simp [hn, h]
  · rw [child?_setChild_other _ _ hn]

section Places
variable {origin : Option String} {path : Path} {v : Value} {t : Tree}

theorem placeAt?_restricted (h : path.leading ∈ names) :
    (placeAt? origin path v t).map (restricted names) =
      placeAt? origin path v (restricted names t) := by
  rw [placeAt?_eq, placeAt?_eq, child?_restricted h, Option.map_map]
  congr 1
  funext new
  exact restricted_setChild_of_mem h new t

theorem restricted_placeAt? {t' : Tree} (h : path.leading ∉ names)
    (hplace : placeAt? origin path v t = some t') : restricted names t' = restricted names t := by
  rw [placeAt?_eq] at hplace
  obtain ⟨new, -, rfl⟩ := Option.map_eq_some_iff.1 hplace
  exact restricted_setChild_of_not_mem h new t

end Places
end Tree

def leadsInto (names : List String) (key : String) : Bool := (Path.ofKey key).leading ∈ names

def Layer.restricted (names : List String) (l : Layer) : Layer :=
  { l with entries := l.entries.filter fun e => leadsInto names e.1 }

theorem applied?_restricted {l : Layer}
    (h : ∀ e ∈ l.entries, leadsInto names e.1 = false →
      ∀ t, (Tree.placeAt? l.origin (Path.ofKey e.1) e.2 t).isSome) (t : Tree) :
    (l.applied? t).map (Tree.restricted names) =
      Layer.applied? (l.restricted names) (t.restricted names) := by
  obtain ⟨origin, entries⟩ := l
  simp only [Layer.restricted] at h ⊢
  induction entries generalizing t with
  | nil => rfl
  | cons e entries ih =>
    have hrest := fun t => ih t fun f hf => h f (List.mem_cons_of_mem _ hf)
    rw [applied_cons, List.filter_cons]
    by_cases hlead : leadsInto names e.1 = true
    · rw [if_pos hlead, applied_cons, ← Tree.placeAt?_restricted (of_decide_eq_true hlead)]
      cases t.placeAt? origin (Path.ofKey e.1) e.2 with
      | none => rfl
      | some t' => exact hrest t'
    · have hout := Bool.eq_false_iff.2 hlead
      obtain ⟨t', ht⟩ := Option.isSome_iff_exists.1 (h e List.mem_cons_self hout t)
      rw [if_neg hlead, ht, Option.bind_some, hrest t',
        Tree.restricted_placeAt? (of_decide_eq_false hout) ht]

theorem settle?_restricted {layers : List Layer}
    (h : ∀ l ∈ layers, ∀ e ∈ l.entries, leadsInto names e.1 = false →
      ∀ t, (Tree.placeAt? l.origin (Path.ofKey e.1) e.2 t).isSome) :
    (settle? layers).map (Tree.restricted names) =
      settle? (layers.map (Layer.restricted names)) :=
  settle?_map Tree.restricted_empty fun l hl => applied?_restricted (h l hl)

end AccountRegistry.Settings
