import AccountRegistry.Proofs.Settings.Order

set_option autoImplicit false

/-!
# Indices in bounds

A place can be given a value whatever the tree is, as long as no index of its
path counts from the end of a list and every list on the way can be allocated.
An index that is too large always fails. An index below zero fails where the
path makes the list itself, which then has no items to count.
-/
namespace AccountRegistry.Settings

def Step.belowZero : Step → Bool
  | .child _ => false
  | .element index => index < 0

def Step.allocable : Step → Bool
  | .child _ => true
  | .element index => index < Tree.maxLength

def Path.belowZero (p : Path) : Bool := p.steps.any Step.belowZero

def Path.allocable (p : Path) : Bool := p.steps.all Step.allocable

namespace Tree

theorem position?_isSome {index : Int} (length : Nat) (h : ¬ index < 0) (hmax : index < maxLength) :
    (position? length index).isSome := by
  have hnat : index.toNat < maxLength := by omega
  simp only [position?, if_pos (Int.not_lt.1 h), if_pos hnat, Option.isSome_some]

theorem position?_of_long {index : Int} (length : Nat) (h : ¬ index < maxLength) :
    position? length index = none := by
  have hpos : 0 ≤ index := by omega
  have hnat : ¬ index.toNat < maxLength := by omega
  simp only [position?, if_pos hpos, if_neg hnat]

theorem position?_zero_of_neg {index : Int} (h : index < 0) : position? 0 index = none := by
  have hneg : ¬ 0 ≤ index := by omega
  have habs : ¬ index.natAbs ≤ 0 := by omega
  simp only [position?, if_neg hneg, if_neg habs]

section Places
variable {origin : Option String} {v : Value} {steps : List Step} {old : Option Tree}

theorem place?_isSome (hzero : steps.any Step.belowZero = false)
    (hmax : steps.all Step.allocable = true) : (place? origin v steps old).isSome := by
  fun_induction place? origin v steps old with
  | case1 old => rfl
  | case2 name steps old ih =>
    simp only [List.any_cons, List.all_cons, Step.belowZero, Step.allocable, Bool.false_or,
      Bool.true_and] at hzero hmax
    rw [Option.isSome_map]
    exact ih hzero hmax
  | case3 index old =>
    simp only [List.any_cons, List.all_cons, List.any_nil, List.all_nil, Step.belowZero,
      Step.allocable, Bool.or_false, Bool.and_true, decide_eq_false_iff_not,
      decide_eq_true_eq] at hzero hmax
    rw [Option.isSome_map]
    exact position?_isSome _ hzero hmax
  | case4 index steps old hsteps ih =>
    simp only [List.any_cons, List.all_cons, Step.belowZero, Step.allocable, Bool.or_eq_false_iff,
      Bool.and_eq_true, decide_eq_false_iff_not, decide_eq_true_eq] at hzero hmax
    obtain ⟨i, hi⟩ := Option.isSome_iff_exists.1 (position?_isSome (elements old).1 hzero.1 hmax.1)
    rw [hi, Option.bind_some, Option.isSome_map]
    exact ih i hzero.2 hmax.2

theorem place?_of_not_allocable (h : steps.all Step.allocable = false) :
    place? origin v steps old = none := by
  fun_induction place? origin v steps old with
  | case1 old => simp at h
  | case2 name steps old ih =>
    rw [ih (by simpa [Step.allocable] using h), Option.map_none]
  | case3 index old =>
    rw [position?_of_long _ (by simpa [Step.allocable] using h), Option.map_none]
  | case4 index steps old hsteps ih =>
    by_cases hindex : index < maxLength
    · have hrest : steps.all Step.allocable = false := by
        simpa [Step.allocable, hindex] using h
      cases position? (elements old).1 index with
      | none => rfl
      | some i => rw [Option.bind_some, ih i hrest, Option.map_none]
    · rw [position?_of_long _ hindex, Option.bind_none]

def isLeaf : Option Tree → Bool
  | some (.array _ _ _) | some (.table _) => false
  | _ => true

theorem child?_of_isLeaf (h : isLeaf old = true) (name : String) : child? name old = none := by
  rcases old with _ | ⟨s⟩ | ⟨o⟩ | ⟨n, item, o⟩ | child <;> first | rfl | cases h

theorem elements_of_isLeaf (h : isLeaf old = true) :
    elements old = (0, fun _ => .null none, none) := by
  rcases old with _ | ⟨s⟩ | ⟨o⟩ | ⟨n, item, o⟩ | child <;> first | rfl | cases h

/-- From a leaf on, a path meets no list that it has not made. -/
theorem place?_of_belowZero (hleaf : isLeaf old = true) (h : steps.any Step.belowZero = true) :
    place? origin v steps old = none := by
  fun_induction place? origin v steps old with
  | case1 old => simp at h
  | case2 name steps old ih =>
    rw [child?_of_isLeaf hleaf] at ih ⊢
    rw [ih rfl (by simpa [Step.belowZero] using h), Option.map_none]
  | case3 index old =>
    rw [elements_of_isLeaf hleaf,
      position?_zero_of_neg (by simpa [Step.belowZero] using h), Option.map_none]
  | case4 index steps old hsteps ih =>
    rw [elements_of_isLeaf hleaf] at ih ⊢
    by_cases hindex : index < 0
    · rw [position?_zero_of_neg hindex, Option.bind_none]
    · have hrest : steps.any Step.belowZero = true := by simpa [Step.belowZero, hindex] using h
      cases position? 0 index with
      | none => rfl
      | some i => rw [Option.bind_some, ih i rfl hrest, Option.map_none]

variable {path : Path} {t : Tree}

theorem placeAt?_isSome (hzero : path.belowZero = false) (hmax : path.allocable = true) :
    (placeAt? origin path v t).isSome := by
  rw [placeAt?_eq, Option.isSome_map]
  exact place?_isSome hzero hmax

theorem placeAt?_of_not_allocable (h : path.allocable = false) :
    placeAt? origin path v t = none := by
  rw [placeAt?_eq, place?_of_not_allocable h, Option.map_none]

theorem placeAt?_of_belowZero (hleaf : isLeaf (child? path.leading (some t)) = true)
    (h : path.belowZero = true) : placeAt? origin path v t = none := by
  rw [placeAt?_eq, place?_of_belowZero hleaf h, Option.map_none]

end Places
end Tree

section Folding
variable {α β : Type} {f : β → α → Option β} {xs : List α}

theorem foldlM_isSome (h : ∀ x ∈ xs, ∀ b, (f b x).isSome) (b : β) : (xs.foldlM f b).isSome := by
  induction xs generalizing b with
  | nil => rfl
  | cons x xs ih =>
    obtain ⟨b', hb⟩ := Option.isSome_iff_exists.1 (h x List.mem_cons_self b)
    rw [List.foldlM_cons, hb]
    exact ih (fun y hy => h y (List.mem_cons_of_mem _ hy)) b'

theorem foldlM_eq_none {x : α} (hx : x ∈ xs) (h : ∀ b, f b x = none) (b : β) :
    xs.foldlM f b = none := by
  induction xs generalizing b with
  | nil => cases hx
  | cons y xs ih =>
    rw [List.foldlM_cons]
    rcases List.mem_cons.1 hx with rfl | hx
    · rw [h b]
      rfl
    · cases f b y with
      | none => rfl
      | some b' => exact ih hx b'

end Folding

section Layers
variable {l : Layer} {layers : List Layer}

theorem applied?_isSome (hzero : ∀ e ∈ l.entries, (Path.ofKey e.1).belowZero = false)
    (hmax : ∀ e ∈ l.entries, (Path.ofKey e.1).allocable = true) (t : Tree) :
    (l.applied? t).isSome :=
  foldlM_isSome (fun e he _ => Tree.placeAt?_isSome (hzero e he) (hmax e he)) t

theorem applied?_of_not_allocable {e : String × Value} (he : e ∈ l.entries)
    (h : (Path.ofKey e.1).allocable = false) (t : Tree) : l.applied? t = none :=
  foldlM_eq_none he (fun _ => Tree.placeAt?_of_not_allocable h) t

theorem settle?_isSome (h : ∀ l ∈ layers, ∀ t, (l.applied? t).isSome) : (settle? layers).isSome :=
  foldlM_isSome h Tree.empty

theorem settle?_of_not_allocable (hl : l ∈ layers) {e : String × Value} (he : e ∈ l.entries)
    (h : (Path.ofKey e.1).allocable = false) : settle? layers = none :=
  foldlM_eq_none hl (applied?_of_not_allocable he h) Tree.empty

end Layers
end AccountRegistry.Settings
