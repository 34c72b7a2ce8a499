import AccountRegistry.Proofs.Settings.Order

set_option autoImplicit false

/-!
# Where settings come from

Lists and nulls remember their origin, but nothing that is done to a tree looks
at it. Layers whose origins are renamed settle the same tree with the origins
renamed.
-/
namespace AccountRegistry.Settings
namespace Tree

mutual

def renamed (f : Option String → Option String) : Tree → Tree
  | .text s => .text s
  | .null origin => .null (f origin)
  | .array length item origin => .array length (fun i => renamed f (item i)) (f origin)
  | .table child => .table fun name => renamedChild f (child name)

def renamedChild (f : Option String → Option String) : Option Tree → Option Tree
  | none => none
  | some t => some (renamed f t)

end

section Renaming
variable {f : Option String → Option String}

theorem renamedChild_eq_map (old : Option Tree) : renamedChild f old = old.map (renamed f) := by
  cases old <;> rfl

@[simp] theorem renamed_empty : renamed f empty = empty := rfl

theorem child?_renamed (name : String) (old : Option Tree) :
    child? name (old.map (renamed f)) = (child? name old).map (renamed f) := by
  rcases old with _ | ⟨s⟩ | ⟨o⟩ | ⟨n, item, o⟩ | child
  case some.table => exact renamedChild_eq_map (child name)
  all_goals rfl

theorem renamed_setChild (name : String) (new : Tree) (old : Option Tree) :
    renamed f (setChild name new old) = setChild name (renamed f new) (old.map (renamed f)) := by
  simp only [setChild, renamed, renamedChild_eq_map]
  congr 1
  funext n
  split
  · rfl
  · rw [child?_renamed]

/-- What a path makes itself is of no origin, and has to stay so. -/
theorem elements_renamed (hf : f none = none) (old : Option Tree) :
    elements (old.map (renamed f)) =
      ((elements old).1, fun i => renamed f ((elements old).2.1 i), f (elements old).2.2) := by
  rcases old with _ | ⟨s⟩ | ⟨o⟩ | ⟨n, item, o⟩ | child
  case some.array => rfl
  all_goals simp [elements, renamed, hf]

theorem setItem_eq (i : Nat) (new : Tree) (old : Option Tree) :
    setItem i new old = .array (max (elements old).1 (i + 1))
      (fun j => if j = i then new else (elements old).2.1 j) (elements old).2.2 := rfl

theorem renamed_setItem (hf : f none = none) (i : Nat) (new : Tree) (old : Option Tree) :
    renamed f (setItem i new old) = setItem i (renamed f new) (old.map (renamed f)) := by
  simp only [setItem_eq, renamed, elements_renamed hf]
  congr 1
  funext j
  split <;> rfl

mutual

theorem renamed_ofValue (hf : f none = none) (origin : Option String) (v : Value) :
    renamed f (ofValue origin v) = ofValue (f origin) v := by
  match v with
  | .null => rfl
  | .scalar s => rfl
  | .array items => rw [ofValue, renamed, ofValue, funext (renamed_itemOf hf origin items)]
  | .table entries => rw [ofValue, renamed, ofValue, funext (renamed_childOf hf origin entries)]

theorem renamed_itemOf (hf : f none = none) (origin : Option String) (items : List Value)
    (i : Nat) : renamed f (itemOf origin items i) = itemOf (f origin) items i := by
  match items, i with
  | [], _ => rw [itemOf, itemOf, renamed, hf]
  | v :: _, 0 => rw [itemOf, itemOf, renamed_ofValue hf origin v]
  | _ :: vs, i + 1 => rw [itemOf, itemOf, renamed_itemOf hf origin vs i]

theorem renamed_childOf (hf : f none = none) (origin : Option String)
    (entries : List (String × Value)) (name : String) :
    renamedChild f (childOf origin entries name) = childOf (f origin) entries name := by
  match entries with
  | [] => rfl
  | (k, v) :: rest =>
    rw [childOf, childOf]
    split
    · rw [renamedChild, renamed_ofValue hf origin v]
    · exact renamed_childOf hf origin rest name

end

mutual

theorem renamed_merge (hf : f none = none) (origin : Option String) (v : Value)
    (old : Option Tree) :
    renamed f (merge origin v old) = merge (f origin) v (old.map (renamed f)) := by
  match v with
  | .null => exact renamed_ofValue hf origin .null
  | .scalar s => exact renamed_ofValue hf origin (.scalar s)
  | .array items => exact renamed_ofValue hf origin (.array items)
  | .table entries =>
    rw [merge, merge, renamed_mergeEntries hf origin entries]
    cases old <;> rfl

theorem renamed_mergeEntries (hf : f none = none) (origin : Option String)
    (entries : List (String × Value)) (t : Tree) :
    renamed f (mergeEntries origin entries t) = mergeEntries (f origin) entries (renamed f t) := by
  match entries with
  | [] => rw [mergeEntries, mergeEntries]
  | (k, v) :: rest =>
    rw [mergeEntries, mergeEntries, renamed_mergeEntries hf origin rest, renamed_setChild,
      renamed_merge hf origin v, ← child?_renamed, Option.map_some]

end

theorem place?_renamed (hf : f none = none) (origin : Option String) (v : Value)
    (steps : List Step) (old : Option Tree) : (place? origin v steps old).map (renamed f) =
      place? (f origin) v steps (old.map (renamed f)) := by
  fun_induction place? origin v steps old with
  | case1 old => rw [place?, Option.map_some, renamed_merge hf]
  | case2 name steps old ih =>
    rw [place?, child?_renamed, ← ih, Option.map_map, Option.map_map]
    congr 1
    funext t
    exact renamed_setChild name t old
  | case3 index old =>
    rw [place?, elements_renamed hf, Option.map_map]
    congr 1
    funext i
    rw [Function.comp_apply, renamed_setItem hf, renamed_ofValue hf]
  | case4 index steps old hsteps ih =>
    rw [place?.eq_4 _ _ _ _ _ hsteps, elements_renamed hf]
    cases position? (elements old).1 index with
    | none => rfl
    | some i =>
      have hitem := ih i
      rw [Option.map_some] at hitem
      simp only [Option.bind_some, ← hitem, Option.map_map]
      congr 1
      funext t
      exact renamed_setItem hf i t old

theorem placeAt?_renamed (hf : f none = none) (origin : Option String) (path : Path) (v : Value)
    (t : Tree) : (placeAt? origin path v t).map (renamed f) =
      placeAt? (f origin) path v (renamed f t) :=
  place?_renamed hf origin v _ (some t)

end Renaming
end Tree

def Layer.renamed (f : Option String → Option String) (l : Layer) : Layer :=
  { l with origin := f l.origin }

theorem settle?_renamed {f : Option String → Option String} (hf : f none = none)
    (layers : List Layer) :
    (settle? layers).map (Tree.renamed f) = settle? (layers.map (Layer.renamed f)) :=
  settle?_map Tree.renamed_empty fun l _ t =>
    foldlM_follows (fun e _ t => Tree.placeAt?_renamed hf l.origin (Path.ofKey e.1) e.2 t) t

end AccountRegistry.Settings
