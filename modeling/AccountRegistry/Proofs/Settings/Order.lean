import AccountRegistry.Proofs.Settings.Entries
import AccountRegistry.Proofs.Settings.Layering

set_option autoImplicit false

/-!
# The order of entries

Which of two entries takes effect first does not matter to the tree if they lead
through different children of the root. So a layer whose keys lead apart may be
applied in any order, and so may the entries of the tables in it.
-/
namespace AccountRegistry.Settings

namespace Tree

theorem setChild_comm {name other : String} (h : name ≠ other) (a b : Tree) (old : Option Tree) :
    setChild other b (some (setChild name a old)) =
      setChild name a (some (setChild other b old)) := by
  unfold setChild
  congr 1
  funext n
  by_cases hn : n = name
  · have hother : n ≠ other := fun he => h (hn.symm.trans he)
    simp only [child?, if_pos hn, if_neg hother]
  · by_cases hother : n = other
    · simp only [child?, if_pos hother, if_neg hn]
    · simp only [child?, if_neg hn, if_neg hother]

theorem childOf_perm {origin : Option String} {entries entries' : List (String × Value)}
    (h : entries.Perm entries') (hkeys : (entries.map Prod.fst).Nodup) (name : String) :
    childOf origin entries name = childOf origin entries' name := by
  induction h with
  | nil => rfl
  | cons e _ ih =>
    rw [List.map_cons, List.nodup_cons] at hkeys
    rw [childOf, childOf, ih hkeys.2]
  | swap e f entries =>
    simp only [List.map_cons, List.nodup_cons, List.mem_cons, not_or] at hkeys
    simp only [childOf]
    by_cases he : e.1 = name
    · have hf : f.1 ≠ name := fun hf => hkeys.1.1 (hf.trans he.symm)
      simp only [if_pos he, if_neg hf]
    · simp only [if_neg he]
  | trans h _ ih ih' => exact (ih hkeys).trans (ih' ((h.map Prod.fst).nodup hkeys))

theorem mergeEntries_eq_foldl (origin : Option String) (entries : List (String × Value))
    (t : Tree) : mergeEntries origin entries t =
      entries.foldl (fun t e => setChild e.1 (merge origin e.2 (child? e.1 (some t))) (some t))
        t := by
  induction entries generalizing t with
  | nil => rw [mergeEntries, List.foldl_nil]
  | cons e entries ih => rw [mergeEntries, List.foldl_cons, ih]

theorem mergeEntries_perm {origin : Option String} {entries entries' : List (String × Value)}
    (h : entries.Perm entries') (hkeys : (entries.map Prod.fst).Nodup) (t : Tree) :
    mergeEntries origin entries t = mergeEntries origin entries' t := by
  rw [mergeEntries_eq_foldl, mergeEntries_eq_foldl]
  refine h.foldl_eq' (fun e he f hf t => ?_) t
  by_cases hkey : e.1 = f.1
  · rw [List.inj_on_of_nodup_map hkeys he hf hkey]
  · rw [child?_setChild_other _ _ (Ne.symm hkey), child?_setChild_other _ _ hkey]
    exact setChild_comm hkey _ _ _

end Tree

/-- Two values make the same trees, from nothing and out of what was there. -/
def Value.Alike (v w : Value) : Prop :=
  ∀ origin, Tree.ofValue origin v = Tree.ofValue origin w ∧
    ∀ old, Tree.merge origin v old = Tree.merge origin w old

theorem childOf_replaced {v w : Value} (h : v.Alike w) (origin : Option String)
    (before after : List (String × Value)) (key : String) :
    Tree.childOf origin (before ++ (key, v) :: after) =
      Tree.childOf origin (before ++ (key, w) :: after) := by
  funext name
  induction before with
  | nil => rw [List.nil_append, List.nil_append, Tree.childOf, Tree.childOf, (h origin).1]
  | cons e before ih => rw [List.cons_append, List.cons_append, Tree.childOf, Tree.childOf, ih]

theorem itemOf_replaced {v w : Value} (h : v.Alike w) (origin : Option String)
    (before after : List Value) :
    Tree.itemOf origin (before ++ v :: after) = Tree.itemOf origin (before ++ w :: after) := by
  funext i
  induction before generalizing i with
  | nil =>
    cases i with
    | zero => rw [List.nil_append, List.nil_append, Tree.itemOf, Tree.itemOf, (h origin).1]
    | succ i => rw [List.nil_append, List.nil_append, Tree.itemOf, Tree.itemOf]
  | cons u before ih =>
    cases i with
    | zero => rw [List.cons_append, List.cons_append, Tree.itemOf, Tree.itemOf]
    | succ i => rw [List.cons_append, List.cons_append, Tree.itemOf, Tree.itemOf, ih]

theorem ofValue_replaced {v w : Value} (h : v.Alike w) (origin : Option String)
    (before after : List Value) : Tree.ofValue origin (.array (before ++ v :: after)) =
      Tree.ofValue origin (.array (before ++ w :: after)) := by
  simp only [Tree.ofValue, itemOf_replaced h, List.length_append, List.length_cons]

theorem mergeEntries_replaced {v w : Value} (h : v.Alike w) (origin : Option String)
    (before after : List (String × Value)) (key : String) (t : Tree) :
    Tree.mergeEntries origin (before ++ (key, v) :: after) t =
      Tree.mergeEntries origin (before ++ (key, w) :: after) t := by
  simp only [Tree.mergeEntries_eq_foldl, List.foldl_append, List.foldl_cons, (h origin).2]

theorem Value.Reorders.alike {v w : Value} (h : v.Reorders w) (hv : v.Distinct) : v.Alike w := by
  induction h with
  | refl v => exact fun _ => ⟨rfl, fun _ => rfl⟩
  | trans huv _ ihuv ihvw =>
    intro origin
    obtain ⟨hvalue, hmerge⟩ := ihuv hv origin
    obtain ⟨hvalue', hmerge'⟩ := ihvw (huv.distinct hv) origin
    exact ⟨hvalue.trans hvalue', fun old => (hmerge old).trans (hmerge' old)⟩
  | permuted hperm =>
    refine fun origin => ⟨?_, fun old => ?_⟩
    · rw [Tree.ofValue, Tree.ofValue, funext (Tree.childOf_perm hperm hv.keys)]
    · rw [Tree.merge, Tree.merge, Tree.mergeEntries_perm hperm hv.keys]
  | entry before after key _ ih =>
    have halike := ih (hv.of_mem (List.mem_append_right _ List.mem_cons_self))
    refine fun origin => ⟨?_, fun old => ?_⟩
    · rw [Tree.ofValue, Tree.ofValue, childOf_replaced halike]
    · rw [Tree.merge, Tree.merge, mergeEntries_replaced halike]
  | item before after _ ih =>
    have halike := ih (hv.of_mem_array (List.mem_append_right _ List.mem_cons_self))
    refine fun origin => ⟨ofValue_replaced halike origin before after, fun old => ?_⟩
    rw [Tree.merge, Tree.merge, ofValue_replaced halike]

namespace Tree

variable {origin : Option String}

theorem place?_alike {v w : Value} (h : v.Alike w) (steps : List Step) (old : Option Tree) :
    place? origin v steps old = place? origin w steps old := by
  fun_induction place? origin v steps old with
  | case1 old => rw [place?, (h origin).2]
  | case2 name steps old ih => rw [place?, ih]
  | case3 index old => rw [place?, (h origin).1]
  | case4 index steps old hsteps ih =>
    rw [place?]
    · simp only [ih]
    · exact hsteps

theorem placeAt?_eq (path : Path) (v : Value) (t : Tree) : placeAt? origin path v t =
    (place? origin v path.steps (child? path.leading (some t))).map fun new =>
      setChild path.leading new (some t) := by
  rw [placeAt?, place?]

/-- Values under different children of the root take effect in either order, or fail in both. -/
theorem placeAt?_comm {p q : Path} (h : p.leading ≠ q.leading) (v w : Value) (t : Tree) :
    (placeAt? origin p v t).bind (placeAt? origin q w) =
      (placeAt? origin q w t).bind (placeAt? origin p v) := by
  rw [placeAt?_eq, placeAt?_eq]
  cases hp : place? origin v p.steps (child? p.leading (some t)) with
  | none =>
    cases hq : place? origin w q.steps (child? q.leading (some t)) with
    | none => rfl
    | some b =>
      simp only [Option.map_none, Option.bind_none, Option.map_some, Option.bind_some, placeAt?_eq,
        child?_setChild_other _ _ h, hp]
  | some a =>
    cases hq : place? origin w q.steps (child? q.leading (some t)) with
    | none =>
      simp only [Option.map_none, Option.bind_none, Option.map_some, Option.bind_some, placeAt?_eq,
        child?_setChild_other _ _ (Ne.symm h), hq]
    | some b =>
      simp only [Option.map_some, Option.bind_some, placeAt?_eq, child?_setChild_other _ _ h,
        child?_setChild_other _ _ (Ne.symm h), hp, hq, setChild_comm h]

end Tree

/-- Different keys lead through different children of the root. -/
def LeadApart (keys : List String) : Prop :=
  ∀ k ∈ keys, ∀ l ∈ keys, (Path.ofKey k).leading = (Path.ofKey l).leading → k = l

instance (keys : List String) : Decidable (LeadApart keys) :=
  inferInstanceAs (Decidable (∀ k ∈ keys, ∀ l ∈ keys, _ → k = l))

theorem LeadApart.of_subset {keys keys' : List String} (h : LeadApart keys)
    (hsub : keys' ⊆ keys) : LeadApart keys' :=
  fun k hk l hl => h k (hsub hk) l (hsub hl)

section Applying

variable {origin : Option String} {entries entries' : List (String × Value)}

theorem applied_cons (e : String × Value) (t : Tree) :
    Layer.applied? ⟨origin, e :: entries⟩ t =
      (t.placeAt? origin (Path.ofKey e.1) e.2).bind (Layer.applied? ⟨origin, entries⟩) := by
  simp only [Layer.applied?, List.foldlM_cons]
  rfl

theorem applied_perm (h : entries.Perm entries') (hkeys : (entries.map Prod.fst).Nodup)
    (hapart : LeadApart (entries.map Prod.fst)) (t : Tree) :
    Layer.applied? ⟨origin, entries⟩ t = Layer.applied? ⟨origin, entries'⟩ t := by
  simp only [Layer.applied?, List.foldlM_eq_foldl]
  refine h.foldl_eq' (fun e he f hf t => ?_) _
  cases t with
  | none => rfl
  | some t =>
    by_cases hkey : e.1 = f.1
    · rw [List.inj_on_of_nodup_map hkeys he hf hkey]
    · have hlead : (Path.ofKey e.1).leading ≠ (Path.ofKey f.1).leading := fun hlead =>
        hkey (hapart _ (List.mem_map_of_mem he) _ (List.mem_map_of_mem hf) hlead)
      exact Tree.placeAt?_comm hlead e.2 f.2 t

theorem applied_replaced {v w : Value} (h : v.Alike w) (before after : List (String × Value))
    (key : String) (t : Tree) :
    Layer.applied? ⟨origin, before ++ (key, v) :: after⟩ t =
      Layer.applied? ⟨origin, before ++ (key, w) :: after⟩ t := by
  induction before generalizing t with
  | nil =>
    rw [List.nil_append, List.nil_append, applied_cons, applied_cons, Tree.placeAt?_eq,
      Tree.placeAt?_eq, Tree.place?_alike h]
  | cons e before ih =>
    rw [List.cons_append, List.cons_append, applied_cons, applied_cons, funext ih]

/-- The entries of a layer whose keys lead apart, and those of the tables in it, take effect in any
order. -/
theorem applied_reorders (h : (Value.table entries).Reorders (.table entries'))
    (hdistinct : (Value.table entries).Distinct) (hapart : LeadApart (entries.map Prod.fst))
    (t : Tree) : Layer.applied? ⟨origin, entries⟩ t = Layer.applied? ⟨origin, entries'⟩ t := by
  generalize hv : Value.table entries = v at h hdistinct
  generalize hw : Value.table entries' = w at h
  induction h generalizing entries entries' with
  | refl v =>
    obtain rfl := Value.table.inj (hv.trans hw.symm)
    rfl
  | trans huv _ ihuv ihvw =>
    subst hv
    obtain ⟨mid, rfl, hkeys⟩ := huv.of_table
    have hmid := hapart.of_subset hkeys.symm.subset
    exact (ihuv hapart rfl hdistinct rfl).trans (ihvw hmid rfl (huv.distinct hdistinct) hw)
  | permuted hperm =>
    cases hv
    cases hw
    exact applied_perm hperm hdistinct.keys hapart t
  | entry before after key h =>
    cases hv
    cases hw
    have hentry := hdistinct.of_mem (List.mem_append_right _ List.mem_cons_self)
    exact applied_replaced (h.alike hentry) before after key t
  | item => cases hv

end Applying

theorem foldlM_keeps {α β : Type} {f : β → α → Option β} {P : β → Prop}
    (hstep : ∀ b x b', P b → f b x = some b' → P b') {xs : List α} {b b' : β} (hb : P b)
    (h : xs.foldlM f b = some b') : P b' := by
  induction xs generalizing b with
  | nil =>
    cases h
    exact hb
  | cons x xs ih =>
    rw [List.foldlM_cons] at h
    obtain ⟨mid, hmid, hrest⟩ := Option.bind_eq_some_iff.1 h
    exact ih (hstep b x mid hb hmid) hrest

theorem Tree.child?_isSome_placeAt? {origin : Option String} {path : Path} {v : Value}
    {t t' : Tree} {name : String} (hname : (child? name (some t)).isSome)
    (h : placeAt? origin path v t = some t') : (child? name (some t')).isSome := by
  rw [placeAt?_eq] at h
  obtain ⟨new, -, rfl⟩ := Option.map_eq_some_iff.1 h
  by_cases he : name = path.leading
  · rw [he, child?_setChild_self]
    rfl
  · rwa [child?_setChild_other _ _ he]

theorem child?_isSome_layers {layers : List Layer} {t t' : Tree} {name : String}
    (hname : (Tree.child? name (some t)).isSome)
    (h : layers.foldlM (fun t l => l.applied? t) t = some t') :
    (Tree.child? name (some t')).isSome := by
  refine foldlM_keeps (P := fun t => (Tree.child? name (some t)).isSome) ?_ hname h
  intro t l t' ht happly
  refine foldlM_keeps (P := fun t => (Tree.child? name (some t)).isSome) ?_ ht happly
  exact fun t e t' ht hplace => Tree.child?_isSome_placeAt? ht hplace

theorem foldlM_follows {α β γ : Type} {f : β → α → Option β} {f' : γ → α → Option γ} {φ : β → γ}
    {xs : List α} (h : ∀ x ∈ xs, ∀ b, (f b x).map φ = f' (φ b) x) (b : β) :
    (xs.foldlM f b).map φ = xs.foldlM f' (φ b) := by
  induction xs generalizing b with
  | nil => rfl
  | cons x xs ih =>
    rw [List.foldlM_cons, List.foldlM_cons, ← h x List.mem_cons_self b]
    cases f b x with
    | none => rfl
    | some b' => exact ih (fun y hy => h y (List.mem_cons_of_mem _ hy)) b'

theorem settle?_congr {layers layers' : List Layer}
    (h : List.Forall₂ (fun l m => ∀ t, l.applied? t = m.applied? t) layers layers') :
    settle? layers = settle? layers' := by
  unfold settle?
  generalize Tree.empty = t
  induction h generalizing t with
  | nil => rfl
  | cons hl _ ih => simp only [List.foldlM_cons, hl, ih]

theorem settle?_map {φ : Tree → Tree} {g : Layer → Layer} {layers : List Layer}
    (hempty : φ Tree.empty = Tree.empty)
    (h : ∀ l ∈ layers, ∀ t, (l.applied? t).map φ = Layer.applied? (g l) (φ t)) :
    (settle? layers).map φ = settle? (layers.map g) := by
  unfold settle?
  rw [List.foldlM_map]
  conv_rhs => rw [← hempty]
  exact foldlM_follows h Tree.empty

end AccountRegistry.Settings
