import AccountRegistry.Proofs.Settings.Entries
import AccountRegistry.Toml.Document

set_option autoImplicit false

/-!
# Keys of a TOML document

No two entries of a table of a document have the same key, whether the table was
made by headers, by keys of several parts or by curly brackets.
-/
namespace AccountRegistry.Toml
open AccountRegistry.Settings (Value)

theorem hasKey_eq_false {α : Type} {key : String} {entries : List (String × α)}
    (h : ¬ hasKey key entries = true) : key ∉ entries.map Prod.fst := by
  intro hmem
  obtain ⟨e, he, rfl⟩ := List.mem_map.1 hmem
  exact h (List.any_eq_true.2 ⟨e, he, by simp⟩)

theorem momentValue?_distinct {text : List Char} {v : Value} (h : momentValue? text = some v) :
    v.Distinct := by
  obtain ⟨d, -, rfl⟩ := Option.map_eq_some_iff.1 h
  exact .scalar _

theorem spelledMoment?_distinct {item : Item} {v : Value} (h : item.spelledMoment? = some v) :
    v.Distinct := by
  unfold Item.spelledMoment? at h
  split at h
  · exact momentValue?_distinct h
  · cases h

mutual

theorem Item.value?_distinct (item : Item) {v : Value} (h : item.value? = some v) :
    v.Distinct := by
  match item with
  | .scalar s =>
    rw [Item.value?, Option.some.injEq] at h
    exact h ▸ .scalar s
  | .moment text =>
    rw [Item.value?] at h
    exact momentValue?_distinct h
  | .array items =>
    rw [Item.value?] at h
    obtain ⟨vs, hvs, rfl⟩ := Option.map_eq_some_iff.1 h
    exact .array (valuesOf?_distinct items hvs)
  | .table _ [] =>
    rw [Item.value?, Option.some.injEq] at h
    exact h ▸ .empty
  | .table _ ((key, first) :: rest) =>
    rw [Item.value?] at h
    split at h
    · exact spelledMoment?_distinct h
    · obtain ⟨vs, hvs, rfl⟩ := Option.map_eq_some_iff.1 h
      exact entriesOf?_distinct ((key, first) :: rest) hvs

theorem valuesOf?_distinct (items : List Item) {vs : List Value} (h : valuesOf? items = some vs) :
    ∀ v ∈ vs, v.Distinct := by
  match items with
  | [] =>
    rw [valuesOf?, Option.some.injEq] at h
    exact h ▸ List.forall_mem_nil _
  | item :: items =>
    simp only [valuesOf?, Option.bind_eq_bind, Option.bind_eq_some_iff, Option.pure_def,
      Option.some.injEq] at h
    obtain ⟨v, hv, vs, hvs, rfl⟩ := h
    exact List.forall_mem_cons.2 ⟨item.value?_distinct hv, valuesOf?_distinct items hvs⟩

theorem entriesOf?_distinct (items : Items) {entries : List (String × Value)}
    (h : entriesOf? items = some entries) : (Value.table entries).Distinct := by
  match items with
  | [] =>
    rw [entriesOf?, Option.some.injEq] at h
    exact h ▸ .empty
  | (key, item) :: items =>
    simp only [entriesOf?, Option.bind_eq_bind, Option.bind_eq_some_iff,
      Option.ite_none_left_eq_some, Option.some.injEq] at h
    obtain ⟨v, hv, vs, hvs, hkey, rfl⟩ := h
    have hrest := entriesOf?_distinct items hvs
    refine .table ?_ (List.forall_mem_cons.2 ⟨item.value?_distinct hv, fun e he => hrest.of_mem he⟩)
    rw [List.map_cons, List.nodup_cons]
    exact ⟨hasKey_eq_false hkey, hrest.keys⟩

end

theorem adjust?_keys {α : Type} {key : String} {f : Option α → Option α}
    {entries entries' : List (String × α)} (h : adjust? key f entries = some entries') :
    entries'.map Prod.fst = entries.map Prod.fst ∨
      key ∉ entries.map Prod.fst ∧ entries'.map Prod.fst = entries.map Prod.fst ++ [key] := by
  induction entries generalizing entries' with
  | nil =>
    obtain ⟨a, -, rfl⟩ := Option.map_eq_some_iff.1 h
    exact .inr ⟨List.not_mem_nil, rfl⟩
  | cons e entries ih =>
    obtain ⟨k, a⟩ := e
    rw [adjust?] at h
    by_cases hk : k = key
    · rw [if_pos hk] at h
      obtain ⟨b, -, rfl⟩ := Option.map_eq_some_iff.1 h
      exact .inl rfl
    · rw [if_neg hk] at h
      obtain ⟨rest, hrest, rfl⟩ := Option.map_eq_some_iff.1 h
      obtain hsame | ⟨hnew, hadded⟩ := ih hrest
      · exact .inl (congrArg (k :: ·) hsame)
      · refine .inr ⟨?_, congrArg (k :: ·) hadded⟩
        simp only [List.map_cons, List.mem_cons, not_or]
        exact ⟨fun he => hk he.symm, hnew⟩

theorem adjust?_nodup {α : Type} {key : String} {f : Option α → Option α}
    {entries entries' : List (String × α)} (h : adjust? key f entries = some entries')
    (hn : (entries.map Prod.fst).Nodup) : (entries'.map Prod.fst).Nodup :=
  Settings.nodup_of_added (adjust?_keys h) hn

theorem adjust?_forall {α : Type} {P : α → Prop} {key : String} {f : Option α → Option α}
    {entries entries' : List (String × α)} (h : adjust? key f entries = some entries')
    (hall : ∀ e ∈ entries, P e.2)
    (hf : ∀ old new, (∀ a, old = some a → P a) → f old = some new → P new) :
    ∀ e ∈ entries', P e.2 := by
  induction entries generalizing entries' with
  | nil =>
    obtain ⟨a, ha, rfl⟩ := Option.map_eq_some_iff.1 h
    exact List.forall_mem_singleton.2 (hf none a (fun _ he => nomatch he) ha)
  | cons e entries ih =>
    obtain ⟨k, a⟩ := e
    obtain ⟨ha, hentries⟩ := List.forall_mem_cons.1 hall
    rw [adjust?] at h
    by_cases hk : k = key
    · rw [if_pos hk] at h
      obtain ⟨b, hb, rfl⟩ := Option.map_eq_some_iff.1 h
      have hnew : P b := hf (some a) b (fun a' he => Option.some.inj he ▸ ha) hb
      exact List.forall_mem_cons.2 ⟨hnew, hentries⟩
    · rw [if_neg hk] at h
      obtain ⟨rest, hrest, rfl⟩ := Option.map_eq_some_iff.1 h
      exact List.forall_mem_cons.2 ⟨ha, ih hrest hentries⟩

theorem entriesValue_eq_map (nodes : Nodes) :
    entriesValue nodes = nodes.map fun (k, n) => (k, n.value) := by
  induction nodes with
  | nil => rw [entriesValue, List.map_nil]
  | cons e nodes ih => rw [entriesValue, ih, List.map_cons]

theorem elementsValue_eq_map (elements : List Node) :
    elementsValue elements = elements.map Node.value := by
  induction elements with
  | nil => rw [elementsValue, List.map_nil]
  | cons n elements ih => rw [elementsValue, ih, List.map_cons]

def Nodes.Distinct (nodes : Nodes) : Prop := (Value.table (entriesValue nodes)).Distinct

theorem Nodes.distinct_iff (nodes : Nodes) :
    nodes.Distinct ↔ (nodes.map Prod.fst).Nodup ∧ ∀ e ∈ nodes, e.2.value.Distinct := by
  have hkeys : (entriesValue nodes).map Prod.fst = nodes.map Prod.fst := by
    rw [entriesValue_eq_map, List.map_map]
    rfl
  unfold Nodes.Distinct
  rw [← hkeys]
  constructor
  · intro h
    refine ⟨h.keys, fun e he => ?_⟩
    rw [entriesValue_eq_map] at h
    exact h.of_mem (List.mem_map_of_mem he)
  · rintro ⟨hkeys, hnodes⟩
    refine .table hkeys fun e he => ?_
    rw [entriesValue_eq_map] at he
    obtain ⟨n, hn, rfl⟩ := List.mem_map.1 he
    exact hnodes n hn

theorem Nodes.distinct_nil : Nodes.Distinct [] := by
  rw [Nodes.distinct_iff]
  exact ⟨List.nodup_nil, List.forall_mem_nil _⟩

theorem Node.distinct_table (headed : Bool) (nodes : Nodes) :
    (Node.table headed nodes).value.Distinct ↔ nodes.Distinct := by
  rw [Node.value]
  rfl

theorem Node.distinct_tables (elements : List Node) :
    (Node.tables elements).value.Distinct ↔ ∀ n ∈ elements, n.value.Distinct := by
  rw [Node.value, elementsValue_eq_map]
  constructor
  · exact fun h n hn => h.of_mem_array (List.mem_map_of_mem hn)
  · refine fun h => .array fun v hv => ?_
    obtain ⟨n, hn, rfl⟩ := List.mem_map.1 hv
    exact h n hn

/-- Entries that are added to a table must have keys which it has not. -/
theorem Nodes.Distinct.append {nodes : Nodes} {entries : List (String × Value)}
    (hn : nodes.Distinct) (hentries : (Value.table entries).Distinct)
    (hnew : List.Disjoint (nodes.map Prod.fst) (entries.map Prod.fst)) :
    Nodes.Distinct (nodes ++ entries.map fun (k, v) => (k, .leaf v)) := by
  rw [Nodes.distinct_iff] at hn ⊢
  have hkeys : (entries.map fun (k, v) => (k, Node.leaf v)).map Prod.fst =
      entries.map Prod.fst := by
    rw [List.map_map]
    rfl
  rw [List.map_append, hkeys, List.forall_mem_append]
  refine ⟨hn.1.append hentries.keys hnew, hn.2, fun e he => ?_⟩
  obtain ⟨⟨k, v⟩, hmem, rfl⟩ := List.mem_map.1 he
  rw [Node.value]
  exact hentries.of_mem hmem

theorem ofItems?_distinct {items : Items} {node : Node} (h : Node.ofItems? items = some node) :
    node.value.Distinct := by
  unfold Node.ofItems? at h
  split at h
  · next entries hv =>
    cases h
    rw [Node.distinct_table]
    exact Nodes.distinct_nil.append (Item.value?_distinct _ hv) (List.disjoint_nil_left _)
  · next v _ hv =>
    cases h
    rw [Node.value]
    exact Item.value?_distinct _ hv
  · cases h

theorem fill?_distinct {items : Items} {nodes : Nodes} {node : Node}
    (h : Nodes.fill? items nodes = some node) (hn : nodes.Distinct) : node.value.Distinct := by
  simp only [Nodes.fill?, Option.bind_eq_bind, Option.bind_eq_some_iff,
    Option.ite_none_left_eq_some, Option.some.injEq] at h
  obtain ⟨entries, hentries, hkeys, rfl⟩ := h
  rw [Node.distinct_table]
  refine hn.append (entriesOf?_distinct items hentries) fun k hk hk' => ?_
  obtain ⟨e, he, rfl⟩ := List.mem_map.1 hk'
  refine hasKey_eq_false (fun hkey => ?_) hk
  exact hkeys (List.any_eq_true.2 ⟨e, he, hkey⟩)

theorem adjust?_distinct {key : String} {f : Option Node → Option Node} {nodes nodes' : Nodes}
    (h : adjust? key f nodes = some nodes') (hn : nodes.Distinct)
    (hf : ∀ old new, (∀ n, old = some n → n.value.Distinct) → f old = some new →
      new.value.Distinct) : nodes'.Distinct := by
  rw [Nodes.distinct_iff] at hn ⊢
  exact ⟨adjust?_nodup h hn.1, adjust?_forall (P := fun n => n.value.Distinct) h hn.2 hf⟩

theorem open?_distinct {repeated : Bool} {items : Items} {key : List String}
    {nodes nodes' : Nodes} (h : Nodes.open? repeated items key nodes = some nodes')
    (hn : nodes.Distinct) : nodes'.Distinct := by
  induction key generalizing nodes nodes' with
  | nil => simp [Nodes.open?] at h
  | cons key keys ih =>
    cases keys with
    | nil =>
      rw [Nodes.open?, Option.ite_none_left_eq_some] at h
      refine adjust?_distinct h.2 hn fun old new hold hnew => ?_
      split at hnew
      · obtain ⟨t, ht, rfl⟩ := Option.map_eq_some_iff.1 hnew
        split
        · rw [Node.distinct_tables]
          exact List.forall_mem_singleton.2 (ofItems?_distinct ht)
        · exact ofItems?_distinct ht
      · next inner =>
        rw [Option.ite_none_left_eq_some] at hnew
        exact fill?_distinct hnew.2 ((Node.distinct_table _ _).1 (hold _ rfl))
      · next elements =>
        rw [Option.ite_none_right_eq_some] at hnew
        obtain ⟨t, ht, rfl⟩ := Option.map_eq_some_iff.1 hnew.2
        have helements := (Node.distinct_tables elements).1 (hold _ rfl)
        rw [Node.distinct_tables, List.forall_mem_append]
        exact ⟨helements, List.forall_mem_singleton.2 (ofItems?_distinct ht)⟩
      · cases hnew
    | cons next keys =>
      rw [Nodes.open?, Option.ite_none_left_eq_some] at h
      refine adjust?_distinct h.2 hn fun old new hold hnew => ?_
      split at hnew
      · obtain ⟨t, ht, rfl⟩ := Option.map_eq_some_iff.1 hnew
        rw [Node.distinct_table]
        exact ih ht Nodes.distinct_nil
      · next headed inner =>
        obtain ⟨t, ht, rfl⟩ := Option.map_eq_some_iff.1 hnew
        rw [Node.distinct_table]
        exact ih ht ((Node.distinct_table _ _).1 (hold _ rfl))
      · next elements =>
        -- a header goes on in the last table of a list, which then takes its own place again
        have helements := (Node.distinct_tables elements).1 (hold _ rfl)
        split at hnew
        · next headed inner hlast =>
          obtain ⟨t, ht, rfl⟩ := Option.map_eq_some_iff.1 hnew
          have hinner := helements _ (List.mem_of_getLast? hlast)
          rw [Node.distinct_tables, List.forall_mem_append, List.forall_mem_singleton,
            Node.distinct_table]
          exact ⟨fun n hn => helements n (List.dropLast_subset elements hn),
            ih ht ((Node.distinct_table _ _).1 hinner)⟩
        · cases hnew
      · cases hnew

theorem sections_distinct {sections : List Section} {nodes nodes' : Nodes}
    (h : sections.foldlM (fun nodes s => Nodes.open? s.repeated s.items s.key nodes) nodes =
      some nodes') (hn : nodes.Distinct) : nodes'.Distinct := by
  induction sections generalizing nodes with
  | nil =>
    cases h
    exact hn
  | cons s sections ih =>
    rw [List.foldlM_cons, Option.bind_eq_bind, Option.bind_eq_some_iff] at h
    obtain ⟨mid, hmid, hrest⟩ := h
    exact ih hrest (open?_distinct hmid hn)

theorem documentValue?_distinct {items : Items} {sections : List Section} {v : Value}
    (h : documentValue? items sections = some v) : v.Distinct := by
  rw [documentValue?, Option.bind_eq_bind, Option.bind_eq_some_iff] at h
  obtain ⟨node, hnode, h⟩ := h
  have hdistinct := ofItems?_distinct hnode
  split at h
  · simp only [Option.bind_eq_bind, Option.bind_eq_some_iff, Option.pure_def,
      Option.some.injEq] at h
    obtain ⟨nodes, hnodes, rfl⟩ := h
    exact sections_distinct hnodes ((Node.distinct_table _ _).1 hdistinct)
  · cases h
    exact hdistinct

theorem read?_distinct {text : String} {entries : List (String × Value)}
    (h : read? text = some entries) : (Value.table entries).Distinct := by
  obtain ⟨v, hv, rfl⟩ := Option.map_eq_some_iff.1 h
  cases v with
  | table entries =>
    simp only [value?, Option.bind_eq_bind, Option.bind_eq_some_iff] at hv
    obtain ⟨_, _, _, _, _, _, _, _, hdocument⟩ := hv
    exact documentValue?_distinct hdocument
  | null => exact .empty
  | scalar s => exact .empty
  | array items => exact .empty

theorem read?_nodup {text : String} {entries : List (String × Value)}
    (h : read? text = some entries) : (entries.map Prod.fst).Nodup := (read?_distinct h).keys

end AccountRegistry.Toml
