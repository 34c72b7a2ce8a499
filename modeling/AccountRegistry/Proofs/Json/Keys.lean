import AccountRegistry.Json.Document
import AccountRegistry.Proofs.Settings.Entries

set_option autoImplicit false

/-!
# Keys of a JSON document

No two members of an object that is read from a text have the same name.
-/
namespace AccountRegistry.Json
open AccountRegistry.Text
open AccountRegistry.Settings (Value)

theorem putMember_keys (name : String) (v : Value) (members : List (String × Value)) :
    (putMember name v members).map Prod.fst = members.map Prod.fst ∨
      name ∉ members.map Prod.fst ∧
        (putMember name v members).map Prod.fst = members.map Prod.fst ++ [name] := by
  induction members with
  | nil => exact .inr ⟨List.not_mem_nil, rfl⟩
  | cons m members ih =>
    obtain ⟨k, w⟩ := m
    rw [putMember]
    by_cases hk : k = name
    · rw [if_pos hk]
      exact .inl rfl
    · rw [if_neg hk]
      obtain hsame | ⟨hnew, hadded⟩ := ih
      · exact .inl (congrArg (k :: ·) hsame)
      · refine .inr ⟨?_, congrArg (k :: ·) hadded⟩
        simp only [List.map_cons, List.mem_cons, not_or]
        exact ⟨fun he => hk he.symm, hnew⟩

theorem putMember_nodup {name : String} {v : Value} {members : List (String × Value)}
    (hn : (members.map Prod.fst).Nodup) : ((putMember name v members).map Prod.fst).Nodup :=
  Settings.nodup_of_added (putMember_keys name v members) hn

theorem putMember_forall {P : Value → Prop} {name : String} {v : Value}
    {members : List (String × Value)} (hall : ∀ m ∈ members, P m.2) (hv : P v) :
    ∀ m ∈ putMember name v members, P m.2 := by
  induction members with
  | nil => exact List.forall_mem_singleton.2 hv
  | cons m members ih =>
    obtain ⟨hm, hmembers⟩ := List.forall_mem_cons.1 hall
    rw [putMember]
    split
    · exact List.forall_mem_cons.2 ⟨hv, hmembers⟩
    · exact List.forall_mem_cons.2 ⟨hm, ih hmembers⟩

theorem putMember_distinct {name : String} {v : Value} {members : List (String × Value)}
    (h : (Value.table members).Distinct) (hv : v.Distinct) :
    (Value.table (putMember name v members)).Distinct :=
  .table (putMember_nodup h.keys) (putMember_forall (fun _ hm => h.of_mem hm) hv)

theorem lastMembers_distinct {members : List (String × Value)} (h : ∀ m ∈ members, m.2.Distinct) :
    (Value.table (lastMembers members)).Distinct :=
  List.foldlRecOn (motive := fun done => (Value.table done).Distinct) members _
    .empty fun _ hdone m hm => putMember_distinct hdone (h m hm)

def Token.IsFlat (t : Token) : Prop := ∀ v, t = .value v → v = .null ∨ ∃ s, v = .scalar s

theorem Token.IsFlat.distinct {v : Value} (h : (Token.value v).IsFlat) : v.Distinct := by
  obtain rfl | ⟨s, rfl⟩ := h v rfl
  · exact .null
  · exact .scalar s

theorem markOf?_flat {c : Char} {t : Token} (h : markOf? c = some t) : t.IsFlat := by
  intro v
  rintro rfl
  unfold markOf? at h
  split at h <;> cases h

theorem wordOf?_flat {w : List Char} {v : Value} (h : wordOf? w = some v) :
    (Token.value v).IsFlat := by
  intro v' he
  cases he
  unfold wordOf? at h
  split at h
  · exact .inl (Option.some.inj h).symm
  · split at h
    · exact .inr ⟨_, (Option.some.inj h).symm⟩
    · split at h
      · exact .inr ⟨_, (Option.some.inj h).symm⟩
      · cases h

theorem number?_flat {negative : Bool} {cs : List Char} {t : Token} {r : Shorter cs}
    (h : number? negative cs = some (t, r)) : t.IsFlat := by
  simp only [number?, Option.bind_eq_bind, Option.bind_eq_some_iff, Option.pure_def,
    Option.some.injEq, Prod.mk.injEq] at h
  obtain ⟨_, _, s, -, rfl, -⟩ := h
  intro v he
  exact .inr ⟨s, (Token.value.inj he).symm⟩

theorem scan?_flat {cs : List Char} {t : Token} {r : Shorter cs} (h : scan? cs = some (t, r)) :
    t.IsFlat := by
  cases cs with
  | nil => cases h
  | cons c cs =>
    rw [scan?] at h
    split at h
    · next mark hmark =>
      cases h
      exact markOf?_flat hmark
    · split at h
      · obtain ⟨body, -, hb⟩ := Option.map_eq_some_iff.1 h
        cases hb
        intro v he
        cases he
      · split at h
        · obtain ⟨v, hv, hb⟩ := Option.map_eq_some_iff.1 h
          cases hb
          exact wordOf?_flat hv
        · split at h
          · obtain ⟨⟨t', r'⟩, hv, hb⟩ := Option.map_eq_some_iff.1 h
            cases hb
            exact number?_flat hv
          · exact number?_flat h

theorem tokens?_flat {cs : List Char} {ts : List Token} (h : tokens? cs = some ts) :
    ∀ t ∈ ts, t.IsFlat := by
  fun_induction tokens? cs generalizing ts with
  | case1 cs hblank =>
    cases h
    simp
  | case2 cs hblank hscan => cases h
  | case3 cs hblank t r hscan hlt ih =>
    obtain ⟨rest, hrest, rfl⟩ := Option.map_eq_some_iff.1 h
    rw [List.forall_mem_cons]
    exact ⟨scan?_flat hscan, ih hrest⟩

mutual

theorem value?_distinct {depth : Nat} {ts : List Token} {v : Value} {r : Shorter ts}
    (hflat : ∀ t ∈ ts, t.IsFlat) (h : value? depth ts = some (v, r)) :
    v.Distinct ∧ ∀ t ∈ r.val, t.IsFlat := by
  rw [value?.eq_def] at h
  split at h
  · cases h
    exact ⟨.scalar _, (List.forall_mem_cons.1 hflat).2⟩
  · cases h
    obtain ⟨hv, hts⟩ := List.forall_mem_cons.1 hflat
    exact ⟨hv.distinct, hts⟩
  · cases h
    simp only [List.forall_mem_cons] at hflat
    exact ⟨.array (List.forall_mem_nil _), hflat.2.2⟩
  · obtain ⟨⟨vs, r'⟩, hvs, hv⟩ := Option.map_eq_some_iff.1 h
    cases hv
    obtain ⟨hdistinct, hrest⟩ := items?_distinct (List.forall_mem_cons.1 hflat).2 hvs
    exact ⟨.array hdistinct, hrest⟩
  · cases h
    simp only [List.forall_mem_cons] at hflat
    exact ⟨.empty, hflat.2.2⟩
  · obtain ⟨⟨ms, r'⟩, hms, hv⟩ := Option.map_eq_some_iff.1 h
    cases hv
    obtain ⟨hdistinct, hrest⟩ := members?_distinct (List.forall_mem_cons.1 hflat).2 hms
    exact ⟨lastMembers_distinct hdistinct, hrest⟩
  · cases h
termination_by 2 * ts.length

theorem items?_distinct {depth : Nat} {ts : List Token} {vs : List Value} {r : Shorter ts}
    (hflat : ∀ t ∈ ts, t.IsFlat) (h : items? depth ts = some (vs, r)) :
    (∀ v ∈ vs, v.Distinct) ∧ ∀ t ∈ r.val, t.IsFlat := by
  rw [items?.eq_def] at h
  split at h
  · cases h
  · next v rest hv =>
    obtain ⟨hdistinct, hrest⟩ := value?_distinct hflat hv
    split at h
    · next more hmore =>
      obtain ⟨⟨vs', r'⟩, hvs, he⟩ := Option.map_eq_some_iff.1 h
      cases he
      rw [hmore] at hrest
      have hlt : more.length < ts.length := by
        have := rest.property
        rw [hmore, List.length_cons] at this
        omega
      obtain ⟨hvs, hend⟩ := items?_distinct (List.forall_mem_cons.1 hrest).2 hvs
      exact ⟨List.forall_mem_cons.2 ⟨hdistinct, hvs⟩, hend⟩
    · next more hmore =>
      cases h
      rw [hmore] at hrest
      exact ⟨List.forall_mem_singleton.2 hdistinct, (List.forall_mem_cons.1 hrest).2⟩
    · cases h
termination_by 2 * ts.length + 1

theorem members?_distinct {depth : Nat} {ts : List Token} {ms : List (String × Value)}
    {r : Shorter ts} (hflat : ∀ t ∈ ts, t.IsFlat) (h : members? depth ts = some (ms, r)) :
    (∀ m ∈ ms, m.2.Distinct) ∧ ∀ t ∈ r.val, t.IsFlat := by
  rw [members?.eq_def] at h
  split at h
  · next name ts =>
    simp only [List.forall_mem_cons] at hflat
    split at h
    · cases h
    · next v rest hv =>
      obtain ⟨hdistinct, hrest⟩ := value?_distinct hflat.2.2 hv
      split at h
      · next more hmore =>
        obtain ⟨⟨ms', r'⟩, hms, he⟩ := Option.map_eq_some_iff.1 h
        cases he
        rw [hmore] at hrest
        have hlt : more.length < ts.length := by
          have := rest.property
          rw [hmore, List.length_cons] at this
          omega
        obtain ⟨hms, hend⟩ := members?_distinct (List.forall_mem_cons.1 hrest).2 hms
        exact ⟨List.forall_mem_cons.2 ⟨hdistinct, hms⟩, hend⟩
      · next more hmore =>
        cases h
        rw [hmore] at hrest
        exact ⟨List.forall_mem_singleton.2 hdistinct, (List.forall_mem_cons.1 hrest).2⟩
      · cases h
  · cases h
termination_by 2 * ts.length
decreasing_by all_goals (subst_vars; simp only [List.length_cons]; omega)

end

theorem read?_distinct {text : String} {entries : List (String × Value)}
    (h : read? text = some entries) : (Value.table entries).Distinct := by
  obtain ⟨v, hv, rfl⟩ := Option.map_eq_some_iff.1 h
  cases v with
  | table entries =>
    rw [document?, Option.bind_eq_bind, Option.bind_eq_some_iff] at hv
    obtain ⟨ts, hts, hv⟩ := hv
    rw [Option.bind_eq_bind, Option.bind_eq_some_iff] at hv
    obtain ⟨⟨v, r⟩, hvalue, hv⟩ := hv
    rw [Option.bind_eq_bind, Option.bind_eq_some_iff] at hv
    obtain ⟨-, -, hv⟩ := hv
    cases hv
    exact (value?_distinct (tokens?_flat hts) hvalue).1
  | null => exact .empty
  | scalar s => exact .empty
  | array items => exact .empty

theorem read?_nodup {text : String} {entries : List (String × Value)}
    (h : read? text = some entries) : (entries.map Prod.fst).Nodup := (read?_distinct h).keys

end AccountRegistry.Json
