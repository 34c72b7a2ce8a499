import AccountRegistry.Proofs.Config.Choices
import AccountRegistry.Proofs.Demo.Outcome
import AccountRegistry.Proofs.Settings.Bounds

set_option autoImplicit false

/-!
# Reading that is not broken off

An index below zero breaks reading off, and so does one that asks for a list longer
than any address space. With variables that are text nothing else does, so far as
memory lasts for shorter lists: whatever the keys make of each other's places, of
the defaults and of other layers, and in whatever order, reading comes to a
configuration or to an error.
-/
namespace AccountRegistry.Config
open AccountRegistry.Settings (Value Tree Layer Path settle?)

def Ends (r : Except Fault Config) : Prop := (∃ c, r = .ok c) ∨ ∃ e, r = .error (.refused e)

theorem ends_iff {r : Except Fault Config} : Ends r ↔ r ≠ .error .aborted := by
  rcases r with (e | _) | c <;> simp [Ends]

theorem ends_mapError (r : Except ConfigError Config) : Ends (r.mapError .refused) := by
  cases r with
  | ok c => exact .inl ⟨c, rfl⟩
  | error e => exact .inr ⟨e, rfl⟩

theorem Judged.ends {t : Tree} {r : Except Fault Config} (h : Judged (some t) r) : Ends r := by
  cases h with
  | mistyped s e hs => exact .inr ⟨e, rfl⟩
  | read c hc => exact ends_mapError _

def NoneBelowZero (keys : List String) : Prop :=
  ∀ key ∈ keys, (Path.ofKey key).belowZero = false

/-- No list that the keys ask for is longer than an address space lets one be. -/
def Allocable (keys : List String) : Prop := ∀ key ∈ keys, (Path.ofKey key).allocable = true

instance (keys : List String) : Decidable (NoneBelowZero keys) :=
  inferInstanceAs (Decidable (∀ key ∈ keys, _))

instance (keys : List String) : Decidable (Allocable keys) :=
  inferInstanceAs (Decidable (∀ key ∈ keys, _))

structure InBounds (l : Layer) : Prop where
  aboveZero : NoneBelowZero (l.entries.map Prod.fst)
  allocable : Allocable (l.entries.map Prod.fst)

theorem inBounds_of_subset {keys : List String} {l : Layer} (hkeys : l.entries.map Prod.fst ⊆ keys)
    (hzero : NoneBelowZero keys) (hmax : Allocable keys) : InBounds l :=
  ⟨fun key hkey => hzero key (hkeys hkey), fun key hkey => hmax key (hkeys hkey)⟩

theorem inBounds_defaults : InBounds defaultLayer := by
  constructor <;> decide +kernel

theorem InBounds.rearranged {l m : Layer} (hl : InBounds l) (h : Rearranges l m) : InBounds m :=
  inBounds_of_subset h.keys.symm.subset hl.aboveZero hl.allocable

theorem InBounds.places {l : Layer} (hl : InBounds l) {e : String × Value} (he : e ∈ l.entries)
    (t : Tree) : (Tree.placeAt? l.origin (Path.ofKey e.1) e.2 t).isSome :=
  Tree.placeAt?_isSome (hl.aboveZero _ (List.mem_map_of_mem he))
    (hl.allocable _ (List.mem_map_of_mem he))

theorem InBounds.applies {l : Layer} (hl : InBounds l) (t : Tree) : (l.applied? t).isSome :=
  Settings.applied?_isSome (fun _ he => hl.aboveZero _ (List.mem_map_of_mem he))
    (fun _ he => hl.allocable _ (List.mem_map_of_mem he)) t

theorem forall_mem_of_forall₂ {α β : Type} {R : α → β → Prop} {P : α → Prop} {Q : β → Prop}
    {as : List α} {bs : List β} (h : List.Forall₂ R as bs) (has : ∀ a ∈ as, P a)
    (hstep : ∀ a b, P a → R a b → Q b) : ∀ b ∈ bs, Q b := by
  induction h with
  | nil => exact List.forall_mem_nil _
  | cons hab _ ih =>
    rw [List.forall_mem_cons] at has ⊢
    exact ⟨hstep _ _ has.1 hab, ih has.2⟩

/-- In whatever order their entries take effect, layers in bounds settle a tree. -/
theorem ends_of_inBounds {layers : List Layer} {r : Except Fault Config}
    (hlayers : ∀ l ∈ layers, InBounds l) (h : MayCome (.ok layers) r) : Ends r := by
  cases h with
  | settled harranged hr =>
    have hbefore : ∀ l ∈ defaultLayer :: layers, InBounds l :=
      List.forall_mem_cons.2 ⟨inBounds_defaults, hlayers⟩
    have hall := forall_mem_of_forall₂ harranged hbefore fun _ _ => InBounds.rearranged
    obtain ⟨t, ht⟩ := Option.isSome_iff_exists.1
      (Settings.settle?_isSome fun l hl => (hall l hl).applies)
    rw [ht] at hr
    exact hr.ends

theorem settle?_of_belowZero {origin : Option String} {key : String} (v : Value)
    (h : (Path.ofKey key).belowZero = true) :
    settle? [defaultLayer, ⟨origin, [(key, v)]⟩] = none := by
  obtain ⟨t, happly, hchild⟩ := Settings.applies_plain defaultLayer defaultLayer_plain
    defaultLayer_nodup Tree.empty
  -- the defaults are texts, so no path meets a list that was there before
  have hleaf : Tree.isLeaf (Tree.child? (Path.ofKey key).leading (some t)) = true := by
    rw [hchild]
    split
    · rfl
    · next v hv =>
      obtain ⟨_, _, hsplit, -⟩ := List.lookup_eq_some_iff.1 hv
      obtain ⟨s, -, he⟩ := List.mem_map.1 (hsplit ▸ List.mem_append_right _ List.mem_cons_self)
      obtain ⟨-, rfl⟩ := Prod.mk.inj he
      rfl
  have hplace : Layer.applied? ⟨origin, [(key, v)]⟩ t = none := by
    rw [Settings.applied_cons, Tree.placeAt?_of_belowZero hleaf h, Option.bind_none]
  simp only [settle?, List.foldlM_cons, happly, hplace, Option.bind_eq_bind, Option.bind_some,
    Option.bind_none]

section Reading
variable [Parsers]

theorem mayReadToml_ends {text : String} {r : Except Fault Config}
    (hzero : NoneBelowZero (keysOf .toml text)) (hmax : Allocable (keysOf .toml text))
    (h : MayReadToml text r) : Ends r := by
  unfold MayReadToml at h
  cases htext : textLayer .toml none text with
  | error fault =>
    rw [tomlSource, htext] at h
    cases h
    exact .inr ⟨_, congrArg Except.error (textLayer_of_error htext)⟩
  | ok l =>
    rw [tomlSource_of_ok htext] at h
    rw [← keys_textLayer htext] at hzero hmax
    exact ends_of_inBounds (List.forall_mem_singleton.2 ⟨hzero, hmax⟩) h

theorem mayLoad_ends {d : Directory} {choice : Option Format} {b : Block} {env : Environment}
    {r : Except Fault Config} (hb : b.variables? = some env)
    (hzero : NoneBelowZero (chosenKeys d choice ++ variableKeys env))
    (hmax : Allocable (chosenKeys d choice ++ variableKeys env))
    (h : MayCome (source d choice b) r) : Ends r := by
  cases hfile : chosenLayer d choice with
  | error fault =>
    rw [source, hfile] at h
    cases h
    obtain ⟨e, rfl⟩ := chosenLayer_of_error hfile
    exact .inr ⟨e, rfl⟩
  | ok l =>
    rw [source_of_ok hfile hb] at h
    refine ends_of_inBounds (List.forall_mem_cons.2 ⟨?_, List.forall_mem_singleton.2 ?_⟩) h
    · rw [← keys_chosenLayer hfile] at hzero hmax
      exact inBounds_of_subset (List.subset_append_left _ _) hzero hmax
    · exact inBounds_of_subset (List.subset_append_of_subset_right _ (keys_environmentLayer env))
        hzero hmax

theorem mayReadToml_of_belowZero {text key : String} {v : Value} {r : Except Fault Config}
    (hread : Toml.read? text = some [(key, v)]) (h : (Path.ofKey key).belowZero = true)
    (hr : MayReadToml text r) : r = .error .aborted := by
  have htext : textLayer .toml none text = .ok ⟨none, [(key, v)]⟩ := textLayer_of_parsed .toml hread
  have hlone : Orderly ⟨none, [(key, v)]⟩ := by
    refine ⟨textLayer_distinct htext, fun k hk l hl _ => ?_⟩
    exact (List.mem_singleton.1 hk).trans (List.mem_singleton.1 hl).symm
  rw [MayReadToml, tomlSource_of_ok htext] at hr
  cases hr with
  | settled harranged hjudged =>
    rw [← settle?_arranged harranged (List.forall_mem_singleton.2 hlone), settle?_of_belowZero v h]
      at hjudged
    cases hjudged
    rfl

/-- Reading ends, whichever way it goes, unless an index is below zero or a list is too long for any
address space, and the demo then writes its last line. A lone key with an index below zero breaks
reading off. The variables must be text, and the settings file in a format that is read here. -/
theorem only_below_zero_breaks_off :
    (∀ text : String, MayReadToml text (ofToml text)) ∧
    (∀ (d : Directory) (b : Block), MayLoad d b (loadFrom d b)) ∧
    (∀ (text : String) (r : Except Fault Config), NoneBelowZero (keysOf .toml text) →
      Allocable (keysOf .toml text) → MayReadToml text r → Ends r) ∧
    (∀ (d : Directory) (choice : Option Format) (b : Block) (env : Environment)
      (r : Except Fault Config), InKnownFormat d → Selects d choice → b.variables? = some env →
      NoneBelowZero (chosenKeys d choice ++ variableKeys env) →
      Allocable (chosenKeys d choice ++ variableKeys env) → MayCome (source d choice b) r →
        Ends r ∧ ∀ schedule : List Demo.Turn, (Demo.runOn r schedule).exit = 0 ∧
          (Demo.runOn r schedule).output.getLast? =
            some (Demo.usersLine (Demo.held (Demo.inForce r)).users)) ∧
    ∀ (text key : String) (v : Value) (r : Except Fault Config),
      Toml.read? text = some [(key, v)] → (Path.ofKey key).belowZero = true →
      MayReadToml text r → r = .error .aborted := by
  refine ⟨mayReadToml_ofToml, mayLoad_loadFrom, fun text r => mayReadToml_ends,
    fun d choice b env r _ _ hb hzero hmax h => ?_, fun text key v r => mayReadToml_of_belowZero⟩
  have hends := mayLoad_ends hb hzero hmax h
  refine ⟨hends, fun schedule => ?_⟩
  have hrun := Demo.completes_runOn (ends_iff.1 hends) schedule
  refine ⟨hrun.exit, ?_⟩
  rw [hrun.output, Demo.usersLine_held]
  rfl

end Reading

def clashingText : String := "'a.b'=1\n'a[0]'='x'\n'demo_secret[1].c'=2"

def clashingVariables : Environment :=
  [("USER_REGISTRY_A", "x"), ("USER_REGISTRY_DEMO_SECRET[2][0]", "y")]

theorem only_below_zero_breaks_off_clashing :
    let d := lone "registry.toml" clashingText
    let b := Block.ofText clashingVariables
    (NoneBelowZero (keysOf .toml clashingText) ∧ Allocable (keysOf .toml clashingText) ∧
      Ends (ofToml clashingText)) ∧
    (InKnownFormat d ∧ Selects d (some .toml) ∧ b.variables? = some clashingVariables ∧
      NoneBelowZero (chosenKeys d (some .toml) ++ variableKeys clashingVariables) ∧
      Allocable (chosenKeys d (some .toml) ++ variableKeys clashingVariables) ∧
      ∀ r, MayCome (source d (some .toml) b) r → Ends r ∧ (Demo.runOn r [.await]).exit = 0) ∧
    (Path.ofKey "a[1].b[-1]").belowZero = true ∧ ofToml "'a[1].b[-1]'=[]" = .error .aborted := by
  intro d b
  have hfile : chosenKeys d (some .toml) = keysOf .toml clashingText := chosenKeys_lone _
  have htext : NoneBelowZero (keysOf .toml clashingText) ∧
      Allocable (keysOf .toml clashingText) := by
    decide +kernel
  have hboth : NoneBelowZero (keysOf .toml clashingText ++ variableKeys clashingVariables) ∧
      Allocable (keysOf .toml clashingText ++ variableKeys clashingVariables) := by
    decide +kernel
  have hlone : Toml.read? "'a[1].b[-1]'=[]" = some [("a[1].b[-1]", .array [])] := by cbv
  have hzero : (Path.ofKey "a[1].b[-1]").belowZero = true := by decide +kernel
  have hb : b.variables? = some clashingVariables := Block.variables?_ofText _
  obtain ⟨hofToml, -, htoml, hload, hconverse⟩ := only_below_zero_breaks_off
  rw [hfile]
  refine ⟨⟨htext.1, htext.2, htoml _ _ htext.1 htext.2 (hofToml _)⟩,
    ⟨inKnownFormat_lone _, selects_lone _, hb, hboth.1, hboth.2, fun r hr => ?_⟩,
    hzero, hconverse _ _ _ _ hlone hzero (hofToml _)⟩
  obtain ⟨hends, hrun⟩ := hload d (some .toml) b clashingVariables r (inKnownFormat_lone _)
    (selects_lone _) hb (hfile ▸ hboth.1) (hfile ▸ hboth.2) hr
  exact ⟨hends, (hrun [.await]).1⟩

/-- A variable that is not text breaks reading off without any key, and so does a key whose list
would be longer than any address space. -/
theorem other_faults_break_off :
    let b : Block := [("LANG".toByteArray, ⟨#[0xff]⟩)]
    chosenKeys Directory.empty none = [] ∧ variableKeys b.legible = [] ∧
    loadFrom Directory.empty b = .error .aborted ∧
    keysOf .toml "\"other[9223372036854775807]\"=1" = ["other[9223372036854775807]"] ∧
    NoneBelowZero ["other[9223372036854775807]"] ∧
    ofToml "\"other[9223372036854775807]\"=1" = .error .aborted := by
  decide +kernel

end AccountRegistry.Config
