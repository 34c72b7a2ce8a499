import AccountRegistry.Proofs.Config.Bounds
import AccountRegistry.Proofs.Settings.Restriction

set_option autoImplicit false

/-!
# What has no part in the configuration

A configuration is made of the settings file, of the variables that are settings
and of nothing else in a directory or an environment. Of those, the keys that
lead through no setting have no part in it either, whatever they make of each
other, so long as none of them breaks reading off.
-/
namespace AccountRegistry.Config
open AccountRegistry.Settings (Value Tree Layer Path LeadApart leadsInto settle?)

/-- Two ways of reading that may come to the same, and no more than one thing but for the choice
among several settings that are wrong. -/
structure SameOutcomes (may may' : Except Fault Config → Prop) : Prop where
  some : ∃ r, may r
  same : ∀ r, may r ↔ may' r
  unique : ∀ r r', may r → may' r' → UpToChoice Eq r r'

/-- The same settings files with the same texts, and the same texts for the keys that variables
set. -/
structure SameSources (d d' : Directory) (env env' : Environment) : Prop where
  bare : d.isFile fileName = d'.isFile fileName
  files : ∀ f : Format, d.isFile f.fileName = d'.isFile f.fileName
  texts : ∀ f : Format, d.text? f.fileName = d'.text? f.fileName
  settings : (environmentLayer env).entries.Perm (environmentLayer env').entries

def Decided (d : Directory) : Prop :=
  ∀ choice choice', Selects d choice → Selects d choice' → choice = choice'

section Sources
variable {d d' : Directory} {env env' : Environment} {b b' : Block}

theorem SameSources.symm (h : SameSources d d' env env') : SameSources d' d env' env :=
  ⟨h.bare.symm, fun f => (h.files f).symm, fun f => (h.texts f).symm, h.settings.symm⟩

theorem SameSources.selects (h : SameSources d d' env env') {choice : Option Format}
    (hchoice : Selects d choice) : Selects d' choice := by
  cases hchoice with
  | file f hbare hf => exact .file f (h.bare ▸ hbare) (h.files f ▸ hf)
  | none hnone => exact .none (hnone.imp (h.bare ▸ ·) fun hnone f => h.files f ▸ hnone f)

variable [Parsers]

theorem SameSources.chosenLayer (h : SameSources d d' env env') (choice : Option Format) :
    chosenLayer d' choice = chosenLayer d choice := by
  simp only [Config.chosenLayer, h.texts]

theorem SameSources.mayLoad (h : SameSources d d' env env') (hb : b.variables? = some env)
    (hb' : b'.variables? = some env') {r : Except Fault Config} (hr : MayLoad d b r) :
    MayLoad d' b' r := by
  obtain ⟨choice, hchoice, hr⟩ := hr
  refine ⟨choice, h.selects hchoice, ?_⟩
  cases hfile : Config.chosenLayer d choice with
  | error fault =>
    rw [source, hfile] at hr
    rw [source, h.chosenLayer, hfile]
    exact hr
  | ok l =>
    rw [source_of_ok hfile hb] at hr
    rw [source_of_ok ((h.chosenLayer choice).trans hfile) hb']
    cases hr with
    | settled harranged hr =>
      rcases harranged with _ | ⟨hm, _ | ⟨hl, _ | ⟨henv, _ | _⟩⟩⟩
      have henv' := Value.Reorders.trans (.permuted h.settings.symm) henv.entries
      exact .settled (.cons hm (.cons hl (.cons ⟨henv.origin, henv'⟩ .nil))) hr

theorem orderly_chosen {choice : Option Format} {l : Layer} (h : chosenLayer d choice = .ok l)
    (hapart : LeadApart (chosenKeys d choice)) : Orderly l := by
  refine ⟨?_, (keys_chosenLayer h).symm ▸ hapart⟩
  unfold chosenLayer at h
  split at h
  · exact textLayer_distinct h
  · cases h
    exact .empty

theorem source_unique {choice : Option Format} (hb : b.variables? = some env)
    (hfile : LeadApart (chosenKeys d choice))
    (henv : LeadApart ((environmentLayer env).entries.map Prod.fst)) {r r' : Except Fault Config}
    (hr : MayCome (source d choice b) r) (hr' : MayCome (source d choice b) r') :
    UpToChoice Eq r r' := by
  cases hl : chosenLayer d choice with
  | error fault =>
    rw [source, hl] at hr hr'
    cases hr
    cases hr'
    exact .related rfl
  | ok l =>
    rw [source_of_ok hl hb] at hr hr'
    have horderly : ∀ l' ∈ [l, environmentLayer env], Orderly l' := List.forall_mem_cons.2
      ⟨orderly_chosen hl hfile, List.forall_mem_singleton.2 (orderly_environment henv)⟩
    exact mayCome_unique horderly hr hr'

theorem SameSources.sameOutcomes (h : SameSources d d' env env') (hb : b.variables? = some env)
    (hb' : b'.variables? = some env') (hone : Decided d)
    (hfile : ∀ choice, Selects d choice → LeadApart (chosenKeys d choice))
    (henv : LeadApart ((environmentLayer env).entries.map Prod.fst)) :
    SameOutcomes (MayLoad d b) (MayLoad d' b') where
  some := ⟨_, mayLoad_loadFrom d b⟩
  same _ := ⟨h.mayLoad hb hb', h.symm.mayLoad hb' hb⟩
  unique r r' hr hr' := by
    obtain ⟨choice, hchoice, hr⟩ := hr
    obtain ⟨choice', hchoice', hr'⟩ := h.symm.mayLoad hb' hb hr'
    obtain rfl := hone _ _ hchoice hchoice'
    exact source_unique hb (hfile choice hchoice) henv hr hr'

end Sources

def settingKeys : List String :=
  [Setting.credentialSuffix, .demoUsername, .demoSecret].map Setting.key

theorem settingText_restricted (t : Tree) (s : Setting) :
    settingText (t.restricted settingKeys) s = settingText t s := by
  have hkey : s.key ∈ settingKeys := by
    cases s <;> simp [settingKeys]
  unfold settingText
  rw [Tree.child?_restricted hkey]

theorem judged_restricted {ot : Option Tree} {r : Except Fault Config} :
    Judged (ot.map (Tree.restricted settingKeys)) r ↔ Judged ot r := by
  cases ot with
  | none => exact Iff.rfl
  | some t =>
    constructor
    · intro h
      cases h with
      | mistyped s e hs => exact .mistyped s e (settingText_restricted t s ▸ hs)
      | read c hc => exact .read c fun s => settingText_restricted t s ▸ hc s
    · intro h
      cases h with
      | mistyped s e hs => exact .mistyped s e ((settingText_restricted t s).trans hs)
      | read c hc => exact .read c fun s => (settingText_restricted t s).trans (hc s)

/-- A key that leads through no setting, and can be set wherever it leads. -/
structure Unrelated (key : String) : Prop where
  elsewhere : leadsInto settingKeys key = false
  aboveZero : (Path.ofKey key).belowZero = false
  allocable : (Path.ofKey key).allocable = true

/-- The same entries and unrelated ones, in any order. -/
structure Extends (l m : Layer) : Prop where
  origin : m.origin = l.origin
  entries : ∃ extra, (Value.table (l.entries ++ extra)).Reorders (.table m.entries) ∧
    ∀ e ∈ extra, Unrelated e.1

section Extending
variable {l m n : Layer}

theorem Rearranges.extends (h : Rearranges l m) : Extends l m where
  origin := h.origin
  entries := ⟨[], (List.append_nil l.entries).symm ▸ h.entries, List.forall_mem_nil _⟩

theorem Extends.rearranged (h : Extends l m) (h' : Rearranges m n) : Extends l n := by
  obtain ⟨extra, hentries, hextra⟩ := h.entries
  exact ⟨h'.origin.trans h.origin, extra, hentries.trans h'.entries, hextra⟩

theorem Extends.keys (h : Extends l m) : ∃ extra : List String,
    (l.entries.map Prod.fst ++ extra).Perm (m.entries.map Prod.fst) ∧
      ∀ key ∈ extra, Unrelated key := by
  obtain ⟨extra, hentries, hextra⟩ := h.entries
  obtain ⟨entries, hsame, hkeys⟩ := hentries.of_table
  rw [List.map_append, ← Value.table.inj hsame] at hkeys
  exact ⟨_, hkeys, List.forall_mem_map.2 hextra⟩

theorem Extends.inBounds (h : Extends l m) (hl : InBounds l) : InBounds m := by
  obtain ⟨extra, hkeys, hextra⟩ := h.keys
  refine inBounds_of_subset hkeys.symm.subset ?_ ?_
  · exact List.forall_mem_append.2 ⟨hl.aboveZero, fun key hkey => (hextra key hkey).aboveZero⟩
  · exact List.forall_mem_append.2 ⟨hl.allocable, fun key hkey => (hextra key hkey).allocable⟩

theorem Extends.allocable (h : Extends l m) (hm : Allocable (m.entries.map Prod.fst)) :
    Allocable (l.entries.map Prod.fst) := by
  obtain ⟨extra, hkeys, -⟩ := h.keys
  exact fun key hkey => hm key (hkeys.subset (List.mem_append_left _ hkey))

theorem Extends.restricted (h : Extends l m) :
    Rearranges (l.restricted settingKeys) (m.restricted settingKeys) := by
  obtain ⟨extra, hentries, hextra⟩ := h.entries
  have hnone : extra.filter (fun e => leadsInto settingKeys e.1) = [] :=
    List.filter_eq_nil_iff.2 fun e he => by simp [(hextra e he).elsewhere]
  have hfilter := hentries.filter (leadsInto settingKeys)
  rw [List.filter_append, hnone, List.append_nil] at hfilter
  exact ⟨h.origin, hfilter⟩

theorem Orderly.restricted (h : Orderly l) : Orderly (l.restricted settingKeys) where
  distinct := h.distinct.of_sublist List.filter_sublist
  apart := h.apart.of_subset (List.filter_sublist.map _).subset

end Extending

theorem unsettled_of_not_allocable {layers : List Layer}
    (h : ¬ ∀ l ∈ layers, Allocable (l.entries.map Prod.fst)) : settle? layers = none := by
  simp only [Allocable, List.mem_map, forall_exists_index, and_imp, forall_apply_eq_imp_iff₂,
    not_forall, Bool.not_eq_true] at h
  obtain ⟨l, hl, e, he, hlong⟩ := h
  exact Settings.settle?_of_not_allocable hl he hlong

section Layers
variable {layers more : List Layer} (hmore : List.Forall₂ Extends layers more)
include hmore

theorem extends_rearranged {arranged : List Layer} (h : List.Forall₂ Rearranges more arranged) :
    List.Forall₂ Extends layers arranged := by
  induction hmore generalizing arranged with
  | nil =>
    cases h
    exact .nil
  | cons hl _ ih =>
    cases h with
    | cons hm hrest => exact .cons (hl.rearranged hm) (ih hrest)

theorem settle?_extends (horderly : ∀ l ∈ layers, Orderly l)
    (hzero : ∀ l ∈ layers, NoneBelowZero (l.entries.map Prod.fst)) :
    (settle? more).map (Tree.restricted settingKeys) =
      (settle? layers).map (Tree.restricted settingKeys) := by
  by_cases hmax : ∀ l ∈ layers, Allocable (l.entries.map Prod.fst)
  · have hlayers : ∀ l ∈ layers, InBounds l := fun l hl => ⟨hzero l hl, hmax l hl⟩
    have hall := forall_mem_of_forall₂ hmore hlayers fun _ _ hl hm => Extends.inBounds hm hl
    rw [Settings.settle?_restricted fun l hl e he _ => (hall l hl).places he,
      Settings.settle?_restricted fun l hl e he _ => (hlayers l hl).places he]
    refine (Settings.settle?_congr ?_).symm
    rw [List.forall₂_map_left_iff, List.forall₂_map_right_iff]
    exact ((List.forall₂_and_left _ _).2 ⟨horderly, hmore⟩).imp fun l m hlm =>
      hlm.1.restricted.applied hlm.2.restricted
  · -- a list that is too long is asked for on both sides
    have hmax' : ¬ ∀ m ∈ more, Allocable (m.entries.map Prod.fst) := fun hall =>
      hmax (forall_mem_of_forall₂ hmore.flip hall fun _ _ hm hl => Extends.allocable hl hm)
    rw [unsettled_of_not_allocable hmax, unsettled_of_not_allocable hmax']

theorem mayCome_extends (horderly : ∀ l ∈ layers, Orderly l)
    (hzero : ∀ l ∈ layers, NoneBelowZero (l.entries.map Prod.fst)) (r : Except Fault Config) :
    MayCome (.ok more) r ↔ Judged (settle? (defaultLayer :: layers)) r := by
  have hsettled : ∀ {arranged : List Layer}, Arranges more arranged →
      (settle? arranged).map (Tree.restricted settingKeys) =
        (settle? (defaultLayer :: layers)).map (Tree.restricted settingKeys) := by
    intro arranged harranged
    cases harranged with
    | cons hdefaults hrest =>
      exact settle?_extends (.cons hdefaults.extends (extends_rearranged hmore hrest))
        (List.forall_mem_cons.2 ⟨orderly_defaults, horderly⟩)
        (List.forall_mem_cons.2 ⟨inBounds_defaults.aboveZero, hzero⟩)
  constructor
  · intro h
    cases h with
    | settled harranged hr =>
      rwa [← judged_restricted, ← hsettled harranged, judged_restricted]
  · intro hr
    rw [← judged_restricted, ← hsettled (arranges_self more), judged_restricted] at hr
    exact .settled (arranges_self more) hr

theorem sameOutcomes_extends (horderly : ∀ l ∈ layers, Orderly l)
    (hzero : ∀ l ∈ layers, NoneBelowZero (l.entries.map Prod.fst)) :
    SameOutcomes (MayCome (.ok more)) (MayCome (.ok layers)) := by
  have hself : List.Forall₂ Extends layers layers :=
    List.forall₂_same.2 fun l _ => (Rearranges.refl l).extends
  have hsame := mayCome_extends hmore horderly hzero
  have hsame' := mayCome_extends hself horderly hzero
  refine ⟨⟨_, mayCome_bind (.ok more)⟩, fun r => (hsame r).trans (hsame' r).symm,
    fun r r' hr hr' => ?_⟩
  exact Judged.unique (fun t ht => child?_arranged (arranges_self layers) ht) ((hsame r).1 hr)
    ((hsame' r').1 hr')

end Layers

section Reading
variable [Parsers]

/-- Reading depends on nothing but the settings file and the variables that are settings: in the
same order it comes to the same, and where keys lead apart and no more than one file may be chosen
in any order, but for the choice of the setting that is named. Further entries of either source, in
any order with the others, change nothing if their keys lead through no setting, have no index below
zero and ask for no list that is longer than an address space. -/
theorem unrelated_unobservable :
    (∀ (d d' : Directory) (b b' : Block) (env env' : Environment), InKnownFormat d →
      InKnownFormat d' → b.variables? = some env → b'.variables? = some env' →
      SameSources d d' env env' → (∀ r, MayLoad d b r ↔ MayLoad d' b' r) ∧
        (Decided d → (∀ choice, Selects d choice → LeadApart (chosenKeys d choice)) →
          LeadApart ((environmentLayer env).entries.map Prod.fst) →
            SameOutcomes (MayLoad d b) (MayLoad d' b'))) ∧
    (∀ (text : String) (file more : Layer), textLayer .toml none text = .ok file →
      LeadApart (keysOf .toml text) → NoneBelowZero (keysOf .toml text) → Extends file more →
        SameOutcomes (MayCome (.ok [more])) (MayReadToml text)) ∧
    ∀ (d : Directory) (choice : Option Format) (b : Block) (env : Environment)
      (file moreFile moreGiven : Layer), InKnownFormat d → Selects d choice →
      chosenLayer d choice = .ok file → b.variables? = some env →
      LeadApart (chosenKeys d choice) → LeadApart ((environmentLayer env).entries.map Prod.fst) →
      NoneBelowZero (chosenKeys d choice ++ variableKeys env) → Extends file moreFile →
      Extends (environmentLayer env) moreGiven →
        SameOutcomes (MayCome (.ok [moreFile, moreGiven])) (MayCome (source d choice b)) := by
  refine ⟨fun d d' b b' env env' _ _ hb hb' h => ?_, ?_, ?_⟩
  · exact ⟨fun r => ⟨h.mayLoad hb hb', h.symm.mayLoad hb' hb⟩, h.sameOutcomes hb hb'⟩
  · intro text file more htext hapart hzero hmore
    rw [← keys_textLayer htext] at hzero
    unfold MayReadToml
    rw [tomlSource_of_ok htext]
    exact sameOutcomes_extends (.cons hmore .nil)
      (List.forall_mem_singleton.2 (orderly_text htext hapart)) (List.forall_mem_singleton.2 hzero)
  · intro d choice b env file moreFile moreGiven _ _ hfile hb hapart henv hzero hmoreFile hmoreGiven
    rw [← keys_chosenLayer hfile] at hzero
    have hgiven : NoneBelowZero ((environmentLayer env).entries.map Prod.fst) := fun key hkey =>
      hzero key (List.mem_append_right _ (keys_environmentLayer env hkey))
    rw [source_of_ok hfile hb]
    refine sameOutcomes_extends (.cons hmoreFile (.cons hmoreGiven .nil)) ?_ ?_
    · exact List.forall_mem_cons.2
        ⟨orderly_chosen hfile hapart, List.forall_mem_singleton.2 (orderly_environment henv)⟩
    · exact List.forall_mem_cons.2 ⟨fun key hkey => hzero key (List.mem_append_left _ hkey),
        List.forall_mem_singleton.2 hgiven⟩

end Reading

/-- A key that leads through no setting and has no index below zero is not enough: if it asks for a
list that is too long, reading is broken off. And one directory with one environment may come to two
things if its keys do not lead apart. -/
theorem long_lists_and_orders_observable :
    (keysOf .toml "" = [] ∧ ofToml "" = .ok .default ∧
      keysOf .toml "\"other[9223372036854775807]\"=1" = ["other[9223372036854775807]"] ∧
      leadsInto settingKeys "other[9223372036854775807]" = false ∧
      (Path.ofKey "other[9223372036854775807]").belowZero = false ∧
      ofToml "\"other[9223372036854775807]\"=1" = .error .aborted) ∧
    MayLoad (lone "registry.toml" tornText) [] (.ok tornConfig) ∧
      MayLoad (lone "registry.toml" tornText) [] (.error (.refused tornError)) ∧
      ¬ UpToChoice Eq (.ok tornConfig) (.error (.refused tornError)) := by
  refine ⟨by decide +kernel, mayLoad_torn.1, mayLoad_torn.2, fun h => ?_⟩
  cases h with
  | related he => cases he

def crowdedText : String := "demo_secret='s'\nother='o'"

def crowdedEntries : List (String × Value) :=
  [("demo_secret", .ofString "s"), ("other", .ofString "o")]

def crowd : List (String × Value) :=
  [("other[2].y", .table []), ("x.demo_secret", .ofString "t"), ("x[0]", .null),
   ("demo_secret2", .array []), ("Demo_Secret", .ofString "t"), ("", .ofString "t")]

def crowdedVariables : Environment := [("USER_REGISTRY_DEMO_USERNAME", "bob")]

def crowdedDirectory : Directory := fun name =>
  if name = "notes" then some .folder else lone "registry.toml" crowdedText name

theorem extends_crowd (l : Layer) : Extends l ⟨l.origin, crowd ++ l.entries⟩ where
  origin := rfl
  entries := by
    have hall : ∀ key ∈ crowd.map Prod.fst, leadsInto settingKeys key = false ∧
        (Path.ofKey key).belowZero = false ∧ (Path.ofKey key).allocable = true := by
      decide +kernel
    refine ⟨crowd, .permuted List.perm_append_comm, fun e he => ?_⟩
    obtain ⟨helsewhere, hzero, hmax⟩ := hall e.1 (List.mem_map_of_mem he)
    exact ⟨helsewhere, hzero, hmax⟩

theorem unrelated_unobservable_crowded :
    let d := lone "registry.toml" crowdedText
    let b := Block.ofText crowdedVariables
    let b' := Block.ofText (("HOME", "/") :: crowdedVariables)
    SameOutcomes (MayLoad d b) (MayLoad crowdedDirectory b') ∧
    SameOutcomes (MayCome (.ok [⟨none, crowd ++ crowdedEntries⟩])) (MayReadToml crowdedText) ∧
    SameOutcomes (MayCome (.ok [⟨some "registry.toml", crowd ++ crowdedEntries⟩,
        ⟨none, crowd ++ (environmentLayer crowdedVariables).entries⟩]))
      (MayCome (source d (some .toml) b)) := by
  intro d b b'
  have hread : Toml.read? crowdedText = some crowdedEntries := by cbv
  have htext : ∀ origin, textLayer .toml origin crowdedText = .ok ⟨origin, crowdedEntries⟩ :=
    fun _ => textLayer_of_parsed .toml hread
  have hfile : chosenLayer d (some .toml) = .ok ⟨some "registry.toml", crowdedEntries⟩ := by
    rw [chosenLayer_lone, htext]
  have hapart : LeadApart (keysOf .toml crowdedText) := by decide +kernel
  have hvariables : LeadApart ((environmentLayer crowdedVariables).entries.map Prod.fst) := by
    decide +kernel
  have hzero : NoneBelowZero (keysOf .toml crowdedText) := by decide +kernel
  have hboth : NoneBelowZero (keysOf .toml crowdedText ++ variableKeys crowdedVariables) := by
    decide +kernel
  have hsources : SameSources d crowdedDirectory crowdedVariables
      (("HOME", "/") :: crowdedVariables) := by
    refine ⟨rfl, fun f => ?_, fun f => ?_, .refl _⟩ <;> cases f <;> rfl
  have hknown : InKnownFormat d := inKnownFormat_lone _
  have hknown' : InKnownFormat crowdedDirectory := .inr (by decide)
  have honly : ∀ choice, Selects d choice → choice = some .toml := by
    intro choice hchoice
    cases hchoice with
    | file f _ hf =>
      cases f with
      | toml => rfl
      | json => exact absurd (lone_isFile hf) (by decide)
    | none hnone =>
      obtain hbare | hnone := hnone
      · exact absurd (lone_isFile hbare) (by decide)
      · exact absurd (hnone .toml) (by decide)
  have hkeys : chosenKeys d (some .toml) = keysOf .toml crowdedText := chosenKeys_lone _
  have hb : b.variables? = some crowdedVariables := Block.variables?_ofText _
  have hb' : b'.variables? = some (("HOME", "/") :: crowdedVariables) := Block.variables?_ofText _
  obtain ⟨hsame, htoml, hload⟩ := unrelated_unobservable
  refine ⟨?_, ?_, ?_⟩
  · refine (hsame d crowdedDirectory b b' _ _ hknown hknown' hb hb' hsources).2 ?_ ?_ hvariables
    · exact fun choice choice' hchoice hchoice' =>
        (honly choice hchoice).trans (honly choice' hchoice').symm
    · exact fun choice hchoice => honly choice hchoice ▸ hkeys.symm ▸ hapart
  · exact htoml crowdedText _ _ (htext none) hapart hzero (extends_crowd _)
  · exact hload d (some .toml) b crowdedVariables _ _ _ hknown (selects_lone _) hfile hb
      (hkeys.symm ▸ hapart) hvariables (hkeys.symm ▸ hboth) (extends_crowd _) (extends_crowd _)

end AccountRegistry.Config
