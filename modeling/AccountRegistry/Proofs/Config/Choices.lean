import AccountRegistry.Proofs.Config.Order

set_option autoImplicit false

/-!
# What reading may come to

The maps that hold settings go through their entries in any order, and two maps of
the same entries in different ones. So reading may come to one thing or another:
the entries of a layer and those of every table in it take effect in any order,
of several settings that are no texts any is named, and of two settings files
either is chosen. The functions that read go one of these ways.
-/
namespace AccountRegistry
namespace Config
open AccountRegistry.Settings (Value Tree Layer LeadApart settle?)

/-- The same entries in another order, and those of every table in it. -/
structure Rearranges (l m : Layer) : Prop where
  origin : m.origin = l.origin
  entries : (Value.table l.entries).Reorders (.table m.entries)

theorem Rearranges.refl (l : Layer) : Rearranges l l := ⟨rfl, .refl _⟩

theorem Rearranges.of_mk {origin : Option String} {entries : List (String × Value)} {m : Layer}
    (h : Rearranges ⟨origin, entries⟩ m) :
    ∃ entries', m = ⟨origin, entries'⟩ ∧ (Value.table entries).Reorders (.table entries') := by
  obtain ⟨origin', entries'⟩ := m
  obtain ⟨rfl, hentries⟩ := h
  exact ⟨entries', rfl, hentries⟩

theorem Rearranges.keys {l m : Layer} (h : Rearranges l m) :
    (l.entries.map Prod.fst).Perm (m.entries.map Prod.fst) := by
  obtain ⟨entries, hentries, hkeys⟩ := h.entries.of_table
  rwa [Value.table.inj hentries]

structure Orderly (l : Layer) : Prop where
  distinct : (Value.table l.entries).Distinct
  apart : LeadApart (l.entries.map Prod.fst)

theorem Orderly.applied {l m : Layer} (hl : Orderly l) (h : Rearranges l m) (t : Tree) :
    l.applied? t = m.applied? t := by
  obtain ⟨origin, entries⟩ := l
  obtain ⟨entries', rfl, hentries⟩ := h.of_mk
  exact Settings.applied_reorders hentries hl.distinct hl.apart t

theorem distinct_of_scalars {entries : List (String × Value)}
    (hkeys : (entries.map Prod.fst).Nodup) (h : ∀ e ∈ entries, ∃ s, e.2 = .scalar s) :
    (Value.table entries).Distinct := by
  refine .table hkeys fun e he => ?_
  obtain ⟨s, hs⟩ := h e he
  exact hs ▸ .scalar s

theorem orderly_defaults : Orderly defaultLayer where
  distinct := distinct_of_scalars defaultLayer_nodup fun e he => by
    obtain ⟨s, -, rfl⟩ := List.mem_map.1 he
    exact ⟨_, rfl⟩
  apart := defaultLayer_apart

theorem orderly_environment {env : Environment}
    (hapart : LeadApart ((environmentLayer env).entries.map Prod.fst)) :
    Orderly (environmentLayer env) where
  distinct := distinct_of_scalars (environmentLayer_nodup env) fun e he => by
    obtain ⟨v, -, hmap⟩ := List.mem_filterMap.1 ((Settings.latest_sublist _).subset he)
    obtain ⟨key, -, rfl⟩ := Option.map_eq_some_iff.1 hmap
    exact ⟨_, rfl⟩
  apart := hapart

abbrev Arranges (layers arranged : List Layer) : Prop :=
  List.Forall₂ Rearranges (defaultLayer :: layers) arranged

section Arranging
variable {layers arranged : List Layer}

theorem arranges_self (layers : List Layer) : Arranges layers (defaultLayer :: layers) :=
  List.forall₂_same.2 fun l _ => .refl l

theorem settle?_arranged (h : Arranges layers arranged) (hlayers : ∀ l ∈ layers, Orderly l) :
    settle? (defaultLayer :: layers) = settle? arranged := by
  have horderly : ∀ l ∈ defaultLayer :: layers, Orderly l :=
    List.forall_mem_cons.2 ⟨orderly_defaults, hlayers⟩
  refine Settings.settle?_congr ?_
  exact ((List.forall₂_and_left _ _).2 ⟨horderly, h⟩).imp fun l m hlm => hlm.1.applied hlm.2

/-- Every setting has a default, and nothing takes it away. -/
theorem child?_arranged (h : Arranges layers arranged) {t : Tree}
    (hsettle : settle? arranged = some t) (s : Setting) :
    (Tree.child? s.key (some t)).isSome := by
  obtain ⟨t₁, happly, hchild⟩ := Settings.applies_plain defaultLayer defaultLayer_plain
    defaultLayer_nodup Tree.empty
  have hdefault : (Tree.child? s.key (some t₁)).isSome := by
    rw [hchild, defaultLayer_lookup]
    rfl
  cases h with
  | cons hdefaults hrest =>
    rw [settle?, List.foldlM_cons, ← orderly_defaults.applied hdefaults, happly] at hsettle
    exact Settings.child?_isSome_layers hdefault hsettle

end Arranging

/-- What is made of a tree, or of layers that settle none. -/
inductive Judged : Option Tree → Except Fault Config → Prop
  | unsettled : Judged none (.error .aborted)
  | mistyped {t : Tree} (s : Setting) (e : ConfigError) (h : settingText t s = .error e) :
    Judged (some t) (.error (.refused e))
  | read {t : Tree} (c : Config) (h : ∀ s, settingText t s = .ok (c.get s)) :
    Judged (some t) ((validated c).mapError .refused)

theorem judged_ofLayers (layers : List Layer) :
    Judged (settle? (defaultLayer :: layers)) (ofLayers layers) := by
  unfold ofLayers
  cases settle? (defaultLayer :: layers) with
  | none => exact .unsettled
  | some t =>
    obtain ⟨c, hc, hget⟩ | ⟨s, e, he, hs⟩ := ofTree_cases t
    · dsimp only
      rw [hc]
      exact .read c hget
    · dsimp only
      rw [he]
      exact .mistyped s e hs

theorem settingText_of_error {t : Tree} {s : Setting} {e : ConfigError}
    (hthere : (Tree.child? s.key (some t)).isSome) (h : settingText t s = .error e) :
    ∃ found origin, e = .invalidType found s.key origin := by
  unfold settingText at h
  split at h
  · cases h
  · cases h
    exact ⟨_, _, rfl⟩
  · cases h
    exact ⟨_, _, rfl⟩
  · cases h
    exact ⟨_, _, rfl⟩
  · next hnone =>
    rw [hnone] at hthere
    cases hthere

/-- Related readings, or refusals which name different settings. -/
inductive UpToChoice (R : Except Fault Config → Except Fault Config → Prop) :
    Except Fault Config → Except Fault Config → Prop
  | related {r r' : Except Fault Config} (h : R r r') : UpToChoice R r r'
  | named {found found' : Found} {key key' : String} {origin origin' : Option String}
      (h : key ≠ key') :
    UpToChoice R (.error (.refused (.invalidType found key origin)))
      (.error (.refused (.invalidType found' key' origin')))

theorem Judged.unique {ot : Option Tree} {r r' : Except Fault Config}
    (hthere : ∀ t, ot = some t → ∀ s : Setting, (Tree.child? s.key (some t)).isSome)
    (h : Judged ot r) (h' : Judged ot r') : UpToChoice Eq r r' := by
  cases h with
  | unsettled =>
    cases h'
    exact .related rfl
  | @mistyped t s e hs =>
    cases h' with
    | read c hc =>
      rw [hc s] at hs
      cases hs
    | mistyped s' e' hs' =>
      by_cases hsame : s = s'
      · subst hsame
        cases hs.symm.trans hs'
        exact .related rfl
      · obtain ⟨found, origin, rfl⟩ := settingText_of_error (hthere t rfl s) hs
        obtain ⟨found', origin', rfl⟩ := settingText_of_error (hthere t rfl s') hs'
        exact .named fun hkey => hsame (key_injective hkey)
  | read c hc =>
    cases h' with
    | mistyped s' e' hs' =>
      rw [hc s'] at hs'
      cases hs'
    | read c' hc' =>
      have hget : ∀ s, c.get s = c'.get s := fun s => Except.ok.inj ((hc s).symm.trans (hc' s))
      obtain rfl : c = c' := by
        obtain ⟨suffix, username, secret⟩ := c
        obtain ⟨suffix', username', secret'⟩ := c'
        exact congr (congr (congrArg Config.mk (hget .credentialSuffix)) (hget .demoUsername))
          (hget .demoSecret)
      exact .related rfl

/-- What layers may come to, or the fault that is in their place. -/
inductive MayCome : Except Fault (List Layer) → Except Fault Config → Prop
  | stopped (fault : Fault) : MayCome (.error fault) (.error fault)
  | settled {layers arranged : List Layer} {r : Except Fault Config} (h : Arranges layers arranged)
      (hr : Judged (settle? arranged) r) : MayCome (.ok layers) r

theorem mayCome_bind (source : Except Fault (List Layer)) :
    MayCome source (source.bind ofLayers) := by
  cases source with
  | error fault => exact .stopped fault
  | ok layers => exact .settled (arranges_self layers) (judged_ofLayers layers)

theorem mayCome_unique {layers : List Layer} {r r' : Except Fault Config}
    (hlayers : ∀ l ∈ layers, Orderly l) (h : MayCome (.ok layers) r)
    (h' : MayCome (.ok layers) r') : UpToChoice Eq r r' := by
  cases h with
  | settled harranged hr =>
    cases h' with
    | settled harranged' hr' =>
      rw [← settle?_arranged harranged' hlayers, settle?_arranged harranged hlayers] at hr'
      exact hr.unique (fun t ht => child?_arranged harranged ht) hr'

/-- Layers are refused for a setting that is no text or for the suffix, and for nothing else. -/
theorem refused_of_mayCome {layers : List Layer} {e : ConfigError}
    (h : MayCome (.ok layers) (.error (.refused e))) :
    (∃ (found : Found) (s : Setting) (origin : Option String),
      e = .invalidType found s.key origin) ∨ e = .message "credential_suffix cannot be empty" := by
  generalize hr : Except.error (Fault.refused e) = r at h
  cases h with
  | settled harranged hjudged =>
    generalize hsettle : settle? _ = ot at hjudged
    cases hjudged with
    | unsettled => cases hr
    | mistyped s e' hs =>
      cases hr
      obtain ⟨found, origin, rfl⟩ := settingText_of_error (child?_arranged harranged hsettle s) hs
      exact .inl ⟨found, s, origin, rfl⟩
    | read c hc =>
      unfold validated at hr
      split at hr
      · cases hr
        exact .inr rfl
      · cases hr

/-- The format of a settings file that may be chosen. A file of the bare name hides all others. -/
inductive Selects (d : Directory) : Option Format → Prop
  | file (f : Format) (hbare : d.isFile fileName = false) (h : d.isFile f.fileName = true) :
    Selects d (some f)
  | none (h : d.isFile fileName = true ∨ ∀ f : Format, d.isFile f.fileName = false) :
    Selects d none

theorem selects_format? (d : Directory) : Selects d (format? d) := by
  unfold format?
  by_cases hbare : d.isFile fileName = true
  · rw [if_pos hbare]
    exact .none (.inl hbare)
  · rw [if_neg hbare]
    rw [Bool.not_eq_true] at hbare
    by_cases htoml : d.isFile Format.toml.fileName = true
    · rw [if_pos htoml]
      exact .file .toml hbare htoml
    · rw [if_neg htoml]
      by_cases hjson : d.isFile Format.json.fileName = true
      · rw [if_pos hjson]
        exact .file .json hbare hjson
      · rw [if_neg hjson]
        rw [Bool.not_eq_true] at htoml hjson
        refine .none (.inr fun f => ?_)
        cases f with
        | toml => exact htoml
        | json => exact hjson

def otherEndings : List String := ["yaml", "yml", "ini", "ron", "json5"]

/-- No settings file in one of those formats may be chosen. -/
def InKnownFormat (d : Directory) : Prop :=
  d.isFile fileName = true ∨ ∀ ending ∈ otherEndings, d.isFile (fileName ++ "." ++ ending) = false

def keysOf (format : Format) (text : String) : List String :=
  ((format.entries? text).getD []).map Prod.fst

def chosenKeys (d : Directory) (choice : Option Format) : List String :=
  match choice.bind fun f => (d.text? f.fileName).map fun text => (f, text) with
  | some (f, text) => keysOf f text
  | none => []

def variableKeys (env : Environment) : List String := env.filterMap fun v => variableKey? v.1

theorem keys_environmentLayer (env : Environment) :
    (environmentLayer env).entries.map Prod.fst ⊆ variableKeys env := by
  rw [variableKeys, ← variableEntries_keys]
  exact ((Settings.latest_sublist _).map Prod.fst).subset

section Sources
variable [Parsers]

def chosenLayer (d : Directory) (choice : Option Format) : Except Fault Layer :=
  match choice.bind fun f => (d.text? f.fileName).map fun text => (f, text) with
  | some (f, text) => textLayer f (some f.fileName) text
  | none => .ok ⟨none, []⟩

theorem fileLayer_eq (d : Directory) : fileLayer d = chosenLayer d (format? d) := by
  unfold fileLayer chosenLayer settingsText?
  cases format? d with
  | none => rfl
  | some f =>
    simp only [Option.bind_eq_bind, Option.bind_some]
    cases d.text? f.fileName <;> rfl

def source (d : Directory) (choice : Option Format) (b : Block) : Except Fault (List Layer) :=
  (chosenLayer d choice).bind fun l =>
    match b.variables? with
    | some env => .ok [l, environmentLayer env]
    | none => .error .aborted

def tomlSource (text : String) : Except Fault (List Layer) :=
  (textLayer .toml none text).map fun l => [l]

def MayLoad (d : Directory) (b : Block) (r : Except Fault Config) : Prop :=
  ∃ choice, Selects d choice ∧ MayCome (source d choice b) r

def MayReadToml (text : String) (r : Except Fault Config) : Prop := MayCome (tomlSource text) r

theorem keys_textLayer {format : Format} {origin : Option String} {text : String} {l : Layer}
    (h : textLayer format origin text = .ok l) : l.entries.map Prod.fst = keysOf format text := by
  obtain ⟨entries, hentries, rfl⟩ := exists_entries h
  rw [keysOf, hentries]
  rfl

theorem orderly_text {format : Format} {origin : Option String} {text : String} {l : Layer}
    (h : textLayer format origin text = .ok l) (hapart : LeadApart (keysOf format text)) :
    Orderly l :=
  ⟨textLayer_distinct h, (keys_textLayer h).symm ▸ hapart⟩

theorem keys_chosenLayer {d : Directory} {choice : Option Format} {l : Layer}
    (h : chosenLayer d choice = .ok l) : l.entries.map Prod.fst = chosenKeys d choice := by
  unfold chosenLayer at h
  unfold chosenKeys
  split at h
  · exact keys_textLayer h
  · cases h
    rfl

theorem textLayer_of_error {format : Format} {origin : Option String} {text : String}
    {fault : Fault} (h : textLayer format origin text = .error fault) :
    fault = .refused (.fileParse (Parsers.refusal format text) origin) := by
  cases hparse : format.entries? text with
  | none =>
    cases (textLayer_of_malformed _ hparse).symm.trans h
    rfl
  | some entries => cases (textLayer_of_parsed _ hparse).symm.trans h

theorem chosenLayer_of_error {d : Directory} {choice : Option Format} {fault : Fault}
    (h : chosenLayer d choice = .error fault) : ∃ e, fault = .refused e := by
  unfold chosenLayer at h
  split at h
  · exact ⟨_, textLayer_of_error h⟩
  · cases h

theorem tomlSource_of_ok {text : String} {l : Layer} (h : textLayer .toml none text = .ok l) :
    tomlSource text = .ok [l] := by
  rw [tomlSource, h]
  rfl

theorem source_of_ok {d : Directory} {choice : Option Format} {b : Block} {env : Environment}
    {l : Layer} (hl : chosenLayer d choice = .ok l) (hb : b.variables? = some env) :
    source d choice b = .ok [l, environmentLayer env] := by
  rw [source, hl, hb]
  rfl

theorem mayLoad_loadFrom (d : Directory) (b : Block) : MayLoad d b (loadFrom d b) := by
  have hread : loadFrom d b = (source d (format? d) b).bind ofLayers := by
    unfold loadFrom load source
    rw [← fileLayer_eq]
    cases fileLayer d <;> cases b.variables? <;> rfl
  exact ⟨_, selects_format? d, hread ▸ mayCome_bind _⟩

theorem mayReadToml_ofToml (text : String) : MayReadToml text (ofToml text) := by
  have hread : ofToml text = (tomlSource text).bind ofLayers := by
    unfold ofToml tomlSource
    cases textLayer .toml none text <;> rfl
  exact hread ▸ mayCome_bind _

end Sources

theorem selects_lone (text : String) : Selects (lone "registry.toml" text) (some .toml) :=
  .file .toml rfl rfl

theorem inKnownFormat_lone (text : String) : InKnownFormat (lone "registry.toml" text) := by
  have hnames : ∀ ending ∈ otherEndings, fileName ++ "." ++ ending ≠ "registry.toml" := by decide
  refine .inr fun ending hending => ?_
  rw [← Bool.not_eq_true]
  exact fun hfile => hnames ending hending (lone_isFile hfile)

theorem chosenText_lone (text : String) : (lone "registry.toml" text).text? Format.toml.fileName =
    some text :=
  lone_text? _ _ _

theorem chosenKeys_lone (text : String) :
    chosenKeys (lone "registry.toml" text) (some .toml) = keysOf .toml text := by
  rw [chosenKeys, Option.bind_some, chosenText_lone]
  rfl

theorem chosenLayer_lone [Parsers] (text : String) :
    chosenLayer (lone "registry.toml" text) (some .toml) =
      textLayer .toml (some "registry.toml") text := by
  rw [chosenLayer, Option.bind_some, chosenText_lone]
  rfl

def tornText : String := "demo_secret='y'\n'demo_secret.a'='x'"

def tornEntries : List (String × Value) :=
  [("demo_secret", .ofString "y"), ("demo_secret.a", .ofString "x")]

def tornConfig : Config := { default with demoSecret := "y" }

def tornError : ConfigError := .invalidType .map "demo_secret" none

theorem textLayer_torn [Parsers] (origin : Option String) :
    textLayer .toml origin tornText = .ok ⟨origin, tornEntries⟩ := by
  have hread : Toml.read? tornText = some tornEntries := by cbv
  exact textLayer_of_parsed .toml hread

theorem mayLoad_torn : MayLoad (lone "registry.toml" tornText) [] (.ok tornConfig) ∧
    MayLoad (lone "registry.toml" tornText) [] (.error (.refused tornError)) := by
  have hsource : source (lone "registry.toml" tornText) (some .toml) [] =
      .ok [⟨some "registry.toml", tornEntries⟩, environmentLayer []] :=
    source_of_ok ((chosenLayer_lone _).trans (textLayer_torn _)) rfl
  have hreversed : (Value.table tornEntries).Reorders (.table tornEntries.reverse) :=
    .permuted (List.reverse_perm _).symm
  have harranged : Arranges [⟨some "registry.toml", tornEntries⟩, environmentLayer []]
      [defaultLayer, ⟨some "registry.toml", tornEntries.reverse⟩, environmentLayer []] :=
    .cons (.refl _) (.cons ⟨rfl, hreversed⟩ (.cons (.refl _) .nil))
  have haccepted : ofLayers [⟨some "registry.toml", tornEntries.reverse⟩, environmentLayer []] =
      .ok tornConfig := by
    decide +kernel
  have hrefused : ofLayers [⟨some "registry.toml", tornEntries⟩, environmentLayer []] =
      .error (.refused tornError) := by
    decide +kernel
  refine ⟨⟨_, selects_lone _, ?_⟩, ⟨_, selects_lone _, ?_⟩⟩
  · rw [hsource, ← haccepted]
    exact .settled harranged (judged_ofLayers _)
  · rw [hsource, ← hrefused]
    exact .settled (arranges_self _) (judged_ofLayers _)

end Config

def Block.ofText (env : Environment) : Block :=
  env.map fun v => (v.1.toByteArray, v.2.toByteArray)

theorem Block.variables?_ofText (env : Environment) : (ofText env).variables? = some env := by
  have htext : ∀ s : String, String.fromUTF8? s.toByteArray = some s :=
    fun s => dif_pos s.isValidUTF8
  induction env with
  | nil => rfl
  | cons v env ih =>
    have hv : text? (v.1.toByteArray, v.2.toByteArray) = some v := by
      simp only [text?, htext, Option.bind_eq_bind, Option.bind_some, Option.pure_def]
    unfold variables? ofText at ih ⊢
    rw [List.map_cons, List.mapM_cons, hv, ih]
    rfl

end AccountRegistry
