import AccountRegistry.Proofs.Config.Outcome
import AccountRegistry.Proofs.Settings.Order

set_option autoImplicit false

/-!
# The order in which settings are merged

A layer whose keys lead apart comes to the same whichever of its entries is
merged first. So a configuration is a function of what its sources say, although
nothing fixes the order in which they say it.
-/
namespace AccountRegistry.Config
open AccountRegistry.Settings (Value Layer LeadApart latest settle?)

theorem entries?_distinct {f : Format} {text : String} {entries : List (String × Value)}
    (h : f.entries? text = some entries) : (Value.table entries).Distinct := by
  cases f with
  | toml => exact Toml.read?_distinct h
  | json => exact Json.read?_distinct h

theorem textLayer_distinct [Parsers] {format : Format} {origin : Option String} {text : String}
    {l : Layer} (h : textLayer format origin text = .ok l) : (Value.table l.entries).Distinct := by
  obtain ⟨entries, hentries, rfl⟩ := exists_entries h
  exact entries?_distinct hentries

theorem fileLayer_distinct [Parsers] {d : Directory} {l : Layer} (h : fileLayer d = .ok l) :
    (Value.table l.entries).Distinct := by
  unfold fileLayer at h
  split at h
  · exact textLayer_distinct h
  · cases h
    exact .empty

theorem defaultLayer_apart : LeadApart (defaultLayer.entries.map Prod.fst) := by
  decide +kernel

theorem applied_defaults {defaults : List (String × Value)}
    (h : defaultLayer.entries.Perm defaults) (t : Settings.Tree) :
    defaultLayer.applied? t = Layer.applied? ⟨none, defaults⟩ t :=
  Settings.applied_perm h defaultLayer_nodup defaultLayer_apart t

theorem applied_environment {env : Environment} {given : List (String × Value)}
    (hapart : LeadApart ((environmentLayer env).entries.map Prod.fst))
    (h : (latest (environmentLayer env).entries).Perm given) (t : Settings.Tree) :
    Layer.applied? (environmentLayer env) t = Layer.applied? ⟨none, given⟩ t := by
  rw [Settings.latest_eq_self (environmentLayer_nodup env)] at h
  exact Settings.applied_perm h (environmentLayer_nodup env) hapart t

theorem ofLayers_congr {layers layers' : List Layer} {defaults : List (String × Value)}
    (hdefaults : defaultLayer.entries.Perm defaults)
    (h : List.Forall₂ (fun l m => ∀ t, l.applied? t = m.applied? t) layers layers') :
    settle? (⟨none, defaults⟩ :: layers') = settle? (defaultLayer :: layers) ∧
      ofLayers layers' = ofLayers layers := by
  have hlayers : settle? (defaultLayer :: layers) = settle? (defaultLayer :: layers') :=
    Settings.settle?_congr (.cons (fun _ => rfl) h)
  refine ⟨(Settings.settle?_congr (.cons (applied_defaults hdefaults) h)).symm, ?_⟩
  unfold ofLayers
  rw [hlayers]

/-- In whatever order the entries of each layer are merged, and those of every table in the file,
they settle the same tree; so each setting is right, wrong or missing as before, and reading comes
to the same configuration or fault. Keys of one layer must lead apart; of variables with one key the
last counts. -/
theorem order_unobservable [Parsers] :
    (∀ (text : String) (file : Layer) (entries defaults : List (String × Value)),
      textLayer .toml none text = .ok file → LeadApart (file.entries.map Prod.fst) →
      (Value.table file.entries).Reorders (.table entries) → defaultLayer.entries.Perm defaults →
        settle? [⟨none, defaults⟩, ⟨file.origin, entries⟩] = settle? [defaultLayer, file] ∧
          ofLayers [⟨file.origin, entries⟩] = ofToml text) ∧
    ∀ (d : Directory) (env : Environment) (file : Layer)
      (entries given defaults : List (String × Value)),
      fileLayer d = .ok file → LeadApart (file.entries.map Prod.fst) →
      LeadApart ((environmentLayer env).entries.map Prod.fst) →
      (Value.table file.entries).Reorders (.table entries) →
      (latest (environmentLayer env).entries).Perm given → defaultLayer.entries.Perm defaults →
        settle? [⟨none, defaults⟩, ⟨file.origin, entries⟩, ⟨none, given⟩] =
            settle? [defaultLayer, file, environmentLayer env] ∧
          ofLayers [⟨file.origin, entries⟩, ⟨none, given⟩] = load d env := by
  constructor
  · intro text file entries defaults htext hapart hfile hdefaults
    have happly : ∀ t, file.applied? t = Layer.applied? ⟨file.origin, entries⟩ t :=
      Settings.applied_reorders hfile (textLayer_distinct htext) hapart
    have hread : ofToml text = ofLayers [file] := by
      unfold ofToml
      rw [htext]
      rfl
    rw [hread]
    exact ofLayers_congr hdefaults (.cons happly .nil)
  · intro d env file entries given defaults hd hapart hvariables hfile hgiven hdefaults
    have happly : ∀ t, file.applied? t = Layer.applied? ⟨file.origin, entries⟩ t :=
      Settings.applied_reorders hfile (fileLayer_distinct hd) hapart
    have happly' := applied_environment hvariables hgiven
    have hread : load d env = ofLayers [file, environmentLayer env] := by
      unfold load
      rw [hd]
      rfl
    rw [hread]
    exact ofLayers_congr hdefaults (.cons happly (.cons happly' .nil))

/-- Keys that lead through one child take effect in their order: a text makes up for what was below
it, but not the other way about. -/
example : ofLayers [⟨none, [("demo_secret.a", .ofString "x"), ("demo_secret", .ofString "y")]⟩] ≠
    ofLayers [⟨none, [("demo_secret", .ofString "y"), ("demo_secret.a", .ofString "x")]⟩] := by
  decide +kernel

def mixedText : String := "'tags[1]'=[]\nmarks=[\x7bon=[],off=\x7b\x7d\x7d]"

def mixedEntries : List (String × Value) :=
  [("tags[1]", .array []), ("marks", .array [.table [("on", .array []), ("off", .table [])]])]

def shuffledEntries : List (String × Value) :=
  [("marks", .array [.table [("off", .table []), ("on", .array [])]]), ("tags[1]", .array [])]

def mixedVariables : Environment :=
  [("USER_REGISTRY_DEMO_SECRET", "early"), ("USER_REGISTRY_demo.flag", "on"),
   ("user_registry_demo_secret", "late")]

def shuffledGiven : List (String × Value) :=
  [("demo_secret", .ofString "late"), ("demo.flag", .ofString "on")]

theorem fileLayer_lone [Parsers] (text : String) : fileLayer (lone "registry.toml" text) =
    textLayer .toml (some "registry.toml") text := by
  unfold fileLayer
  rw [settingsText?_lone]
  rfl

theorem order_unobservable_shuffled :
    ofLayers [⟨none, shuffledEntries⟩] = ofToml mixedText ∧
      ofLayers [⟨some "registry.toml", shuffledEntries⟩, ⟨none, shuffledGiven⟩] =
        load (lone "registry.toml" mixedText) mixedVariables := by
  have hread : Toml.read? mixedText = some mixedEntries := by cbv
  have htext : ∀ origin, textLayer .toml origin mixedText = .ok ⟨origin, mixedEntries⟩ :=
    fun _ => textLayer_of_parsed .toml hread
  have hfile : fileLayer (lone "registry.toml" mixedText) =
      .ok ⟨some "registry.toml", mixedEntries⟩ := by rw [fileLayer_lone, htext]
  have hapart : LeadApart (mixedEntries.map Prod.fst) := by decide +kernel
  have hvariables : LeadApart ((environmentLayer mixedVariables).entries.map Prod.fst) := by
    decide +kernel
  have hentries : (Value.table mixedEntries).Reorders (.table shuffledEntries) := by
    refine .trans (.permuted (.swap _ _ _)) ?_
    exact .entry [] [("tags[1]", .array [])] "marks" (.item [] [] (.permuted (.swap _ _ _)))
  have hkeys : variableKey? "USER_REGISTRY_DEMO_SECRET" = some "demo_secret" ∧
      variableKey? "USER_REGISTRY_demo.flag" = some "demo.flag" ∧
      variableKey? "user_registry_demo_secret" = some "demo_secret" := by decide +kernel
  have hlatest : (environmentLayer mixedVariables).entries =
      [("demo.flag", .ofString "on"), ("demo_secret", .ofString "late")] := by
    simp only [environmentLayer, variableEntries, mixedVariables, List.filterMap_cons,
      List.filterMap_nil, hkeys.1, hkeys.2.1, hkeys.2.2, Option.map_some, latest]
    simp
  have hgiven : (latest (environmentLayer mixedVariables).entries).Perm shuffledGiven := by
    rw [Settings.latest_eq_self (environmentLayer_nodup _), hlatest]
    exact .swap _ _ _
  exact ⟨(order_unobservable.1 mixedText _ shuffledEntries _ (htext none) hapart hentries
      (.refl _)).2,
    (order_unobservable.2 _ mixedVariables _ shuffledEntries shuffledGiven _ hfile hapart
      hvariables hentries hgiven (.refl _)).2⟩

end AccountRegistry.Config
