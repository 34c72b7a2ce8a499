import AccountRegistry.Proofs.Config.Agreement
import AccountRegistry.Proofs.Json.Writing
import AccountRegistry.Proofs.Toml.Writing

set_option autoImplicit false

/-!
# Configurations written and read back

A configuration with a suffix can be written as a text in TOML, as an object in
JSON and as variables of the environment, and each of them is read as the same
configuration, whatever its texts are.
-/
namespace AccountRegistry

def Setting.variable : Setting → String
  | .credentialSuffix => "USER_REGISTRY_CREDENTIAL_SUFFIX"
  | .demoUsername => "USER_REGISTRY_DEMO_USERNAME"
  | .demoSecret => "USER_REGISTRY_DEMO_SECRET"

def Setting.IsOrder (order : List Setting) : Prop :=
  order.Perm [.credentialSuffix, .demoUsername, .demoSecret]

instance (order : List Setting) : Decidable (Setting.IsOrder order) :=
  inferInstanceAs (Decidable (order.Perm _))

namespace Config
open AccountRegistry.Settings (Value Layer IsPlain)

def entries (c : Config) (order : List Setting) : List (String × String) :=
  order.map fun s => (s.key, c.get s)

def environment (c : Config) : Environment :=
  [Setting.credentialSuffix, .demoUsername, .demoSecret].map fun s => (s.variable, c.get s)

theorem isBareKey_key (s : Setting) : Toml.IsBareKey s.key := by
  cases s <;> exact ⟨by decide, List.all_eq_true.1 (by decide)⟩

theorem variableKey?_variable (s : Setting) : variableKey? s.variable = some s.key := by
  cases s <;> decide +kernel

section Order
variable {order : List Setting} (h : Setting.IsOrder order)
include h

theorem mem_order (s : Setting) : s ∈ order := by
  rw [h.mem_iff]
  cases s <;> decide

theorem entries_nodup (c : Config) : ((c.entries order).map Prod.fst).Nodup := by
  have hnodup : order.Nodup := h.nodup_iff.2 (by decide)
  rw [entries, List.map_map]
  exact hnodup.map key_injective

end Order

theorem ofLayers_silent (layers : List Layer) :
    ofLayers (layers ++ [⟨none, []⟩]) = ofLayers layers := by
  rw [ofLayers, ofLayers, ← List.cons_append, settle?_silent]

section Layers
variable {c : Config} (hsuffix : c.credentialSuffix ≠ "")
include hsuffix

theorem ofLayers_of_taken (origin : Option String) {file : List (String × Value)}
    {env : Environment} (hfile : ∀ e ∈ file, IsPlain e.1) (hkeys : (file.map Prod.fst).Nodup)
    (henv : ∀ v ∈ env, ∀ key, variableKey? v.1 = some key → IsPlain key)
    (hnames : (env.map fun v => v.1.toList.map lowered).Nodup)
    (htaken : ∀ s, taken origin s (chosen file env s) = .ok (c.get s)) :
    ofLayers [⟨origin, file⟩, environmentLayer env] = .ok c := by
  obtain ⟨t, hsettle, htext⟩ := exists_settled origin hfile hkeys henv hnames
  have hsetting : ∀ s, settingText t s = .ok (c.get s) := fun s => (htext s).trans (htaken s)
  have htree : ofTree t = .ok c := by
    simp only [ofTree, hsetting]
    rfl
  rw [ofLayers, hsettle]
  dsimp only
  rw [htree]
  simp only [Except.bind, validated, if_neg hsuffix, Except.mapError]

theorem ofLayers_entries {order : List Setting} (horder : Setting.IsOrder order)
    (origin : Option String) :
    ofLayers [⟨origin, (c.entries order).map fun e => (e.1, .ofString e.2)⟩, ⟨none, []⟩] =
      .ok c := by
  have hkeys : (((c.entries order).map fun e => (e.1, Value.ofString e.2)).map Prod.fst).Nodup := by
    rw [List.map_map]
    exact entries_nodup horder c
  have hplain : ∀ e ∈ (c.entries order).map fun e => (e.1, Value.ofString e.2), IsPlain e.1 := by
    intro e he
    obtain ⟨e', he', rfl⟩ := List.mem_map.1 he
    obtain ⟨s, -, rfl⟩ := List.mem_map.1 he'
    exact isPlain_key s
  have hsilent : environmentLayer [] = ⟨none, []⟩ := rfl
  rw [← hsilent]
  refine ofLayers_of_taken hsuffix origin hplain hkeys (fun _ hv => nomatch hv)
    List.nodup_nil fun s => ?_
  have hmem : (s.key, Value.ofString (c.get s)) ∈
      (c.entries order).map fun e => (e.1, Value.ofString e.2) :=
    List.mem_map.2 ⟨(s.key, c.get s), List.mem_map_of_mem (mem_order horder s), rfl⟩
  rw [chosen_of_file rfl (Settings.lookup_of_mem hkeys hmem) nofun]
  rfl

theorem ofLayers_environment {env : Environment} (h : env.Perm c.environment) :
    ofLayers [⟨none, []⟩, environmentLayer env] = .ok c := by
  have hsets : ∀ v ∈ env, ∃ s : Setting, v = (s.variable, c.get s) := fun v hv => by
    obtain ⟨s, -, rfl⟩ := List.mem_map.1 (h.mem_iff.1 hv)
    exact ⟨s, rfl⟩
  have hplain : ∀ v ∈ env, ∀ key, variableKey? v.1 = some key → IsPlain key := by
    intro v hv key hkey
    obtain ⟨s, rfl⟩ := hsets v hv
    rw [variableKey?_variable, Option.some.injEq] at hkey
    exact hkey ▸ isPlain_key s
  have hnames : (env.map fun v => v.1.toList.map lowered).Nodup := by
    have hfixed : c.environment.map (fun v => v.1.toList.map lowered) =
        [Setting.credentialSuffix, .demoUsername, .demoSecret].map fun s =>
          s.variable.toList.map lowered := rfl
    rw [(h.map _).nodup_iff, hfixed]
    decide
  refine ofLayers_of_taken hsuffix none (fun _ he => nomatch he) List.nodup_nil hplain hnames
    fun s => ?_
  have hmem : (s.variable, c.get s) ∈ env :=
    h.mem_iff.2 (List.mem_map_of_mem (mem_order (.refl _) s))
  have hentry : (s.key, Value.ofString (c.get s)) ∈ (environmentLayer env).entries :=
    environmentLayer_entries hnames ▸
      List.mem_filterMap.2 ⟨_, hmem, by simp only [variableKey?_variable, Option.map_some]⟩
  have hlookup := Settings.lookup_of_mem (environmentLayer_nodup env) hentry
  rw [environmentLayer_lookup hnames] at hlookup
  obtain ⟨text, htext, hsame⟩ := Option.map_eq_some_iff.1 hlookup
  rw [chosen_of_given htext, hsame]
  rfl

theorem ofToml_written [Parsers] {order : List Setting} (horder : Setting.IsOrder order)
    (capital ended : Bool) : ofToml (Toml.written capital ended (c.entries order)) = .ok c := by
  have hbare : ∀ e ∈ c.entries order, Toml.IsBareKey e.1 := by
    intro e he
    obtain ⟨s, -, rfl⟩ := List.mem_map.1 he
    exact isBareKey_key s
  have hread := Toml.read?_written capital ended hbare (entries_nodup horder c)
  rw [ofToml, textLayer_of_parsed .toml hread]
  exact (ofLayers_silent _).symm.trans (ofLayers_entries hsuffix horder none)

end Layers

theorem load_json [Parsers] {c : Config} (hsuffix : c.credentialSuffix ≠ "") {order : List Setting}
    (horder : Setting.IsOrder order) {d : Directory} {env : Environment} {capital : Bool}
    {gap : Nat → String} (hgap : ∀ i, ∀ ch ∈ (gap i).toList, Json.isSpace ch = true)
    (hfile : HoldsOnly d .json (Json.written capital gap (c.entries order)))
    (henv : ∀ v ∈ env, variableKey? v.1 = none) : load d env = .ok c := by
  have hread := Json.read?_written capital hgap (entries_nodup horder c)
  rw [load, hfile.fileLayer, textLayer_of_parsed .json hread, environmentLayer_of_silent henv]
  exact ofLayers_entries hsuffix horder _

theorem load_environment [Parsers] {c : Config} (hsuffix : c.credentialSuffix ≠ "") {d : Directory}
    {env : Environment}
    (hfile : ∀ extension : String, d.isFile (fileName ++ "." ++ extension) = false)
    (henv : (env.filter fun v => (variableKey? v.1).isSome).Perm c.environment) :
    load d env = .ok c := by
  have htext : ∀ f : Format, d.text? f.fileName = none := by
    intro f
    cases htext : d.text? f.fileName with
    | none => rfl
    | some text =>
      have hisFile := isFile_of_text? htext
      obtain ⟨extension, hname⟩ := exists_extension f
      rw [hname, hfile] at hisFile
      cases hisFile
  have hother : ∀ v : String × String, (variableKey? v.1).isSome = false → variableKey? v.1 = none :=
    fun v hv => Option.isNone_iff_eq_none.1 (Option.isSome_eq_false_iff.1 hv)
  rw [← load_filter hother, load, fileLayer, settingsText?_eq_none htext]
  exact ofLayers_environment hsuffix henv

/-- A configuration with a suffix is read back from TOML, from JSON and from the environment. -/
theorem configurations_read_back [Parsers] (c : Config) (hsuffix : c.credentialSuffix ≠ "") :
    (∀ (order : List Setting) (capital ended : Bool), Setting.IsOrder order →
      ofToml (Toml.written capital ended (c.entries order)) = .ok c) ∧
    (∀ (order : List Setting) (capital : Bool) (gap : Nat → String), Setting.IsOrder order →
      (∀ i, ∀ ch ∈ (gap i).toList, Json.isSpace ch = true) →
        ∀ (d : Directory) (env : Environment),
          HoldsOnly d .json (Json.written capital gap (c.entries order)) →
          (∀ v ∈ env, variableKey? v.1 = none) → load d env = .ok c) ∧
    ∀ (d : Directory) (env : Environment),
      (∀ extension : String, d.isFile (fileName ++ "." ++ extension) = false) →
      (env.filter fun v => (variableKey? v.1).isSome).Perm c.environment → load d env = .ok c :=
  ⟨fun _ capital ended horder => ofToml_written hsuffix horder capital ended,
    fun _ _ _ horder hgap _ _ hfile henv => load_json hsuffix horder hgap hfile henv,
    fun _ _ hfile henv => load_environment hsuffix hfile henv⟩

def trickyConfig : Config where
  credentialSuffix := "\ufeff\"\\u0041\\\"\n\x00\x7f\u0085"
  demoUsername := "1e3"
  demoSecret := "\"\ndemo_username = 'x' # 🦀"

example : Toml.written false true (trickyConfig.entries [.demoUsername, .demoSecret]) =
    "demo_username = \"1e3\"\n" ++
      "demo_secret = \"\\\"\\u000ademo_username = 'x' # 🦀\"\n" := by
  decide +kernel

theorem configurations_read_back_tricky :
    trickyConfig.credentialSuffix ≠ "" ∧
    ofToml (Toml.written false false
      (trickyConfig.entries [.demoUsername, .credentialSuffix, .demoSecret])) = .ok trickyConfig ∧
    load (lone "registry.json" (Json.written true (fun i => if i = 3 then "\r\n\t" else " ")
      (trickyConfig.entries [.demoSecret, .demoUsername, .credentialSuffix]))) [("HOME", "/")] =
        .ok trickyConfig ∧
    load Directory.empty (("HOME", "/") :: trickyConfig.environment) = .ok trickyConfig := by
  have hsuffix : trickyConfig.credentialSuffix ≠ "" := by decide
  obtain ⟨htoml, hjson, henvironment⟩ := configurations_read_back trickyConfig hsuffix
  refine ⟨hsuffix, htoml _ _ _ (by decide), ?_, ?_⟩
  · refine hjson _ true _ (by decide) (fun i => ?_) _ _ (holdsOnly_lone .json _) (by decide)
    split <;> exact List.all_eq_true.1 (by decide)
  · exact henvironment _ _ (fun _ => rfl) (by decide +kernel)

end Config
end AccountRegistry
