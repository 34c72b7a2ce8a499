import AccountRegistry.Config.Reading
import AccountRegistry.Proofs.Json.Keys
import AccountRegistry.Proofs.Settings.Layering
import AccountRegistry.Proofs.Toml.Keys

set_option autoImplicit false

/-!
# What loading a configuration comes to

Where a directory holds one settings file at most, no two variables differ in
case alone and no key leads below the root, every setting has one value: what
the environment says, else what the file says, else the default. A malformed
file is refused before any value is looked at, a value that is no text before
the suffix is.
-/
namespace AccountRegistry.Config
open AccountRegistry.Settings (Value Tree Layer IsPlain)

/-- The text that the environment gives a setting; no more than one variable is thought to. -/
def given? (env : Environment) (s : Setting) : Option String :=
  env.findSome? fun (name, text) => if variableKey? name = some s.key then some text else none

/-- The value that counts for a setting. An empty table in the file says nothing. -/
def chosen (file : List (String × Value)) (env : Environment) (s : Setting) : Value :=
  match given? env s, file.lookup s.key with
  | some text, _ => .ofString text
  | none, some (.table []) => .ofString (default.get s)
  | none, some v => v
  | none, none => .ofString (default.get s)

section Choice

variable {file : List (String × Value)} {env : Environment} {s : Setting}

theorem chosen_of_given {text : String} (h : given? env s = some text) :
    chosen file env s = .ofString text := by
  unfold chosen
  rw [h]

theorem chosen_of_file {v : Value} (h : given? env s = none) (hfile : file.lookup s.key = some v)
    (hv : v ≠ .table []) : chosen file env s = v := by
  unfold chosen
  rw [h, hfile]
  split
  · next he => cases he
  · next he => exact absurd (Option.some.inj he) hv
  · next he => exact (Option.some.inj he).symm
  · next he => cases he

theorem chosen_of_silent (h : given? env s = none)
    (hfile : file.lookup s.key = none ∨ file.lookup s.key = some (.table [])) :
    chosen file env s = .ofString (default.get s) := by
  unfold chosen
  obtain hnone | hempty := hfile
  · rw [h, hnone]
  · rw [h, hempty]

end Choice

def taken (origin : Option String) (s : Setting) : Value → Except ConfigError String
  | .scalar x => .ok x.asText
  | .table _ => .error (.invalidType .map s.key none)
  | .array _ => .error (.invalidType .sequence s.key origin)
  | .null => .error (.invalidType .unit s.key origin)

/-- What the values of the settings come to. If several of them are no texts, any of those may be
the one that is named. -/
inductive Outcome (origin : Option String) (value : Setting → Value) : Except Fault Config → Prop
  | mistyped (s : Setting) (error : ConfigError) (h : taken origin s (value s) = .error error) :
    Outcome origin value (.error (.refused error))
  | suffixless (c : Config) (h : ∀ s, taken origin s (value s) = .ok (c.get s))
      (hempty : c.credentialSuffix = "") :
    Outcome origin value (.error (.refused (.message "credential_suffix cannot be empty")))
  | accepted (c : Config) (h : ∀ s, taken origin s (value s) = .ok (c.get s))
      (hsuffix : c.credentialSuffix ≠ "") :
    Outcome origin value (.ok c)

theorem variableKey?_eq_some {name key : String} (h : variableKey? name = some key) :
    name.toList.map lowered = (variablePrefix.toList ++ ['_']).map lowered ++ key.toList := by
  unfold variableKey? at h
  simp only [Option.ite_none_right_eq_some, Option.some.injEq] at h
  obtain ⟨hmark, rfl⟩ := h
  rw [String.toList_ofList]
  exact (List.prefix_iff_eq_append.1 (List.isPrefixOf_iff_prefix.1 hmark)).symm

theorem variableEntries_keys (env : Environment) :
    (variableEntries env).map Prod.fst = env.filterMap fun v => variableKey? v.1 := by
  simp only [variableEntries, List.map_filterMap, Option.map_map]
  congr 1
  funext v
  cases variableKey? v.1 <;> rfl

theorem environmentLayer_nodup (env : Environment) :
    ((environmentLayer env).entries.map Prod.fst).Nodup :=
  Settings.latest_nodup _

theorem environmentLayer_entries {env : Environment}
    (hnames : (env.map fun v => v.1.toList.map lowered).Nodup) :
    (environmentLayer env).entries = variableEntries env := by
  refine Settings.latest_eq_self ?_
  rw [variableEntries_keys]
  -- a key is the lower case of what follows the prefix, so one key comes from one name
  refine List.Pairwise.filterMap _ ?_ (List.pairwise_map.1 hnames)
  rintro v w hne key hv _ hw rfl
  exact hne ((variableKey?_eq_some hv).trans (variableKey?_eq_some hw).symm)

theorem environmentLayer_lookup {env : Environment}
    (hnames : (env.map fun v => v.1.toList.map lowered).Nodup) (s : Setting) :
    (environmentLayer env).entries.lookup s.key = (given? env s).map Value.ofString := by
  rw [environmentLayer_entries hnames]
  clear hnames
  induction env with
  | nil => rfl
  | cons v env ih =>
    obtain ⟨name, text⟩ := v
    simp only [variableEntries, given?] at ih ⊢
    cases hkey : variableKey? name with
    | none => simpa [hkey] using ih
    | some key =>
      by_cases hs : key = s.key
      · simp [hkey, hs]
      · have hne : (s.key == key) = false := by simpa using fun he : s.key = key => hs he.symm
        simpa [hkey, hs, List.lookup_cons, hne] using ih

theorem load_filter [Parsers] {p : String × String → Bool}
    (hp : ∀ v, p v = false → variableKey? v.1 = none)
    (d : Directory) (env : Environment) : load d (env.filter p) = load d env := by
  have hlayer : environmentLayer (env.filter p) = environmentLayer env := by
    unfold environmentLayer variableEntries
    rw [List.filterMap_filter]
    congr 3
    funext ⟨name, text⟩
    cases hv : p (name, text) with
    | true => rfl
    | false => simp [show variableKey? name = none from hp _ hv]
  unfold load
  rw [hlayer]

theorem key_injective : Function.Injective Setting.key := by
  intro s s' h
  cases s <;> cases s' <;> first | rfl | exact absurd h (by decide)

theorem isPlain_key (s : Setting) : IsPlain s.key := by
  unfold IsPlain
  cases s <;> decide +kernel

theorem defaultLayer_plain : ∀ e ∈ defaultLayer.entries, IsPlain e.1 := by
  intro e he
  obtain ⟨s, -, rfl⟩ := List.mem_map.1 he
  exact isPlain_key s

theorem defaultLayer_nodup : (defaultLayer.entries.map Prod.fst).Nodup := by
  decide

theorem defaultLayer_lookup (s : Setting) :
    defaultLayer.entries.lookup s.key = some (Value.ofString (default.get s)) := by
  cases s <;> rfl

theorem environmentLayer_plain {env : Environment}
    (hplain : ∀ v ∈ env, ∀ key, variableKey? v.1 = some key → IsPlain key) :
    ∀ e ∈ (environmentLayer env).entries, IsPlain e.1 := by
  intro e he
  obtain ⟨v, hv, hmap⟩ := List.mem_filterMap.1 ((Settings.latest_sublist _).subset he)
  obtain ⟨key, hkey, rfl⟩ := Option.map_eq_some_iff.1 hmap
  exact hplain v hv key hkey

theorem settingText_of_text {origin : Option String} {t : Tree} {s : Setting} {text : String}
    (h : Tree.child? s.key (some t) = some (.text text)) :
    settingText t s = taken origin s (.ofString text) := by
  unfold settingText
  rw [h]
  rfl

/-- A value merged into a setting decides about it, unless it is an empty table. -/
theorem settingText_of_merge {origin : Option String} {t : Tree} {s : Setting} {v : Value}
    {old : Option Tree} (h : Tree.child? s.key (some t) = some (Tree.merge origin v old))
    (hv : v ≠ .table []) : settingText t s = taken origin s v := by
  unfold settingText
  rw [h]
  cases v with
  | null => rfl
  | scalar x => rfl
  | array items => rfl
  | table entries =>
    cases entries with
    | nil => exact absurd rfl hv
    | cons e entries =>
      have htable := Tree.isTable_merge origin e entries old
      cases hmerge : Tree.merge origin (.table (e :: entries)) old with
      | table child => rfl
      | text x => rw [hmerge] at htable; cases htable
      | null origin => rw [hmerge] at htable; cases htable
      | array length item origin => rw [hmerge] at htable; cases htable

section Layers

variable (origin : Option String) {file : List (String × Value)} {env : Environment}

/-- Of the three layers each setting has the text of the value that counts, or is refused with
that value's error. -/
theorem exists_settled (hfile : ∀ e ∈ file, IsPlain e.1) (hkeys : (file.map Prod.fst).Nodup)
    (henv : ∀ v ∈ env, ∀ key, variableKey? v.1 = some key → IsPlain key)
    (hnames : (env.map fun v => v.1.toList.map lowered).Nodup) :
    ∃ t, Settings.settle? [defaultLayer, ⟨origin, file⟩, environmentLayer env] = some t ∧
      ∀ s, settingText t s = taken origin s (chosen file env s) := by
  obtain ⟨t₁, happly₁, hchild₁⟩ := Settings.applies_plain defaultLayer defaultLayer_plain
    defaultLayer_nodup Tree.empty
  obtain ⟨t₂, happly₂, hchild₂⟩ := Settings.applies_plain ⟨origin, file⟩ hfile hkeys t₁
  obtain ⟨t₃, happly₃, hchild₃⟩ := Settings.applies_plain (environmentLayer env)
    (environmentLayer_plain henv) (environmentLayer_nodup env) t₂
  refine ⟨t₃, ?_, fun s => ?_⟩
  · simp only [Settings.settle?, List.foldlM_cons, List.foldlM_nil, Option.bind_eq_bind, happly₁,
      happly₂, happly₃, Option.bind_some, Option.pure_def]
  · -- below the file's layer every setting has a text, so an empty table leaves that text
    have hdefault : Tree.child? s.key (some t₁) = some (.text (default.get s)) := by
      rw [hchild₁, defaultLayer_lookup]
      rfl
    have hover := hchild₂ s.key
    have hlast := hchild₃ s.key
    rw [hdefault] at hover
    rw [environmentLayer_lookup hnames] at hlast
    cases hgiven : given? env s with
    | some text =>
      rw [hgiven] at hlast
      rw [chosen_of_given hgiven]
      exact settingText_of_text hlast
    | none =>
      rw [hgiven] at hlast
      have hfinal := hlast.trans hover
      cases hlookup : file.lookup s.key with
      | none =>
        rw [hlookup] at hfinal
        rw [chosen_of_silent hgiven (.inl hlookup)]
        exact settingText_of_text hfinal
      | some v =>
        rw [hlookup] at hfinal
        by_cases hv : v = .table []
        · subst hv
          rw [chosen_of_silent hgiven (.inr hlookup)]
          exact settingText_of_text (hfinal.trans (congrArg some (Tree.merge_empty origin _)))
        · rw [chosen_of_file hgiven hlookup hv]
          exact settingText_of_merge hfinal hv

end Layers

theorem ofTree_cases (t : Tree) :
    (∃ c, ofTree t = .ok c ∧ ∀ s, settingText t s = .ok (c.get s)) ∨
      ∃ s error, ofTree t = .error error ∧ settingText t s = .error error := by
  unfold ofTree
  cases hsuffix : settingText t .credentialSuffix with
  | error error => exact .inr ⟨.credentialSuffix, error, rfl, hsuffix⟩
  | ok suffix =>
    cases husername : settingText t .demoUsername with
    | error error => exact .inr ⟨.demoUsername, error, rfl, husername⟩
    | ok username =>
      cases hsecret : settingText t .demoSecret with
      | error error => exact .inr ⟨.demoSecret, error, rfl, hsecret⟩
      | ok secret =>
        refine .inl ⟨⟨suffix, username, secret⟩, rfl, fun s => ?_⟩
        cases s with
        | credentialSuffix => exact hsuffix
        | demoUsername => exact husername
        | demoSecret => exact hsecret

theorem outcome_ofLayers {origin : Option String} {value : Setting → Value} {layers : List Layer}
    {t : Tree} (hsettle : Settings.settle? (defaultLayer :: layers) = some t)
    (htext : ∀ s, settingText t s = taken origin s (value s)) :
    Outcome origin value (ofLayers layers) := by
  unfold ofLayers
  rw [hsettle]
  obtain ⟨c, hc, hget⟩ | ⟨s, error, herror, hs⟩ := ofTree_cases t
  · have hvalues : ∀ s, taken origin s (value s) = .ok (c.get s) := fun s =>
      (htext s).symm.trans (hget s)
    by_cases hempty : c.credentialSuffix = ""
    · have hrefused : ((ofTree t).bind validated).mapError Fault.refused =
          .error (.refused (.message "credential_suffix cannot be empty")) := by
        rw [hc]
        simp only [Except.bind, validated, if_pos hempty, Except.mapError]
      dsimp only
      rw [hrefused]
      exact .suffixless c hvalues hempty
    · have hok : ((ofTree t).bind validated).mapError Fault.refused = .ok c := by
        rw [hc]
        simp only [Except.bind, validated, if_neg hempty, Except.mapError]
      dsimp only
      rw [hok]
      exact .accepted c hvalues hempty
  · dsimp only
    rw [herror]
    exact .mistyped s error ((htext s).symm.trans hs)

def IsRead [Parsers] (c : Config) : Prop :=
  (∃ d env, load d env = .ok c) ∨ ∃ text, ofToml text = .ok c

theorem suffix_ne_empty_of_ofLayers {layers : List Layer} {c : Config}
    (h : ofLayers layers = .ok c) : c.credentialSuffix ≠ "" := by
  unfold ofLayers at h
  cases hsettle : Settings.settle? (defaultLayer :: layers) with
  | none => rw [hsettle] at h; cases h
  | some t =>
    rw [hsettle] at h
    obtain ⟨read, hread, -⟩ | ⟨s, error, herror, -⟩ := ofTree_cases t
    · simp only [hread, Except.bind, validated] at h
      split at h
      · cases h
      · next hne =>
        cases h
        exact hne
    · simp only [herror, Except.bind, Except.mapError] at h
      cases h

theorem IsRead.suffix_ne_empty [Parsers] {c : Config} (h : c.IsRead) : c.credentialSuffix ≠ "" := by
  obtain ⟨d, env, h⟩ | ⟨text, h⟩ := h
  · unfold load at h
    cases hfile : fileLayer d with
    | error fault => rw [hfile] at h; cases h
    | ok layer =>
      rw [hfile] at h
      exact suffix_ne_empty_of_ofLayers h
  · unfold ofToml at h
    cases htext : textLayer .toml none text with
    | error fault => rw [htext] at h; cases h
    | ok layer =>
      rw [htext] at h
      exact suffix_ne_empty_of_ofLayers h

/-- A directory with one settings file at most and an environment in which no two variables differ
in case alone; no key of either leads below the root. -/
structure Unambiguous (d : Directory) (env : Environment) : Prop where
  bare : d.isFile fileName = false
  format_unique : ∀ f g : Format, d.isFile f.fileName → d.isFile g.fileName → f = g
  names_nodup : (env.map fun v => v.1.toList.map lowered).Nodup
  entries_plain : ∀ (f : Format) (text : String) (entries : List (String × Value)),
    d.text? f.fileName = some text → f.entries? text = some entries → ∀ e ∈ entries, IsPlain e.1
  variables_plain : ∀ v ∈ env, ∀ key, variableKey? v.1 = some key → IsPlain key

theorem isFile_of_text? {d : Directory} {name text : String} (h : d.text? name = some text) :
    d.isFile name := by
  unfold Directory.text? at h
  unfold Directory.isFile
  cases hname : d name with
  | none => rw [hname] at h; cases h
  | some entry =>
    rw [hname] at h
    cases entry with
    | folder => cases h
    | file content => rfl
    | unreadable => cases h

theorem entries?_nodup {f : Format} {text : String} {entries : List (String × Value)}
    (h : f.entries? text = some entries) : (entries.map Prod.fst).Nodup := by
  cases f with
  | toml => exact Toml.read?_nodup h
  | json => exact Json.read?_nodup h

section Texts
variable [Parsers] {format : Format} {origin : Option String} {text : String}
  {entries : List (String × Value)} {l : Layer}

theorem textLayer_of_parsed (format : Format) (h : format.entries? text = some entries) :
    textLayer format origin text = .ok ⟨origin, entries⟩ := by
  rw [textLayer, h]

theorem textLayer_of_malformed (format : Format) (h : format.entries? text = none) :
    textLayer format origin text =
      .error (.refused (.fileParse (Parsers.refusal format text) origin)) := by
  rw [textLayer, h]

theorem exists_entries (h : textLayer format origin text = .ok l) :
    ∃ entries, format.entries? text = some entries ∧ l = ⟨origin, entries⟩ := by
  cases hparse : format.entries? text with
  | none => cases (textLayer_of_malformed _ hparse).symm.trans h
  | some entries =>
    cases (textLayer_of_parsed _ hparse).symm.trans h
    exact ⟨entries, rfl, rfl⟩

end Texts

theorem format?_of_isFile {d : Directory} {env : Environment} (h : Unambiguous d env) {f : Format}
    (hf : d.isFile f.fileName) : format? d = some f := by
  unfold format?
  rw [if_neg (by simp [h.bare])]
  cases f with
  | toml => rw [if_pos hf]
  | json =>
    have htoml : ¬ d.isFile Format.toml.fileName := fun ht =>
      nomatch h.format_unique .toml .json ht hf
    rw [if_neg htoml, if_pos hf]

theorem settingsText?_of_text? {d : Directory} {env : Environment} (h : Unambiguous d env)
    {f : Format} {text : String} (htext : d.text? f.fileName = some text) :
    settingsText? d = some (f, text) := by
  unfold settingsText?
  rw [format?_of_isFile h (isFile_of_text? htext)]
  simp only [Option.bind_eq_bind, Option.bind_some, htext, Option.pure_def]

theorem settingsText?_eq_none {d : Directory} (h : ∀ f : Format, d.text? f.fileName = none) :
    settingsText? d = none := by
  unfold settingsText?
  cases format? d with
  | none => rfl
  | some f => simp only [Option.bind_eq_bind, Option.bind_some, h f, Option.bind_none]

/-- What loading comes to. A file that does not parse is refused whatever the environment says;
otherwise the values that count for the settings decide. -/
theorem load_outcome [Parsers] {d : Directory} {env : Environment} (h : Unambiguous d env) :
    (∀ (f : Format) (text : String), d.text? f.fileName = some text → f.entries? text = none →
      load d env =
        .error (.refused (.fileParse (Parsers.refusal f text) (some f.fileName)))) ∧
    (∀ (f : Format) (text : String) (entries : List (String × Value)),
      d.text? f.fileName = some text → f.entries? text = some entries →
        Outcome (some f.fileName) (chosen entries env) (load d env)) ∧
    ((∀ f : Format, d.text? f.fileName = none) → Outcome none (chosen [] env) (load d env)) := by
  refine ⟨fun f text htext hparse => ?_, fun f text entries htext hparse => ?_, fun hnone => ?_⟩
  · have hlayer : fileLayer d =
        .error (.refused (.fileParse (Parsers.refusal f text) (some f.fileName))) := by
      simp only [fileLayer, settingsText?_of_text? h htext, textLayer, hparse]
    unfold load
    rw [hlayer]
    rfl
  · have hlayer : fileLayer d = .ok ⟨some f.fileName, entries⟩ := by
      simp only [fileLayer, settingsText?_of_text? h htext, textLayer, hparse]
    obtain ⟨t, hsettle, hread⟩ := exists_settled (some f.fileName)
      (h.entries_plain f text entries htext hparse) (entries?_nodup hparse) h.variables_plain
      h.names_nodup
    unfold load
    rw [hlayer]
    exact outcome_ofLayers hsettle hread
  · have hlayer : fileLayer d = .ok ⟨none, []⟩ := by
      simp only [fileLayer, settingsText?_eq_none hnone]
    have hfile : ∀ e ∈ ([] : List (String × Value)), IsPlain e.1 := fun e he => nomatch he
    obtain ⟨t, hsettle, hread⟩ := exists_settled none hfile List.nodup_nil
      h.variables_plain h.names_nodup
    unfold load
    rw [hlayer]
    exact outcome_ofLayers hsettle hread

def lone (name text : String) : Directory :=
  fun n => if n = name then some (.file text.toByteArray) else none

theorem lone_text? (name text n : String) :
    (lone name text).text? n = if n = name then some text else none := by
  unfold Directory.text? lone
  by_cases hn : n = name
  · rw [if_pos hn, if_pos hn]
    exact dif_pos text.isValidUTF8
  · rw [if_neg hn, if_neg hn]

theorem lone_isFile {name text n : String} (h : (lone name text).isFile n) : n = name := by
  by_contra hn
  unfold Directory.isFile lone at h
  rw [if_neg hn] at h
  cases h

theorem settingsText?_lone (text : String) :
    settingsText? (lone "registry.toml" text) = some (.toml, text) := by
  have hformat : format? (lone "registry.toml" text) = some .toml := rfl
  unfold settingsText?
  rw [hformat]
  simp only [Option.bind_eq_bind, Option.bind_some, lone_text?]
  rfl

def settingsText : String := "demo_secret=[]"

def settingsEntries : List (String × Value) := [("demo_secret", .array [])]

def settingsVariables : Environment := [("User_Registry_Demo_Secret", ""), ("HOME", "/")]

theorem load_outcome_layered :
    Unambiguous (lone "registry.toml" settingsText) settingsVariables ∧
      Outcome (some "registry.toml") (chosen settingsEntries settingsVariables)
        (load (lone "registry.toml" settingsText) settingsVariables) := by
  have hparse : Toml.read? settingsText = some settingsEntries := by cbv
  have h : Unambiguous (lone "registry.toml" settingsText) settingsVariables := by
    refine ⟨by decide, fun f g hf hg => ?_, by decide, fun f text entries htext hentries => ?_, ?_⟩
    · have hfg : f.fileName = g.fileName := (lone_isFile hf).trans (lone_isFile hg).symm
      cases f <;> cases g <;> first | rfl | exact absurd hfg (by decide)
    · cases f with
      | toml =>
        obtain rfl : settingsText = text :=
          Option.some.inj ((lone_text? _ _ _).symm.trans htext)
        obtain rfl : settingsEntries = entries := Option.some.inj (hparse.symm.trans hentries)
        have hkeys : ∀ key ∈ settingsEntries.map Prod.fst,
            (Settings.Path.ofKey key).steps = [] := by
          decide +kernel
        exact fun e he => hkeys e.1 (List.mem_map_of_mem he)
      | json => cases (lone_text? _ _ _).symm.trans htext
    · have hkeys : ∀ key ∈ settingsVariables.filterMap fun v => variableKey? v.1,
          (Settings.Path.ofKey key).steps = [] := by
        decide +kernel
      exact fun v hv key hkey => hkeys key (List.mem_filterMap.2 ⟨v, hv, hkey⟩)
  exact ⟨h, (load_outcome h).2.1 .toml settingsText settingsEntries (lone_text? _ _ _) hparse⟩

end AccountRegistry.Config
