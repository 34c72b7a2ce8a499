import AccountRegistry.Proofs.Config.Choices
import AccountRegistry.Proofs.Settings.Origins

set_option autoImplicit false

/-!
# Two readings of one text

A text in TOML may come to the same whether it is read as it is or found in the one
settings file of a directory, with no variable that is a setting. The origin of
what is refused is all that a file can add. Where the keys lead apart, any reading
of the one kind agrees with any of the other, but for the choice of what is named.
-/
namespace AccountRegistry.Config
open AccountRegistry.Settings (Value Tree Layer LeadApart settle?)

def renamedError (f : Option String → Option String) : ConfigError → ConfigError
  | .invalidType found key origin => .invalidType found key (f origin)
  | e => e

theorem settingText_renamed {f : Option String → Option String} (hf : f none = none) (t : Tree)
    (s : Setting) : settingText (t.renamed f) s = (settingText t s).mapError (renamedError f) := by
  have hchild := Tree.child?_renamed (f := f) s.key (some t)
  rw [Option.map_some] at hchild
  unfold settingText
  rw [hchild]
  rcases Tree.child? s.key (some t) with _ | ⟨s⟩ | ⟨o⟩ | ⟨n, item, o⟩ | child
  case some.table =>
    simp only [Option.map_some, Tree.renamed, Except.mapError, renamedError, hf]
  all_goals rfl

/-- Readings that differ at most in the file that the first of them names: as the origin of what is
no text, or of text that does not parse. -/
inductive ReadAlike (file : String) : Except Fault Config → Except Fault Config → Prop
  | accepted (c : Config) : ReadAlike file (.ok c) (.ok c)
  | malformed (cause : String) (uri uri' : Option String) :
    ReadAlike file (.error (.refused (.fileParse cause uri)))
      (.error (.refused (.fileParse cause uri')))
  | mistyped (found : Found) (key : String) (origin : Option String)
      (htext : (ConfigError.invalidType found key origin).text =
          (ConfigError.invalidType found key none).text ∨
        (ConfigError.invalidType found key origin).text =
          (ConfigError.invalidType found key none).text ++ " in " ++ file) :
    ReadAlike file (.error (.refused (.invalidType found key origin)))
      (.error (.refused (.invalidType found key none)))
  | invalid (text : String) :
    ReadAlike file (.error (.refused (.message text))) (.error (.refused (.message text)))
  | aborted : ReadAlike file (.error .aborted) (.error .aborted)

def onlyFile (file : String) (origin : Option String) : Option String :=
  if origin = some file then origin else none

theorem invalidType_text {file : String} {origin : Option String} (found : Found) (key : String)
    (h : onlyFile file origin = origin) :
    (ConfigError.invalidType found key origin).text =
        (ConfigError.invalidType found key none).text ∨
      (ConfigError.invalidType found key origin).text =
        (ConfigError.invalidType found key none).text ++ " in " ++ file := by
  unfold onlyFile at h
  split at h
  · next hfile =>
    have happend : ∀ s : String, s ++ (" in " ++ file) = s ++ "" ++ " in " ++ file := fun s => by
      rw [String.append_empty, String.append_assoc]
    rw [hfile]
    exact .inr (happend _)
  · rw [← h]
    exact Or.inl (Eq.refl _)

theorem readAlike_validated (file : String) (c : Config) :
    ReadAlike file ((validated c).mapError .refused) ((validated c).mapError .refused) := by
  unfold validated
  split
  · exact .invalid _
  · exact .accepted c

/-- What a file settles, and what its text settles by itself. -/
structure FromFile (file : String) (ot ot' : Option Tree) : Prop where
  only : ot.map (Tree.renamed (onlyFile file)) = ot
  without : ot.map (Tree.renamed fun _ => none) = ot'
  there : ∀ t, ot = some t → ∀ s : Setting, (Tree.child? s.key (some t)).isSome

section Trees
variable {file : String} {ot ot' : Option Tree} {t : Tree}

theorem FromFile.mistyped (h : FromFile file (some t) ot') {s : Setting} {e : ConfigError}
    (hs : settingText t s = .error e) :
    ∃ e', settingText (t.renamed fun _ => none) s = .error e' ∧
      ReadAlike file (.error (.refused e)) (.error (.refused e')) := by
  obtain ⟨found, origin, rfl⟩ := settingText_of_error (h.there t rfl s) hs
  -- the error is the same with every origin but the file's struck out
  have hsame := settingText_renamed (f := onlyFile file) rfl t s
  rw [Option.some.inj h.only, hs] at hsame
  simp only [Except.mapError, renamedError, Except.error.injEq, ConfigError.invalidType.injEq,
    true_and] at hsame
  refine ⟨.invalidType found s.key none, ?_,
    .mistyped found s.key origin (invalidType_text found s.key hsame.symm)⟩
  rw [settingText_renamed rfl, hs]
  rfl

theorem FromFile.judged (h : FromFile file ot ot') {r : Except Fault Config} (hr : Judged ot r) :
    ∃ r', Judged ot' r' ∧ ReadAlike file r r' := by
  obtain rfl := h.without
  cases hr with
  | unsettled => exact ⟨_, .unsettled, .aborted⟩
  | mistyped s e hs =>
    obtain ⟨e', hs', halike⟩ := h.mistyped hs
    exact ⟨_, .mistyped s e' hs', halike⟩
  | read c hc =>
    refine ⟨_, .read c fun s => ?_, readAlike_validated file c⟩
    rw [settingText_renamed rfl, hc s]
    rfl

theorem FromFile.judged_without (h : FromFile file ot ot') {r' : Except Fault Config}
    (hr : Judged ot' r') : ∃ r, Judged ot r ∧ ReadAlike file r r' := by
  obtain rfl := h.without
  cases ot with
  | none =>
    cases hr
    exact ⟨_, .unsettled, .aborted⟩
  | some t =>
    cases hr with
    | mistyped s e' hs' =>
      cases hs : settingText t s with
      | ok text =>
        rw [settingText_renamed rfl, hs] at hs'
        cases hs'
      | error e =>
        obtain ⟨e'', hs'', halike⟩ := h.mistyped hs
        obtain rfl : e'' = e' := Except.error.inj (hs''.symm.trans hs')
        exact ⟨_, .mistyped s e hs, halike⟩
    | read c hc =>
      refine ⟨_, .read c fun s => ?_, readAlike_validated file c⟩
      have hs := hc s
      rw [settingText_renamed rfl] at hs
      cases htext : settingText t s with
      | ok text =>
        rw [htext] at hs
        exact hs
      | error e =>
        rw [htext] at hs
        cases hs

end Trees

section Layers
variable {file : String} {m : Layer} {entries entries' : List (String × Value)}

theorem renamed_of_rearranges {f : Option String → Option String} (hf : f none = none)
    (hm : Rearranges defaultLayer m) : m.renamed f = m := by
  obtain ⟨origin, defaults⟩ := m
  obtain rfl : origin = none := hm.origin
  rw [Layer.renamed, hf]

theorem rearranges_empty (h : Rearranges ⟨none, []⟩ m) : m = ⟨none, []⟩ := by
  have hkeys := h.keys.symm.eq_nil
  obtain ⟨entries, rfl, -⟩ := h.of_mk
  obtain rfl := List.map_eq_nil_iff.1 hkeys
  rfl

theorem settle?_silent (layers : List Layer) :
    settle? (layers ++ [⟨none, []⟩]) = settle? layers := by
  rw [settle?, List.foldlM_append]
  exact Option.bind_fun_some _

theorem fromFile_settled (file : String) (hm : Rearranges defaultLayer m)
    (hentries : (Value.table entries).Reorders (.table entries')) :
    FromFile file (settle? [m, ⟨some file, entries'⟩, ⟨none, []⟩])
      (settle? [m, ⟨none, entries'⟩]) := by
  have hsilent : settle? [m, ⟨some file, entries'⟩, ⟨none, []⟩] =
      settle? [m, ⟨some file, entries'⟩] := settle?_silent [m, ⟨some file, entries'⟩]
  have harranged : Arranges [⟨some file, entries⟩] [m, ⟨some file, entries'⟩] :=
    .cons hm (.cons ⟨rfl, hentries⟩ .nil)
  rw [hsilent]
  refine ⟨?_, ?_, fun t ht => child?_arranged harranged ht⟩
  · rw [Settings.settle?_renamed (f := onlyFile file) rfl, List.map_cons,
      renamed_of_rearranges rfl hm]
    simp only [List.map_cons, List.map_nil, Layer.renamed, onlyFile, if_pos]
  · rw [Settings.settle?_renamed (f := fun _ => none) rfl, List.map_cons,
      renamed_of_rearranges rfl hm]
    rfl

theorem mayCome_fromFile {r : Except Fault Config}
    (h : MayCome (.ok [⟨some file, entries⟩, ⟨none, []⟩]) r) :
    ∃ r', MayCome (.ok [⟨none, entries⟩]) r' ∧ ReadAlike file r r' := by
  cases h with
  | settled harranged hr =>
    rcases harranged with _ | ⟨hm, _ | ⟨hfile, _ | ⟨hsilent, _ | _⟩⟩⟩
    obtain ⟨entries', rfl, hentries⟩ := hfile.of_mk
    obtain rfl := rearranges_empty hsilent
    obtain ⟨r', hr', halike⟩ := (fromFile_settled file hm hentries).judged hr
    have htext : Arranges [⟨none, entries⟩] [_, ⟨none, entries'⟩] :=
      .cons hm (.cons ⟨rfl, hentries⟩ .nil)
    exact ⟨r', .settled htext hr', halike⟩

theorem mayCome_without {r' : Except Fault Config} (h : MayCome (.ok [⟨none, entries⟩]) r') :
    ∃ r, MayCome (.ok [⟨some file, entries⟩, ⟨none, []⟩]) r ∧ ReadAlike file r r' := by
  cases h with
  | settled harranged hr =>
    rcases harranged with _ | ⟨hm, _ | ⟨htext, _ | _⟩⟩
    obtain ⟨entries', rfl, hentries⟩ := htext.of_mk
    obtain ⟨r, hr, halike⟩ := (fromFile_settled file hm hentries).judged_without hr
    have hfile : Arranges [⟨some file, entries⟩, ⟨none, []⟩]
        [_, ⟨some file, entries'⟩, ⟨none, []⟩] :=
      .cons hm (.cons ⟨rfl, hentries⟩ (.cons (.refl _) .nil))
    exact ⟨r, .settled hfile hr, halike⟩

end Layers

structure HoldsOnly (d : Directory) (format : Format) (text : String) : Prop where
  bare : d.isFile fileName = false
  content : d format.fileName = some (.file text.toByteArray)
  alone : ∀ extension : String, d.isFile (fileName ++ "." ++ extension) →
    fileName ++ "." ++ extension = format.fileName

theorem exists_extension (f : Format) :
    ∃ extension, f.fileName = fileName ++ "." ++ extension := by
  cases f with
  | toml => exact ⟨"toml", by decide⟩
  | json => exact ⟨"json", by decide⟩

theorem fileName_injective : Function.Injective Format.fileName := by
  intro f g h
  cases f <;> cases g <;> first | rfl | exact absurd h (by decide)

section Holding
variable {d : Directory} {format : Format} {text : String} (h : HoldsOnly d format text)
include h

theorem HoldsOnly.selects : Selects d (some format) := by
  refine .file format h.bare ?_
  rw [Directory.isFile, h.content]

theorem HoldsOnly.eq_of_selects {choice : Option Format} (hchoice : Selects d choice) :
    choice = some format := by
  cases hchoice with
  | file f _ hf =>
    obtain ⟨extension, hname⟩ := exists_extension f
    have hsame := h.alone extension (hname ▸ hf)
    rw [fileName_injective (hname.trans hsame)]
  | none hnone =>
    cases h.selects with
    | file _ hbare hfile =>
      obtain hb | hf := hnone
      · rw [hbare] at hb
        cases hb
      · rw [hf format] at hfile
        cases hfile

theorem HoldsOnly.chosenLayer [Parsers] :
    chosenLayer d (some format) = textLayer format (some format.fileName) text := by
  have htext : d.text? format.fileName = some text := by
    rw [Directory.text?, h.content]
    exact dif_pos text.isValidUTF8
  rw [Config.chosenLayer, Option.bind_some, htext]
  rfl

theorem HoldsOnly.fileLayer [Parsers] :
    fileLayer d = textLayer format (some format.fileName) text := by
  rw [fileLayer_eq, h.eq_of_selects (selects_format? d), h.chosenLayer]

theorem HoldsOnly.mayLoad_iff [Parsers] {b : Block} {r : Except Fault Config} :
    MayLoad d b r ↔ MayCome (source d (some format) b) r :=
  ⟨fun ⟨_, hchoice, hr⟩ => h.eq_of_selects hchoice ▸ hr, fun hr => ⟨_, h.selects, hr⟩⟩

end Holding

theorem environmentLayer_of_silent {env : Environment}
    (h : ∀ v ∈ env, variableKey? v.1 = none) : environmentLayer env = ⟨none, []⟩ := by
  have hnone : ∀ v ∈ env, ((variableKey? v.1).map fun key => (key, Value.ofString v.2)) = none :=
    fun v hv => by rw [h v hv, Option.map_none]
  rw [environmentLayer, variableEntries, List.filterMap_eq_nil_iff.2 hnone]
  rfl

theorem UpToChoice.alike {file : String} {r r₁ r₂ : Except Fault Config} (h : ReadAlike file r r₁)
    (h' : UpToChoice Eq r₁ r₂) : UpToChoice (ReadAlike file) r r₂ := by
  cases h' with
  | related he => exact .related (he ▸ h)
  | named hkey =>
    cases h with
    | mistyped => exact .named hkey

section Readings
variable [Parsers] {d : Directory} {b : Block} {env : Environment} {text : String}

theorem HoldsOnly.source_malformed (h : HoldsOnly d .toml text) (hread : Toml.read? text = none) :
    source d (some .toml) b =
      .error (.refused (.fileParse (Parsers.refusal .toml text) (some "registry.toml"))) := by
  rw [source, h.chosenLayer, textLayer_of_malformed .toml hread]
  rfl

theorem HoldsOnly.source_parsed {entries : List (String × Value)} (h : HoldsOnly d .toml text)
    (hread : Toml.read? text = some entries) (hb : b.variables? = some env)
    (henv : ∀ v ∈ env, variableKey? v.1 = none) :
    source d (some .toml) b = .ok [⟨some "registry.toml", entries⟩, ⟨none, []⟩] := by
  rw [source_of_ok (h.chosenLayer.trans (textLayer_of_parsed .toml hread)) hb,
    environmentLayer_of_silent henv]
  rfl

/-- A text that a directory holds alone may come to the same things as the text by itself, if the
variables are text and none is a setting. Where its keys lead apart, all that the two may come to is
alike but for the choice among several settings that are wrong. -/
theorem readings_agree (h : HoldsOnly d .toml text) (hb : b.variables? = some env)
    (henv : ∀ v ∈ env, variableKey? v.1 = none) :
    (MayLoad d b (loadFrom d b) ∧ MayReadToml text (ofToml text)) ∧
    (∀ r, MayLoad d b r → ∃ r', MayReadToml text r' ∧ ReadAlike "registry.toml" r r') ∧
    (∀ r', MayReadToml text r' → ∃ r, MayLoad d b r ∧ ReadAlike "registry.toml" r r') ∧
    (LeadApart (keysOf .toml text) → ∀ r r', MayLoad d b r → MayReadToml text r' →
      UpToChoice (ReadAlike "registry.toml") r r') := by
  refine ⟨⟨mayLoad_loadFrom d b, mayReadToml_ofToml text⟩, ?_⟩
  simp only [h.mayLoad_iff]
  unfold MayReadToml
  cases hread : Toml.read? text with
  | none =>
    rw [h.source_malformed hread, tomlSource, textLayer_of_malformed .toml hread]
    refine ⟨fun r hr => ?_, fun r' hr' => ?_, fun _ r r' hr hr' => ?_⟩
    · cases hr
      exact ⟨_, .stopped _, .malformed _ _ _⟩
    · cases hr'
      exact ⟨_, .stopped _, .malformed _ _ _⟩
    · cases hr
      cases hr'
      exact .related (.malformed _ _ _)
  | some entries =>
    have htext : textLayer .toml none text = .ok ⟨none, entries⟩ := textLayer_of_parsed .toml hread
    rw [h.source_parsed hread hb henv, tomlSource_of_ok htext]
    refine ⟨fun r => mayCome_fromFile, fun r' => mayCome_without, fun hapart r r' hr hr' => ?_⟩
    obtain ⟨r'', hr'', halike⟩ := mayCome_fromFile hr
    have horderly := List.forall_mem_singleton.2 (orderly_text htext hapart)
    exact .alike halike (mayCome_unique horderly hr'' hr')

end Readings

theorem holdsOnly_lone (format : Format) (text : String) :
    HoldsOnly (lone format.fileName text) format text where
  bare := by
    cases format <;> rfl
  content := if_pos rfl
  alone _ hfile := lone_isFile hfile

def listedText : String := "\ufeffdemo_secret=['x']"

theorem readings_agree_listed :
    let d := lone "registry.toml" listedText
    let b := Block.ofText [("HOME", "/")]
    HoldsOnly d .toml listedText ∧ b.variables? = some [("HOME", "/")] ∧
    (∀ v ∈ [("HOME", "/")], variableKey? v.1 = none) ∧ LeadApart (keysOf .toml listedText) ∧
    ofToml listedText = .error (.refused (.invalidType .sequence "demo_secret" none)) ∧
    (∃ r, MayLoad d b r ∧ ReadAlike "registry.toml" r (ofToml listedText)) ∧
    UpToChoice (ReadAlike "registry.toml") (loadFrom d b) (ofToml listedText) := by
  intro d b
  have hlone := holdsOnly_lone .toml listedText
  have hb : b.variables? = some [("HOME", "/")] := Block.variables?_ofText _
  have hsilent : ∀ v ∈ [("HOME", "/")], variableKey? v.1 = none := by decide
  have hapart : LeadApart (keysOf .toml listedText) := by decide +kernel
  obtain ⟨⟨hload, htoml⟩, -, hexists, hunique⟩ := readings_agree hlone hb hsilent
  exact ⟨hlone, hb, hsilent, hapart, by decide +kernel, hexists _ htoml,
    hunique hapart _ _ hload htoml⟩

/-- One reading may take a text for the secret and another refuse it as a table; and a variable that
is not text breaks off the one that sees it. -/
theorem readings_differ :
    let d := lone "registry.toml" tornText
    (HoldsOnly d .toml tornText ∧ MayLoad d [] (.ok tornConfig) ∧
      MayReadToml tornText (.error (.refused tornError)) ∧
      ¬ ReadAlike "registry.toml" (.ok tornConfig) (.error (.refused tornError))) ∧
    HoldsOnly (lone "registry.toml" "") .toml "" ∧
    loadFrom (lone "registry.toml" "") [("LANG".toByteArray, ⟨#[0xff]⟩)] = .error .aborted ∧
      ofToml "" = .ok .default := by
  have hrefused : ofToml tornText = .error (.refused tornError) := by decide +kernel
  exact ⟨⟨holdsOnly_lone .toml _, mayLoad_torn.1, hrefused ▸ mayReadToml_ofToml tornText, nofun⟩,
    holdsOnly_lone .toml _, by decide +kernel, by decide +kernel⟩

end AccountRegistry.Config
