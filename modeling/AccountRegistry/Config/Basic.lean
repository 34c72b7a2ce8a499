import AccountRegistry.Config.Error
import AccountRegistry.Settings.Tree

set_option autoImplicit false

/-!
# The configuration

Three settings, their defaults, and how they are taken from a tree of settings.
A configuration is accepted only with a suffix that is not empty.
-/
namespace AccountRegistry
open AccountRegistry.Text
open AccountRegistry.Settings (Tree Layer Value)

inductive Setting where
  | credentialSuffix
  | demoUsername
  | demoSecret
deriving DecidableEq, Repr

def Setting.key : Setting → String
  | .credentialSuffix => "credential_suffix"
  | .demoUsername => "demo_username"
  | .demoSecret => "demo_secret"

structure Config where
  credentialSuffix : String
  demoUsername : String
  demoSecret : String
deriving DecidableEq, Repr

def defaultCredentialSuffix : String := "_hashed"

namespace Config

def default : Config where
  credentialSuffix := defaultCredentialSuffix
  demoUsername := "alice"
  demoSecret := "password123"

instance : Inhabited Config := ⟨default⟩

def get (c : Config) : Setting → String
  | .credentialSuffix => c.credentialSuffix
  | .demoUsername => c.demoUsername
  | .demoSecret => c.demoSecret

def description (c : Config) : String :=
  describe "RegistryConfig"
    [("credential_suffix", quote c.credentialSuffix),
     ("demo_username", quote c.demoUsername),
     ("demo_secret", quote c.demoSecret)]

def defaultLayer : Layer where
  origin := none
  entries := [Setting.credentialSuffix, .demoUsername, .demoSecret].map fun s =>
    (s.key, Value.ofString (default.get s))

/-- Why reading did not give a configuration: it was refused with an error, or it was broken off
by an index which no list has. -/
inductive Fault where
  | refused (error : ConfigError)
  | aborted
deriving DecidableEq, Repr

def settingText (t : Tree) (s : Setting) : Except ConfigError String :=
  match Tree.child? s.key (some t) with
  | some (.text text) => .ok text
  | some (.table _) => .error (.invalidType .map s.key none)
  | some (.array _ _ origin) => .error (.invalidType .sequence s.key origin)
  | some (.null origin) => .error (.invalidType .unit s.key origin)
  | none => .error (.notFound s.key)

def ofTree (t : Tree) : Except ConfigError Config := do
  let credentialSuffix ← settingText t .credentialSuffix
  let demoUsername ← settingText t .demoUsername
  let demoSecret ← settingText t .demoSecret
  return { credentialSuffix, demoUsername, demoSecret }

def validated (c : Config) : Except ConfigError Config :=
  if c.credentialSuffix = "" then .error (.message "credential_suffix cannot be empty")
  else .ok c

def ofLayers (layers : List Layer) : Except Fault Config :=
  match Settings.settle? (defaultLayer :: layers) with
  | none => .error .aborted
  | some t => ((ofTree t).bind validated).mapError .refused

end Config
end AccountRegistry
